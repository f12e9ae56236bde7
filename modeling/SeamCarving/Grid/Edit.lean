import SeamCarving.Grid.Bands

/-!
# Edits of a grid

The ways in which a grid can change once it is made, as data, so that statements can range over any sequence
of them. An edit that addresses no cell is refused, and a refused edit leaves the grid as it was.
-/

namespace SeamCarving.Grid

variable {α : Type}

/-- One change to a grid. -/
inductive Edit (α : Type) where
  /-- Replace the cell at `(x, y)`. -/
  | set (x y : Nat) (value : α)
  /-- Replace a cell of the storage by its position. -/
  | setStored (position : Nat) (value : α)
  /-- Repaint all cells, band by band. -/
  | mapBands (rows : Nat) (paint : Nat → Nat → α → α)
  /-- Read the storage as rows of another width. -/
  | setWidth (width : Nat)
  /-- Claim another number of rows. -/
  | setHeight (height : Nat)

/-- The grid after the edit, absent if the edit is refused. -/
def edit? (grid : Grid α) : Edit α → Option (Grid α)
  | .set x y value => grid.set? x y value
  | .setStored position value => grid.setStored? position value
  | .mapBands rows paint => grid.mapBands? rows paint
  | .setWidth width => some { grid with width }
  | .setHeight height => some { grid with height }

/-- The grid after the edit, or as it was if the edit is refused. -/
def edit (grid : Grid α) (change : Edit α) : Grid α :=
  (grid.edit? change).getD grid

/-- The grid after all the edits, one after another. -/
def editAll (grid : Grid α) (changes : List (Edit α)) : Grid α :=
  changes.foldl edit grid

end SeamCarving.Grid

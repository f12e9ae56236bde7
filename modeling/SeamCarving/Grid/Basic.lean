import SeamCarving.Error

/-!
# Grids

A grid is a row-major storage of cells together with the width and height by which it is read. Every product
of seam carving is a value for each pixel, so colours, energies, path costs and predecessors are all grids.

The two sizes may be changed without touching the storage, so they need not describe it; `WellFormed` says
that they do. Cell `(x, y)` is the storage cell `y * width + x`. Two kinds of access differ in what they
check: `get?` and `set?` ask only for a cell of the storage, while `cell?` and `setCell?` ask for a column
below the width and a row below the height as well.
-/

namespace SeamCarving

/-- Row-major cells, read as rows of `width`. -/
structure Grid (α : Type) where
  /-- The number of cells in a row. -/
  width : Nat
  /-- The number of rows. -/
  height : Nat
  /-- The cells of all rows, one row after another. -/
  cells : Array α
  deriving BEq, DecidableEq

namespace Grid

variable {α : Type}

/-- The storage holds exactly the cells that the two sizes call for. -/
def WellFormed (grid : Grid α) : Prop :=
  grid.cells.size = grid.width * grid.height

instance (grid : Grid α) : Decidable grid.WellFormed :=
  inferInstanceAs (Decidable (_ = _))

/-! ## Making grids -/

/-- A grid with the same value in every cell. -/
def replicate (width height : Nat) (value : α) : Grid α :=
  ⟨width, height, Array.replicate (width * height) value⟩

/-- Reads row-major cells as a grid, if there are as many of them as the sizes call for. -/
def ofCells (width height : Nat) (cells : Array α) : Except CarveError (Grid α) :=
  if cells.size = width * height then
    .ok ⟨width, height, cells⟩
  else
    .error (.badDimensions width height cells.size)

/-- The grid whose cell `(x, y)` is `value x y`. -/
def ofFn (width height : Nat) (value : Nat → Nat → α) : Grid α :=
  ⟨width, height, .ofFn fun index : Fin (width * height) => value (index % width) (index / width)⟩

/-- The grid whose cells are the answers of `value`, asked once for each cell, row by row. -/
def ofFnM {m : Type → Type} [Monad m] (width height : Nat) (value : Nat → Nat → m α) : m (Grid α) := do
  let cells ← Array.ofFnM fun index : Fin (width * height) => value (index % width) (index / width)
  return ⟨width, height, cells⟩

theorem wellFormed_replicate (width height : Nat) (value : α) :
    (replicate width height value).WellFormed := by
  simp [WellFormed, replicate]

theorem wellFormed_ofFn (width height : Nat) (value : Nat → Nat → α) :
    (ofFn width height value).WellFormed := by
  simp [WellFormed, ofFn]

/-- The grid with `f` applied to every stored cell. -/
def map {β : Type} (f : α → β) (grid : Grid α) : Grid β :=
  ⟨grid.width, grid.height, grid.cells.map f⟩

theorem WellFormed.map {β : Type} {grid : Grid α} (filled : grid.WellFormed) (f : α → β) :
    (grid.map f).WellFormed := by
  simpa [WellFormed, Grid.map] using filled

/-! ## Cells of the storage -/

/-- Where cell `(x, y)` stands in the storage. -/
def index (grid : Grid α) (x y : Nat) : Nat :=
  y * grid.width + x

/-- The cell at `(x, y)`, absent past the end of the storage; a column past the end of its row belongs to
    the rows that follow. -/
def get? (grid : Grid α) (x y : Nat) : Option α :=
  grid.cells[grid.index x y]?

/-- Replaces storage cell `position`, if there is one. -/
def setStored? (grid : Grid α) (position : Nat) (value : α) : Option (Grid α) :=
  if inside : position < grid.cells.size then
    some { grid with cells := grid.cells.set position value inside }
  else
    none

/-- Replaces the cell at `(x, y)`, with the addressing of `get?`. -/
def set? (grid : Grid α) (x y : Nat) (value : α) : Option (Grid α) :=
  grid.setStored? (grid.index x y) value

/-- The cells of row `y`, if the storage holds all of them. -/
def row? (grid : Grid α) (y : Nat) : Option (Array α) :=
  let start := grid.index 0 y
  if start + grid.width ≤ grid.cells.size then
    some (grid.cells.extract start (start + grid.width))
  else
    none

/-! ## Cells within the bounds -/

/-- The cell at column `x` of row `y`, absent outside the bounds. -/
def cell? (grid : Grid α) (x y : Nat) : Option α :=
  if x < grid.width ∧ y < grid.height then grid.get? x y else none

/-- Replaces the cell at column `x` of row `y`, unless it is outside the bounds. -/
def setCell? (grid : Grid α) (x y : Nat) (value : α) : Option (Grid α) :=
  if x < grid.width ∧ y < grid.height then grid.set? x y value else none

/-- A cell of a row and a row of the grid address a cell of the storage. -/
theorem index_lt {width height x y : Nat} (hx : x < width) (hy : y < height) :
    y * width + x < width * height := by
  calc y * width + x < y * width + width := Nat.add_lt_add_left hx _
    _ = (y + 1) * width := (Nat.succ_mul y width).symm
    _ ≤ height * width := Nat.mul_le_mul_right width hy
    _ = width * height := Nat.mul_comm height width

/-- The column of a cell is what is left of its address when whole rows are taken off. -/
theorem index_mod {width x : Nat} (y : Nat) (hx : x < width) : (y * width + x) % width = x := by
  rw [Nat.mul_add_mod', Nat.mod_eq_of_lt hx]

/-- The row of a cell is the number of whole rows in its address. -/
theorem index_div {width x : Nat} (y : Nat) (hx : x < width) : (y * width + x) / width = y := by
  rw [Nat.mul_comm, Nat.mul_add_div (Nat.zero_lt_of_lt hx), Nat.div_eq_of_lt hx, Nat.add_zero]

end Grid

end SeamCarving

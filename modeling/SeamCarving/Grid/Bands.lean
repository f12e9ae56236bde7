import SeamCarving.Grid.Basic

/-!
# Bands of rows

The storage of a grid cut into consecutive bands of so many complete rows. The last band may be shorter, and
an empty storage has no bands. A band that would have no cells has one instead, so the cut always ends.
-/

namespace SeamCarving

/-- The entries cut into pieces of `length`, the last one possibly shorter. A length of zero counts as one. -/
def pieces {α : Type} (length : Nat) : List α → List (List α)
  | [] => []
  | entry :: rest =>
      (entry :: rest.take (length - 1)) :: pieces length (rest.drop (length - 1))
termination_by entries => entries.length
decreasing_by simp only [List.length_drop, List.length_cons]; omega

theorem flatten_pieces {α : Type} (length : Nat) (entries : List α) :
    (pieces length entries).flatten = entries := by
  fun_induction pieces length entries with
  | case1 => rfl
  | case2 entry rest ih => simp [ih]

namespace Grid

variable {α : Type}

/-- The number of cells in every band but the last. -/
def bandLength (grid : Grid α) (rows : Nat) : Nat :=
  max 1 (grid.width * rows)

theorem bandLength_pos (grid : Grid α) (rows : Nat) : 0 < grid.bandLength rows :=
  Nat.lt_of_lt_of_le Nat.one_pos (Nat.le_max_left _ _)

/-- Whether the cells of so many rows can be counted in a machine word of 64 bits. -/
def BandsCountable (grid : Grid α) (rows : Nat) : Prop :=
  grid.width * rows < UInt64.size

instance (grid : Grid α) (rows : Nat) : Decidable (grid.BandsCountable rows) :=
  inferInstanceAs (Decidable (_ < _))

/-- The storage, cut into bands of `rows` rows. -/
def bands (grid : Grid α) (rows : Nat) : List (List α) :=
  pieces (grid.bandLength rows) grid.cells.toList

/-- The bands of `rows` rows, absent if their cells cannot be counted. -/
def bands? (grid : Grid α) (rows : Nat) : Option (List (List α)) :=
  if grid.BandsCountable rows then some (grid.bands rows) else none

/-- Repaints the storage band by band. The new value of a cell may depend on the position of its band, on its
    place within the band and on its old value. -/
def mapBands (grid : Grid α) (rows : Nat) (paint : Nat → Nat → α → α) : Grid α :=
  let painted := (grid.bands rows).mapIdx fun band cells => cells.mapIdx (paint band)
  { grid with cells := painted.flatten.toArray }

/-- `mapBands`, absent if the cells of a band cannot be counted. -/
def mapBands? (grid : Grid α) (rows : Nat) (paint : Nat → Nat → α → α) : Option (Grid α) :=
  if grid.BandsCountable rows then some (grid.mapBands rows paint) else none

theorem flatten_bands (grid : Grid α) (rows : Nat) :
    (grid.bands rows).flatten = grid.cells.toList :=
  flatten_pieces _ _

end Grid

end SeamCarving

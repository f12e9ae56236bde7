import SeamCarving.Seam.Tableau

/-!
# Finding a seam

A seam has one entry for each row of a grid: the column that the row gives up. It is found by relaxing the
cost table, choosing a cell of the last row, and following the parents up to the first row. A grid needs
three columns and three rows for a seam to be found in it.
-/

namespace SeamCarving

/-- The place in each line of pixels, from the first line to the last, that a seam passes through. -/
abbrev Seam := List Nat

variable {ε : Type}

/-- Follows the parents from a cell up to the first row, and puts the columns passed before those below. -/
def Grid.climb (parents : Grid Nat) : (row column : Nat) → (below : Seam) → Option Seam
  | 0, column, below => some (column :: below)
  | row + 1, column, below => do
      let parent ← parents.cell? column (row + 1)
      parents.climb row parent (column :: below)

variable [LT ε] [DecidableLT ε]

/-- The better of the best column so far and column `x` of a row: `x` only if it is strictly cheaper. -/
def Grid.better (cost : Grid ε) (row best x : Nat) : Option Nat := do
  let candidate ← cost.cell? x row
  let least ← cost.cell? best row
  return if candidate < least then x else best

/-- The column of the cheapest cell of a row, the leftmost of several. -/
def Grid.cheapestColumn? (cost : Grid ε) (row : Nat) : Option Nat :=
  (List.range cost.width).foldlM (cost.better row) 0

variable [Add ε]

/-- The seam through a grid of energies, absent if the storage lacks a cell that the search needs. -/
def Grid.seam? (energy : Grid ε) (rule : LeftEdgeRule) : Option Seam := do
  let tableau ← (Tableau.start energy).relaxRows rule
  let bottom := energy.height - 1
  let column ← tableau.cost.cheapestColumn? bottom
  tableau.parent.climb bottom column []

/-- The seam through a grid of energies, one column for each row. -/
def Grid.seam (energy : Grid ε) (rule : LeftEdgeRule) : Except CarveError Seam :=
  if energy.width < 3 ∨ energy.height < 3 then
    .error (.degenerateImage energy.width energy.height)
  else
    match energy.seam? rule with
    | some seam => .ok seam
    | none => .error (.badDimensions energy.width energy.height energy.cells.size)

end SeamCarving

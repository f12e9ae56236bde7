import SeamCarving.Grid.Basic
import SeamCarving.Seam.LeftEdge

/-!
# The cost table

One table serves seams of both directions: it is walked from the first row to the last, and every cell picks
a parent in the row above. A cell holds its own energy until it is relaxed; from then on it holds the cost of
the path that reaches it. The first row needs no relaxing and the last row is never relaxed, so both keep
their energies, and the cells of the last row are their own parents.

Every read and write names a cell within the bounds; a step that would leave the table has no result.
-/

namespace SeamCarving

/-- Path costs, and for each cell the column of its parent in the row above. -/
structure Tableau (ε : Type) where
  cost : Grid ε
  parent : Grid Nat

variable {ε : Type}

/-- The table before any row is relaxed: all cells hold their energies and are their own parents. -/
def Tableau.start (energy : Grid ε) : Tableau ε :=
  ⟨energy, .ofFn energy.width energy.height fun x _ => x⟩

/-- The column of the parent, in row `above`, of the cell in column `x` of the row below it. The order of the
    comparisons settles every tie in favour of the cell straight above, and up and to the right is taken only
    if up and to the left is cheaper still. -/
def Grid.parentOf? [LT ε] [DecidableLT ε] (cost : Grid ε) (rule : LeftEdgeRule) (x above : Nat) :
    Option Nat :=
  match x with
  | 0 => do
      let up ← cost.cell? 0 above
      let right ← match rule with
        | .lookahead => cost.cell? 1 (above + 2)
        | .previous => cost.cell? 1 above
      return if right < up then 1 else 0
  | left + 1 => do
      let up ← cost.cell? (left + 1) above
      let leftUp ← cost.cell? left above
      if left + 2 = cost.width then
        return if leftUp < up then left else left + 1
      else
        let rightUp ← cost.cell? (left + 2) above
        return if rightUp < up ∧ leftUp < rightUp then left + 2
          else if leftUp < up ∧ leftUp < rightUp then left
          else left + 1

namespace Tableau

variable [Add ε] [LT ε] [DecidableLT ε]

/-- Relaxes the cell in column `x` of the row below `above`: records its parent and adds the parent's cost to
    its energy. -/
def relax (rule : LeftEdgeRule) (above : Nat) : Tableau ε → Nat → Option (Tableau ε)
  | ⟨cost, parents⟩, x => do
      let parent ← cost.parentOf? rule x above
      let inherited ← cost.cell? parent above
      let own ← cost.cell? x (above + 1)
      let cost ← cost.setCell? x (above + 1) (own + inherited)
      let parents ← parents.setCell? x (above + 1) parent
      return ⟨cost, parents⟩

/-- Relaxes the row below `above`, from left to right. -/
def relaxRow (rule : LeftEdgeRule) (tableau : Tableau ε) (above : Nat) : Option (Tableau ε) :=
  (List.range tableau.cost.width).foldlM (relax rule above) tableau

/-- Relaxes all rows between the first and the last, from top to bottom. -/
def relaxRows (rule : LeftEdgeRule) (tableau : Tableau ε) : Option (Tableau ε) :=
  (List.range (tableau.cost.height - 2)).foldlM (relaxRow rule) tableau

end Tableau

end SeamCarving

import Mathlib.Data.List.Chain
import SeamCarving.Proofs.Seam.Fits
import SeamCarving.Proofs.Seam.LeftmostLeast
import SeamCarving.Seam.LeftEdge

/-!
# The recurrence behind a cost table

A terrain gives an energy to every place of a rectangle. On it the cost of the path that reaches a cell is
defined by recursion on the row, without a table that is overwritten: a cell of the first row costs its energy,
and every other cell its energy on top of the cost of its parent. The seam of a terrain stands in the cheapest
column of the last row and of the row above it, and from there follows the parents up to the first row. Main
statement: whatever its energies and however they compare, the seam of a terrain of two rows and columns or
more fits it (`seam_fits`).
-/

namespace SeamCarving

/-- Energies by column and row. -/
structure Terrain (ε : Type) where
  width : Nat
  height : Nat
  energy : Nat → Nat → ε

/-- The number that the cell straight above the left edge has to beat: the cost of the second column in the
    same row or, for a rule that looks ahead, an energy two rows below it. -/
def LeftEdgeRule.rival {ε : Type} (rule : LeftEdgeRule) (above : Nat → ε) (ahead : ε) : ε :=
  match rule with
  | lookahead => ahead
  | previous => above 1

namespace Terrain

variable {ε : Type}

section

variable [LT ε] [DecidableLT ε]

/-- The column of the parent of the cell in column `x`, where `above` are the costs of the row above the cell
    and `ahead` is the energy of the second column in the row below it. A cell whose parent is chosen among
    three takes the one to the right only if the one to the left is cheaper still. -/
def choose (width : Nat) (rule : LeftEdgeRule) (above : Nat → ε) (ahead : ε) (x : Nat) : Nat :=
  match x with
  | 0 => if rule.rival above ahead < above 0 then 1 else 0
  | left + 1 =>
      if left + 2 = width then
        if above left < above (left + 1) then left else left + 1
      else if above (left + 2) < above (left + 1) ∧ above left < above (left + 2) then left + 2
      else if above left < above (left + 1) ∧ above left < above (left + 2) then left
      else left + 1

theorem adjacent_choose (width : Nat) (rule : LeftEdgeRule) (above : Nat → ε) (ahead : ε) (x : Nat) :
    Seam.Adjacent (choose width rule above ahead x) x := by
  unfold Seam.Adjacent
  fun_cases choose width rule above ahead x <;> omega

theorem choose_lt {width x : Nat} (rule : LeftEdgeRule) (above : Nat → ε) (ahead : ε)
    (wide : 2 ≤ width) (hx : x < width) : choose width rule above ahead x < width := by
  fun_cases choose width rule above ahead x <;> omega

/-- The column of the cheapest cell of the last row, the leftmost of several. -/
def endpoint (terrain : Terrain ε) : Nat :=
  leftmostLeast (fun x => terrain.energy x (terrain.height - 1)) terrain.width

theorem endpoint_lt (terrain : Terrain ε) (wide : 0 < terrain.width) :
    terrain.endpoint < terrain.width :=
  leftmostLeast_lt _ wide

end

variable [LT ε] [DecidableLT ε] [Add ε]

/-- The cost of the path that reaches the cell in the given row and column. -/
def cost (terrain : Terrain ε) (rule : LeftEdgeRule) : Nat → Nat → ε
  | 0, x => terrain.energy x 0
  | y + 1, x =>
      terrain.energy x (y + 1) +
        terrain.cost rule y (choose terrain.width rule (terrain.cost rule y) (terrain.energy 1 (y + 2)) x)

/-- The column of the parent, in row `y`, of the cell in column `x` of the row below. -/
def parent (terrain : Terrain ε) (rule : LeftEdgeRule) (y x : Nat) : Nat :=
  choose terrain.width rule (terrain.cost rule y) (terrain.energy 1 (y + 2)) x

/-- The columns passed on the way from the first row to the cell in the given row and column. -/
def ascent (terrain : Terrain ε) (rule : LeftEdgeRule) : Nat → Nat → Seam
  | 0, x => [x]
  | y + 1, x => terrain.ascent rule y (terrain.parent rule y x) ++ [x]

/-- The seam through the terrain. The last row has no part in the costs, so the seam enters it straight. -/
def seam (terrain : Terrain ε) (rule : LeftEdgeRule) : Seam :=
  terrain.ascent rule (terrain.height - 2) terrain.endpoint ++ [terrain.endpoint]

section

variable (terrain : Terrain ε) (rule : LeftEdgeRule)

@[simp] theorem cost_zero (x : Nat) : terrain.cost rule 0 x = terrain.energy x 0 :=
  rfl

theorem cost_succ (y x : Nat) :
    terrain.cost rule (y + 1) x =
      terrain.energy x (y + 1) + terrain.cost rule y (terrain.parent rule y x) :=
  rfl

theorem adjacent_parent (y x : Nat) : Seam.Adjacent (terrain.parent rule y x) x :=
  adjacent_choose _ _ _ _ x

theorem parent_lt (wide : 2 ≤ terrain.width) {x : Nat} (y : Nat) (hx : x < terrain.width) :
    terrain.parent rule y x < terrain.width :=
  choose_lt _ _ _ wide hx

@[simp] theorem length_ascent (y x : Nat) : (terrain.ascent rule y x).length = y + 1 := by
  induction y generalizing x with
  | zero => rfl
  | succ y ih => simp [ascent, ih]

@[simp] theorem getLast?_ascent (y x : Nat) : (terrain.ascent rule y x).getLast? = some x := by
  cases y <;> simp [ascent]

theorem ascent_lt (wide : 2 ≤ terrain.width) (y : Nat) {x : Nat} (hx : x < terrain.width) :
    ∀ entry ∈ terrain.ascent rule y x, entry < terrain.width := by
  induction y generalizing x with
  | zero => simpa [ascent] using hx
  | succ y ih =>
      intro entry member
      rw [ascent, List.mem_append, List.mem_singleton] at member
      rcases member with earlier | rfl
      · exact ih (terrain.parent_lt rule wide y hx) entry earlier
      · exact hx

theorem isChain_ascent (y x : Nat) : (terrain.ascent rule y x).IsChain Seam.Adjacent := by
  induction y generalizing x with
  | zero => exact List.isChain_singleton x
  | succ y ih =>
      rw [ascent, List.isChain_append]
      refine ⟨ih _, List.isChain_singleton x, ?_⟩
      simpa using terrain.adjacent_parent rule y x

/-- The path that leads to a cell names one adjacent place in each row down to the cell. -/
theorem ascent_fits (wide : 2 ≤ terrain.width) (y : Nat) {x : Nat} (hx : x < terrain.width) :
    (terrain.ascent rule y x).Fits (y + 1) terrain.width :=
  ⟨terrain.length_ascent rule y x, terrain.ascent_lt rule wide y hx, terrain.isChain_ascent rule y x⟩

/-- A path that leads up from column `x` is never further to the right than `x` plus the rows climbed. -/
theorem ascent_le (y x : Nat) {row : Nat} (above : row ≤ y) :
    ∃ entry, (terrain.ascent rule y x)[row]? = some entry ∧ entry ≤ x + (y - row) := by
  induction y generalizing x with
  | zero =>
      obtain rfl : row = 0 := by omega
      exact ⟨x, rfl, by omega⟩
  | succ y ih =>
      rw [ascent]
      rcases Nat.lt_or_ge y row with last | earlier
      · obtain rfl : row = y + 1 := by omega
        refine ⟨x, ?_, by omega⟩
        rw [List.getElem?_append_right (by simp)]
        simp
      · obtain ⟨entry, found, bound⟩ := ih (terrain.parent rule y x) earlier
        have step := (terrain.adjacent_parent rule y x).2
        refine ⟨entry, ?_, by omega⟩
        rw [List.getElem?_append_left (by simp; omega)]
        exact found

/-- What a path passes down to one of its cells is the path that leads to this cell. -/
theorem take_ascent {y x row column : Nat} (here : (terrain.ascent rule y x)[row]? = some column) :
    (terrain.ascent rule y x).take (row + 1) = terrain.ascent rule row column := by
  induction y generalizing x with
  | zero =>
      obtain ⟨inside, equal⟩ := List.getElem?_eq_some_iff.1 here
      obtain rfl : row = 0 := by
        rw [length_ascent] at inside
        omega
      simpa [ascent] using equal
  | succ y ih =>
      have counted := terrain.length_ascent rule y (terrain.parent rule y x)
      rw [ascent] at here ⊢
      rcases Nat.lt_or_ge y row with last | earlier
      · rw [List.getElem?_append_right (by omega)] at here
        obtain ⟨inside, equal⟩ := List.getElem?_eq_some_iff.1 here
        simp only [List.length_singleton] at inside
        obtain rfl : row = y + 1 := by omega
        obtain rfl : x = column := by simpa [counted] using equal
        rw [List.take_of_length_le (by simp)]
        rfl
      · rw [List.getElem?_append_left (by omega)] at here
        rw [List.take_append_of_le_length (by omega)]
        exact ih here

section

variable (high : 2 ≤ terrain.height)
include high

theorem length_seam : (terrain.seam rule).length = terrain.height := by
  rw [seam, List.length_append, length_ascent, List.length_singleton]
  omega

theorem getElem?_seam_last : (terrain.seam rule)[terrain.height - 1]? = some terrain.endpoint := by
  have counted := terrain.length_ascent rule (terrain.height - 2) terrain.endpoint
  rw [seam, List.getElem?_append_right (by omega), counted,
    show terrain.height - 1 - (terrain.height - 2 + 1) = 0 by omega]
  rfl

theorem getElem?_seam {row : Nat} (above : row + 2 ≤ terrain.height) :
    (terrain.seam rule)[row]? = (terrain.ascent rule (terrain.height - 2) terrain.endpoint)[row]? := by
  rw [seam, List.getElem?_append_left (by rw [length_ascent]; omega)]

theorem getElem?_seam_lastButOne :
    (terrain.seam rule)[terrain.height - 2]? = some terrain.endpoint := by
  have last := terrain.getLast?_ascent rule (terrain.height - 2) terrain.endpoint
  rw [List.getLast?_eq_getElem?, length_ascent] at last
  rw [terrain.getElem?_seam rule high (by omega)]
  exact last

/-- Above the last row, what the seam passes down to one of its cells is the path that leads to this cell. -/
theorem take_seam {row column : Nat} (above : row + 2 ≤ terrain.height)
    (here : (terrain.seam rule)[row]? = some column) :
    (terrain.seam rule).take (row + 1) = terrain.ascent rule row column := by
  rw [terrain.getElem?_seam rule high above] at here
  rw [seam, List.take_append_of_le_length (by rw [length_ascent]; omega)]
  exact terrain.take_ascent rule here

end

/-- The seam of a terrain fits it, whatever the energies are and however they compare. -/
theorem seam_fits (wide : 2 ≤ terrain.width) (high : 2 ≤ terrain.height) :
    (terrain.seam rule).Fits terrain.height terrain.width := by
  have inside : terrain.endpoint < terrain.width := terrain.endpoint_lt (by omega)
  constructor
  · exact terrain.length_seam rule high
  · intro entry member
    rw [seam, List.mem_append, List.mem_singleton] at member
    rcases member with earlier | rfl
    · exact terrain.ascent_lt rule wide _ inside entry earlier
    · exact inside
  · rw [seam, List.isChain_append]
    refine ⟨terrain.isChain_ascent rule _ _, List.isChain_singleton _, ?_⟩
    simp [Seam.Adjacent]

end

end Terrain

end SeamCarving

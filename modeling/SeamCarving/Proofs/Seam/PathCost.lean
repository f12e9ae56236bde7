import Mathlib.Algebra.BigOperators.Group.List.Basic
import SeamCarving.Proofs.Seam.Recurrence

/-!
# Costs are sums along paths

The cost of a cell is the energies of one path added up from the first row, each on top of the sum so far, and
the path is the one that the recorded parents lead along. Main statement: this holds for every relaxed cell of
the table, while the last row keeps its energies (`Tableau.cost_is_runningSum`). If no sum is rounded, the order
in which it was made up has no part in it, and the cost is the total of the path.
-/

namespace SeamCarving

variable {ε : Type}

/-- Numbers added up one after another: every number but the first plus the sum of those before it. Of no numbers
    there is no sum. -/
def runningSum? [Add ε] : List ε → Option ε
  | [] => none
  | first :: rest => some (rest.foldl (fun sum number => number + sum) first)

theorem runningSum?_concat [Add ε] {numbers : List ε} {sum : ε} (last : ε)
    (summed : runningSum? numbers = some sum) : runningSum? (numbers ++ [last]) = some (last + sum) := by
  cases numbers with
  | nil => contradiction
  | cons first rest =>
      obtain rfl := Option.some.inj summed
      simp [runningSum?]

namespace Terrain

/-- The energies of the cells on a path that starts in the first row. -/
def energiesOn (terrain : Terrain ε) (path : Seam) : List ε :=
  path.mapIdx fun y x => terrain.energy x y

theorem energiesOn_concat (terrain : Terrain ε) (path : Seam) (x : Nat) :
    terrain.energiesOn (path ++ [x]) = terrain.energiesOn path ++ [terrain.energy x path.length] := by
  simp [energiesOn, List.mapIdx_concat]

/-- The sum of all energies on a path, as numbers that `value` makes of them. -/
def total {ρ : Type} [AddMonoid ρ] (terrain : Terrain ε) (value : ε → ρ) (path : Seam) : ρ :=
  ((terrain.energiesOn path).map value).sum

theorem total_concat {ρ : Type} [AddMonoid ρ] (terrain : Terrain ε) (value : ε → ρ) (path : Seam) (x : Nat) :
    terrain.total value (path ++ [x]) = terrain.total value path + value (terrain.energy x path.length) := by
  simp [total, energiesOn_concat]

theorem total_take_succ {ρ : Type} [AddMonoid ρ] (terrain : Terrain ε) (value : ε → ρ) {path : Seam}
    {y x : Nat} (here : path[y]? = some x) :
    terrain.total value (path.take (y + 1)) =
      terrain.total value (path.take y) + value (terrain.energy x y) := by
  obtain ⟨inside, -⟩ := List.getElem?_eq_some_iff.1 here
  have counted : (path.take y).length = y := List.length_take_of_le (by omega)
  rw [List.take_add_one, here, Option.toList_some, total_concat, counted]

/-- A path is as dear as what it passes above the last row, and its energy in the last row. -/
theorem total_eq_add {ρ : Type} [AddMonoid ρ] (terrain : Terrain ε) (value : ε → ρ) {path : Seam} {x : Nat}
    (high : 0 < terrain.height) (length_eq : path.length = terrain.height)
    (last : path[terrain.height - 1]? = some x) :
    terrain.total value path = terrain.total value (path.take (terrain.height - 1)) +
      value (terrain.energy x (terrain.height - 1)) := by
  have whole : path.take (terrain.height - 1 + 1) = path := List.take_of_length_le (by omega)
  rw [← terrain.total_take_succ value last, whole]

variable [LT ε] [DecidableLT ε] [Add ε]

theorem runningSum?_ascent (terrain : Terrain ε) (rule : LeftEdgeRule) (y x : Nat) :
    runningSum? (terrain.energiesOn (terrain.ascent rule y x)) = some (terrain.cost rule y x) := by
  induction y generalizing x with
  | zero => rfl
  | succ y ih =>
      have passed := ih (terrain.parent rule y x)
      rw [ascent, energiesOn_concat, length_ascent, cost_succ]
      exact runningSum?_concat _ passed

/-- No sum on the way to the costs is rounded: the value of each is the sum of the values of its two parts. -/
def AddsExactly {ρ : Type} [Add ρ] (terrain : Terrain ε) (rule : LeftEdgeRule) (value : ε → ρ) : Prop :=
  ∀ y, y < terrain.height - 2 → ∀ x, x < terrain.width →
    value (terrain.cost rule (y + 1) x) =
      value (terrain.energy x (y + 1)) + value (terrain.cost rule y (terrain.parent rule y x))

instance {ρ : Type} [Add ρ] [DecidableEq ρ] (terrain : Terrain ε) (rule : LeftEdgeRule) (value : ε → ρ) :
    Decidable (terrain.AddsExactly rule value) :=
  inferInstanceAs (Decidable (∀ y, y < terrain.height - 2 → ∀ x, x < terrain.width → _ = _))

theorem AddsExactly.value_cost {ρ : Type} [AddCommMonoid ρ] {terrain : Terrain ε} {rule : LeftEdgeRule}
    {value : ε → ρ} (exact : terrain.AddsExactly rule value) (wide : 2 ≤ terrain.width) {y x : Nat}
    (hy : y + 2 ≤ terrain.height) (hx : x < terrain.width) :
    value (terrain.cost rule y x) = terrain.total value (terrain.ascent rule y x) := by
  induction y generalizing x with
  | zero => simp [total, energiesOn, ascent]
  | succ y ih =>
      have inherited := ih (by omega) (terrain.parent_lt rule wide y hx)
      rw [exact y (by omega) x hx, ascent, total_concat, length_ascent, inherited, add_comm]

end Terrain

namespace Tableau

variable [LT ε] [DecidableLT ε] [Add ε]

section

variable {table : Tableau ε} {terrain : Terrain ε} {rule : LeftEdgeRule}

/-- The recorded parents lead from a relaxed cell along the path of the recurrence. -/
theorem RelaxedTo.climb_eq (relaxed : table.RelaxedTo terrain rule (terrain.height - 2) 0)
    (wide : 2 ≤ terrain.width) {x y : Nat} (hx : x < terrain.width) (hy : y + 2 ≤ terrain.height) :
    table.parent.climb y x [] = some (terrain.ascent rule y x) := by
  have recorded : ∀ column row, column < terrain.width → row < y →
      table.parent.cell? column (row + 1) = some (terrain.parent rule row column) := by
    intro column row inside above
    exact relaxed.cell?_parent inside (by omega)
  rw [Grid.climb_eq wide recorded hx [], List.append_nil]

end

section

variable [Inhabited ε]

/-- The table of a filled grid once all its rows are relaxed. -/
theorem exists_relaxedTo {energy : Grid ε} (rule : LeftEdgeRule) (filled : energy.WellFormed)
    (wide : 3 ≤ energy.width) :
    ∃ table, relaxRows rule (start energy) = some table ∧
      table.RelaxedTo energy.terrain rule (energy.terrain.height - 2) 0 :=
  exists_relaxRows rule (Grid.reads_terrain filled) (show 2 ≤ energy.width by omega)

/-- Once all rows are relaxed, the recorded parents lead from every cell above the last row along a connected path
    up to the first row, and the cell holds the energies of this path, added up from the top. The last row holds
    its energies still. So where the seam reaches the last row but one, the cell holds the energies of the seam up
    to there, and if no sum is rounded it holds their total. -/
theorem cost_is_runningSum (energy : Grid ε) (rule : LeftEdgeRule) (filled : energy.WellFormed)
    (wide : 3 ≤ energy.width) (high : 3 ≤ energy.height) :
    ∃ table seam, relaxRows rule (start energy) = some table ∧ energy.seam rule = .ok seam ∧
      (∀ x y, x < energy.width → y + 2 ≤ energy.height →
        ∃ path cost, table.parent.climb y x [] = some path ∧ path.Fits (y + 1) energy.width ∧
          path.getLast? = some x ∧ table.cost.cell? x y = some cost ∧
          runningSum? (energy.terrain.energiesOn path) = some cost) ∧
      (∀ x, x < energy.width →
        table.cost.cell? x (energy.height - 1) = energy.cell? x (energy.height - 1)) ∧
      ∃ column cost, seam[energy.height - 2]? = some column ∧
        table.cost.cell? column (energy.height - 2) = some cost ∧
        runningSum? (energy.terrain.energiesOn (seam.take (energy.height - 1))) = some cost ∧
        ∀ {ρ : Type} [AddCommMonoid ρ] (value : ε → ρ), energy.terrain.AddsExactly rule value →
          value cost = energy.terrain.total value (seam.take (energy.height - 1)) := by
  have large := Grid.large_terrain wide high
  obtain ⟨table, relaxed, done⟩ := exists_relaxedTo rule filled wide
  refine ⟨table, _, relaxed, Grid.seam_eq_seam_terrain rule filled wide high, ?_, ?_, ?_⟩
  · intro x y hx hy
    exact ⟨_, _, done.climb_eq large.1 hx hy, energy.terrain.ascent_fits rule large.1 y hx,
      energy.terrain.getLast?_ascent rule y x, done.cell?_cost hx hy,
      energy.terrain.runningSum?_ascent rule y x⟩
  · intro x hx
    have bottom : energy.height - 1 < energy.terrain.height := by
      rw [Grid.height_terrain]
      omega
    rw [done.cell?_of_not_isRelaxed hx bottom (by rw [Grid.height_terrain]; omega)]
    exact ((Grid.reads_terrain filled).cell?_eq x _ hx bottom).symm
  · have inside := energy.terrain.endpoint_lt (by omega)
    have reached := energy.terrain.getElem?_seam_lastButOne rule large.2
    have passed := energy.terrain.take_seam rule large.2 (by omega) reached
    rw [Grid.height_terrain] at reached passed
    rw [show energy.height - 2 + 1 = energy.height - 1 by omega] at passed
    have above : energy.height - 2 + 2 ≤ energy.terrain.height := by
      rw [Grid.height_terrain]
      omega
    refine ⟨_, _, reached, done.cell?_cost inside above, ?_, ?_⟩
    · rw [passed]
      exact energy.terrain.runningSum?_ascent rule _ _
    · intro ρ _ value exact
      rw [passed]
      exact exact.value_cost large.1 above inside

end

end Tableau

/-- Three lanes of four places, in which the two rules for the left edge lead to different seams. -/
def Grid.lanes : Grid Float :=
  ⟨3, 4, #[5, 1, 5, 0, 0, 0, 0, 9, 0, 0, 0, 0]⟩

theorem Tableau.cost_is_runningSum_lanes :
    let energy := Grid.lanes
    (energy.WellFormed ∧ 3 ≤ energy.width ∧ 3 ≤ energy.height) ∧
    energy.terrain.AddsExactly .lookahead floatValue ∧
    ∃ table seam, relaxRows .lookahead (start energy) = some table ∧ energy.seam .lookahead = .ok seam ∧
      (∃ path cost, table.parent.climb 2 1 [] = some path ∧ path.Fits 3 3 ∧ path.getLast? = some 1 ∧
        table.cost.cell? 1 2 = some cost ∧ runningSum? (energy.terrain.energiesOn path) = some cost) ∧
      table.cost.cell? 2 3 = energy.cell? 2 3 ∧
      ∃ column cost, seam[2]? = some column ∧ table.cost.cell? column 2 = some cost ∧
        runningSum? (energy.terrain.energiesOn (seam.take 3)) = some cost ∧
        floatValue cost = energy.terrain.total floatValue (seam.take 3) := by
  intro energy
  have exact : energy.terrain.AddsExactly .lookahead floatValue := by decide +kernel
  obtain ⟨table, seam, relaxed, found, paths, bottom, column, cost, reached, read, summed, valued⟩ :=
    cost_is_runningSum energy .lookahead (by decide) (by decide) (by decide)
  exact ⟨by decide, exact, table, seam, relaxed, found, paths 1 2 (by decide) (by decide), bottom 2 (by decide),
    column, cost, reached, read, summed, valued floatValue exact⟩

end SeamCarving

import SeamCarving.Proofs.Grid.Reading
import SeamCarving.Proofs.Seam.Terrain
import SeamCarving.Seam.Search

/-!
# The cost table computes the recurrence

The table is overwritten in place, from left to right and row by row. At every moment a cell that has been
relaxed holds the cost that the recurrence gives it, and every other cell still holds its energy: this is the
invariant `RelaxedTo`, which one relaxed cell moves on by one column. Main statement: on a grid of three
columns and rows or more the search never leaves the table and its answer is the seam of the terrain that the
grid shows (`Grid.seam_eq`), and on a grid whose storage is too short for its sizes the search fails
(`Grid.seam_of_short`).
-/

namespace SeamCarving

variable {ε : Type}

/-- A loop over the first numbers succeeds if each of its steps does so and keeps the invariant. -/
theorem exists_foldlM_range {σ : Type} (step : σ → Nat → Option σ) (Invariant : Nat → σ → Prop)
    (count : Nat)
    (keeps : ∀ index state, index < count → Invariant index state →
      ∃ next, step state index = some next ∧ Invariant (index + 1) next)
    {state : σ} (start : Invariant 0 state) :
    ∃ last, (List.range count).foldlM step state = some last ∧ Invariant count last := by
  induction count with
  | zero => exact ⟨state, rfl, start⟩
  | succ count ih =>
      obtain ⟨middle, reached, holds⟩ :=
        ih fun index state below => keeps index state (by omega)
      obtain ⟨last, stepped, done⟩ := keeps count middle (by omega) holds
      refine ⟨last, ?_, done⟩
      rw [List.range_succ, List.foldlM_append, reached]
      simpa using stepped

section

variable [LT ε] [DecidableLT ε]

theorem Grid.parentOf?_eq {cost : Grid ε} {above : Nat → ε} {ahead : ε} {row x : Nat}
    (rule : LeftEdgeRule) (wide : 2 ≤ cost.width) (hx : x < cost.width)
    (readAbove : ∀ column, column < cost.width → cost.cell? column row = some (above column))
    (readAhead : cost.cell? 1 (row + 2) = some ahead) :
    cost.parentOf? rule x row = some (Terrain.choose cost.width rule above ahead x) := by
  unfold parentOf? Terrain.choose
  cases x with
  | zero =>
      cases rule with
      | lookahead =>
          simp only [readAbove 0 hx, readAhead, Option.bind_eq_bind, Option.bind_some]
          rfl
      | previous =>
          simp only [readAbove 0 hx, readAbove 1 wide, Option.bind_eq_bind, Option.bind_some]
          rfl
  | succ left =>
      have readLeft := readAbove left (by omega)
      by_cases last : left + 2 = cost.width
      · simp [readAbove (left + 1) hx, readLeft, last]
      · have readRight := readAbove (left + 2) (by omega)
        simp [readAbove (left + 1) hx, readLeft, readRight, last]

section

variable {cost : Grid ε} {row : Nat → ε} {y : Nat} (reads : ∀ x, x < cost.width → cost.cell? x y = some (row x))
include reads

theorem Grid.better_eq {best x : Nat} (inside : best < cost.width) (hx : x < cost.width) :
    cost.better y best x = some (lesser row best x) := by
  simp [better, reads x hx, reads best inside, lesser]

theorem Grid.cheapestColumn?_eq (wide : 0 < cost.width) :
    cost.cheapestColumn? y = some (leftmostLeast row cost.width) := by
  have step : ∀ index best, index < cost.width → best < cost.width ∧ best = leftmostLeast row index →
      ∃ next, cost.better y best index = some next ∧ next < cost.width ∧ next = leftmostLeast row (index + 1) := by
    intro index best below ⟨inside, equal⟩
    refine ⟨_, better_eq reads inside below, lesser_lt row inside below, ?_⟩
    rw [leftmostLeast_succ, equal]
  obtain ⟨best, found, -, equal⟩ := exists_foldlM_range _ _ _ step ⟨wide, rfl⟩
  rw [cheapestColumn?, found, equal]

end

end

namespace Tableau

/-- Whether the cell in column `x` of row `y` is relaxed once all rows up to `row` are, and the first `column`
    cells of the row after them. -/
abbrev IsRelaxed (row column x y : Nat) : Prop :=
  y ≤ row ∨ y = row + 1 ∧ x < column

theorem isRelaxed_succ {row column x y : Nat} :
    IsRelaxed row (column + 1) x y ↔ IsRelaxed row column x y ∨ x = column ∧ y = row + 1 := by
  omega

section

variable [LT ε] [DecidableLT ε] [Add ε]

/-- The table of a terrain when all rows up to `row` are relaxed, and the first `column` cells of the row after
    them. -/
structure RelaxedTo (tableau : Tableau ε) (terrain : Terrain ε) (rule : LeftEdgeRule)
    (row column : Nat) : Prop where
  /-- A relaxed cell holds its cost, any other its energy. -/
  cost : tableau.cost.Reads terrain.width terrain.height fun x y =>
    if IsRelaxed row column x y then terrain.cost rule y x else terrain.energy x y
  /-- A relaxed cell below the first row has its parent, any other is its own. -/
  parent : tableau.parent.Reads terrain.width terrain.height fun x y =>
    if 0 < y ∧ IsRelaxed row column x y then terrain.parent rule (y - 1) x else x

variable {tableau : Tableau ε} {terrain : Terrain ε} {rule : LeftEdgeRule} {row column : Nat}

theorem RelaxedTo.cell?_of_isRelaxed (relaxed : tableau.RelaxedTo terrain rule row column) {x y : Nat}
    (hx : x < terrain.width) (hy : y < terrain.height) (done : IsRelaxed row column x y) :
    tableau.cost.cell? x y = some (terrain.cost rule y x) := by
  rw [relaxed.cost.cell?_eq x y hx hy, if_pos done]

theorem RelaxedTo.cell?_of_not_isRelaxed (relaxed : tableau.RelaxedTo terrain rule row column)
    {x y : Nat} (hx : x < terrain.width) (hy : y < terrain.height)
    (raw : ¬ IsRelaxed row column x y) : tableau.cost.cell? x y = some (terrain.energy x y) := by
  rw [relaxed.cost.cell?_eq x y hx hy, if_neg raw]

theorem relaxedTo_start {energy : Grid ε}
    (reads : energy.Reads terrain.width terrain.height terrain.energy) :
    (start energy).RelaxedTo terrain rule 0 0 := by
  constructor
  · refine reads.congr ?_
    intro x y hx hy
    cases y <;> simp [IsRelaxed]
  · simp only [start, reads.width_eq, reads.height_eq]
    refine (Grid.reads_ofFn _ _ _).congr ?_
    intro x y hx hy
    cases y <;> simp [IsRelaxed]

theorem RelaxedTo.nextRow (relaxed : tableau.RelaxedTo terrain rule row terrain.width) :
    tableau.RelaxedTo terrain rule (row + 1) 0 := by
  have same : ∀ x y, x < terrain.width →
      (IsRelaxed row terrain.width x y ↔ IsRelaxed (row + 1) 0 x y) := by
    intro x y hx
    omega
  constructor
  · refine relaxed.cost.congr ?_
    intro x y hx hy
    simp only [same x y hx]
  · refine relaxed.parent.congr ?_
    intro x y hx hy
    simp only [same x y hx]

/-- Relaxing one cell moves the invariant on by one column. -/
theorem RelaxedTo.exists_relax (relaxed : tableau.RelaxedTo terrain rule row column)
    (wide : 2 ≤ terrain.width) (hx : column < terrain.width) (hy : row + 2 < terrain.height) :
    ∃ next, relax rule row tableau column = some next ∧
      next.RelaxedTo terrain rule row (column + 1) := by
  obtain ⟨cost, parents⟩ := tableau
  have width_eq : cost.width = terrain.width := relaxed.cost.width_eq
  have above : ∀ x, x < terrain.width → cost.cell? x row = some (terrain.cost rule row x) := by
    intro x inside
    exact relaxed.cell?_of_isRelaxed inside (by omega) (by omega)
  have own : cost.cell? column (row + 1) = some (terrain.energy column (row + 1)) :=
    relaxed.cell?_of_not_isRelaxed hx (by omega) (by omega)
  have ahead : cost.cell? 1 (row + 2) = some (terrain.energy 1 (row + 2)) :=
    relaxed.cell?_of_not_isRelaxed wide hy (by omega)
  have chosen : cost.parentOf? rule column row = some (terrain.parent rule row column) := by
    rw [← width_eq] at above hx wide
    rw [Grid.parentOf?_eq rule wide hx above ahead, width_eq]
    rfl
  have inherited := above _ (terrain.parent_lt rule wide row hx)
  obtain ⟨nextCost, wroteCost, readNextCost⟩ := relaxed.cost.exists_setCell?
    (terrain.energy column (row + 1) + terrain.cost rule row (terrain.parent rule row column)) hx
    (show row + 1 < terrain.height by omega)
  obtain ⟨nextParents, wroteParent, readNextParent⟩ := relaxed.parent.exists_setCell?
    (terrain.parent rule row column) hx (show row + 1 < terrain.height by omega)
  refine ⟨⟨nextCost, nextParents⟩, ?_, ?_, ?_⟩
  · simp only at wroteCost wroteParent
    simp [relax, chosen, inherited, own, wroteCost, wroteParent]
  · refine readNextCost.congr ?_
    intro x y _ _
    by_cases here : x = column ∧ y = row + 1
    · obtain ⟨rfl, rfl⟩ := here
      simp [isRelaxed_succ, terrain.cost_succ]
    · simp [isRelaxed_succ, here]
  · refine readNextParent.congr ?_
    intro x y _ _
    by_cases here : x = column ∧ y = row + 1
    · obtain ⟨rfl, rfl⟩ := here
      simp [isRelaxed_succ]
    · simp [isRelaxed_succ, here]

theorem RelaxedTo.exists_relaxRow (relaxed : tableau.RelaxedTo terrain rule row 0)
    (wide : 2 ≤ terrain.width) (hy : row + 2 < terrain.height) :
    ∃ next, relaxRow rule tableau row = some next ∧ next.RelaxedTo terrain rule (row + 1) 0 := by
  obtain ⟨next, reached, done⟩ :=
    exists_foldlM_range (relax rule row)
      (fun column state => state.RelaxedTo terrain rule row column) terrain.width
      (fun _ _ hx held => held.exists_relax wide hx hy) relaxed
  refine ⟨next, ?_, done.nextRow⟩
  rw [relaxRow, relaxed.cost.width_eq]
  exact reached

theorem exists_relaxRows (rule : LeftEdgeRule) {energy : Grid ε}
    (reads : energy.Reads terrain.width terrain.height terrain.energy) (wide : 2 ≤ terrain.width) :
    ∃ last, relaxRows rule (start energy) = some last ∧
      last.RelaxedTo terrain rule (terrain.height - 2) 0 := by
  have loop := exists_foldlM_range (relaxRow rule)
    (fun row state => state.RelaxedTo terrain rule row 0) (terrain.height - 2)
    (fun row _ below held => held.exists_relaxRow wide (by omega)) (relaxedTo_start reads)
  rw [relaxRows]
  simpa [start, reads.height_eq] using loop

/-- Once all rows are relaxed, every cell above the last row holds its cost. -/
theorem RelaxedTo.cell?_cost (relaxed : tableau.RelaxedTo terrain rule (terrain.height - 2) 0) {x y : Nat}
    (hx : x < terrain.width) (hy : y + 2 ≤ terrain.height) :
    tableau.cost.cell? x y = some (terrain.cost rule y x) :=
  relaxed.cell?_of_isRelaxed hx (by omega) (by omega)

/-- Once all rows are relaxed, the parents of all cells between the first row and the last are recorded. -/
theorem RelaxedTo.cell?_parent (relaxed : tableau.RelaxedTo terrain rule (terrain.height - 2) 0) {x y : Nat}
    (hx : x < terrain.width) (hy : y + 2 < terrain.height) :
    tableau.parent.cell? x (y + 1) = some (terrain.parent rule y x) := by
  rw [relaxed.parent.cell?_eq x _ hx (by omega), if_pos (by omega)]
  rfl

end

end Tableau

section

variable [LT ε] [DecidableLT ε] [Add ε] {terrain : Terrain ε} {rule : LeftEdgeRule}

theorem Grid.climb_eq {parents : Grid Nat} (wide : 2 ≤ terrain.width) {row column : Nat}
    (recorded : ∀ x y, x < terrain.width → y < row →
      parents.cell? x (y + 1) = some (terrain.parent rule y x))
    (hx : column < terrain.width) (below : Seam) :
    parents.climb row column below = some (terrain.ascent rule row column ++ below) := by
  induction row generalizing column below with
  | zero => rfl
  | succ row ih =>
      have earlier : ∀ x y, x < terrain.width → y < row →
          parents.cell? x (y + 1) = some (terrain.parent rule y x) := by
        intro x y inside above
        exact recorded x y inside (by omega)
      have step := recorded column row hx (by omega)
      have rest := ih earlier (terrain.parent_lt rule wide row hx) (column :: below)
      simp [climb, step, rest, Terrain.ascent]

theorem Grid.seam?_eq {energy : Grid ε}
    (reads : energy.Reads terrain.width terrain.height terrain.energy) (wide : 2 ≤ terrain.width)
    (high : 2 ≤ terrain.height) : energy.seam? rule = some (terrain.seam rule) := by
  obtain ⟨last, relaxed, done⟩ := Tableau.exists_relaxRows rule reads wide
  have inside := terrain.endpoint_lt (by omega)
  have found : last.cost.cheapestColumn? (terrain.height - 1) = some terrain.endpoint := by
    have width_eq := done.cost.width_eq
    rw [Terrain.endpoint, ← width_eq]
    refine cheapestColumn?_eq ?_ (by omega)
    intro x hx
    exact done.cell?_of_not_isRelaxed (by omega) (by omega) (by omega)
  have recorded : ∀ x y, x < terrain.width → y < terrain.height - 2 →
      last.parent.cell? x (y + 1) = some (terrain.parent rule y x) := by
    intro x y hx hy
    exact done.cell?_parent hx (by omega)
  have straight : last.parent.cell? terrain.endpoint (terrain.height - 1) = some terrain.endpoint := by
    rw [done.parent.cell?_eq _ _ inside (by omega), if_neg (by omega)]
  have bottom : terrain.height - 1 = terrain.height - 2 + 1 := by omega
  have climbed := climb_eq wide recorded inside [terrain.endpoint]
  simp only [seam?, relaxed, reads.height_eq, found, Option.bind_eq_bind, Option.bind_some]
  rw [bottom] at straight ⊢
  simp [climb, straight, climbed, Terrain.seam]

/-- The seam through a grid is that of the terrain it shows; a grid of less than three columns or rows has
    none. -/
theorem Grid.seam_eq {energy : Grid ε}
    (reads : energy.Reads terrain.width terrain.height terrain.energy) :
    energy.seam rule =
      if terrain.width < 3 ∨ terrain.height < 3 then
        .error (.degenerateImage terrain.width terrain.height)
      else
        .ok (terrain.seam rule) := by
  rw [seam, reads.width_eq, reads.height_eq]
  split
  · rfl
  · rw [seam?_eq reads (by omega) (by omega)]

end

/-! ## Storage that is too short -/

/-- What each step of a loop keeps is kept by a loop that comes to an end. -/
theorem foldlM_keeps {σ β : Type} {step : σ → β → Option σ} (Kept : σ → Prop)
    (keeps : ∀ state entry next, Kept state → step state entry = some next → Kept next) {entries : List β}
    {state last : σ} (start : Kept state) (reached : entries.foldlM step state = some last) : Kept last := by
  induction entries generalizing state with
  | nil =>
      obtain rfl := Option.some.inj reached
      exact start
  | cons entry entries ih =>
      rw [List.foldlM_cons] at reached
      obtain ⟨next, stepped, others⟩ := Option.bind_eq_some_iff.1 reached
      exact ih (keeps state entry next start stepped) others

section

variable [LT ε] [DecidableLT ε]

theorem Grid.cheapestColumn?_eq_none_of_short {cost : Grid ε} (wide : 0 < cost.width) (high : 0 < cost.height)
    (short : cost.cells.size < cost.width * cost.height) : cost.cheapestColumn? (cost.height - 1) = none := by
  have missing := cell?_eq_none_of_short wide high short
  obtain ⟨width, wide⟩ := Nat.exists_eq_add_one.2 wide
  rw [wide, Nat.add_sub_cancel] at missing
  rw [cheapestColumn?, wide, List.range_succ, List.foldlM_append]
  cases (List.range width).foldlM (cost.better (cost.height - 1)) 0 with
  | none => rfl
  | some best => simp [better, missing]

variable [Add ε]

/-- The sizes of a table and of its storage. -/
def Tableau.extent (tableau : Tableau ε) : Nat × Nat × Nat :=
  (tableau.cost.width, tableau.cost.height, tableau.cost.cells.size)

theorem Tableau.extent_relax {rule : LeftEdgeRule} {above x : Nat} {tableau next : Tableau ε}
    (relaxed : relax rule above tableau x = some next) : next.extent = tableau.extent := by
  obtain ⟨cost, parents⟩ := tableau
  simp only [relax, Option.bind_eq_bind, Option.bind_eq_some_iff] at relaxed
  obtain ⟨parent, -, inherited, -, own, -, written, wroteCost, recorded, -, done⟩ := relaxed
  obtain rfl := Option.some.inj done
  obtain ⟨-, -, rfl⟩ := Grid.setCell?_eq_some_iff.1 wroteCost
  simp [extent]

theorem Tableau.extent_relaxRows {rule : LeftEdgeRule} {tableau last : Tableau ε}
    (relaxed : relaxRows rule tableau = some last) : last.extent = tableau.extent := by
  refine foldlM_keeps (fun state => state.extent = tableau.extent) ?_ rfl relaxed
  intro state above next kept row
  refine foldlM_keeps (fun state => state.extent = tableau.extent) ?_ kept row
  intro state x next kept cell
  exact (extent_relax cell).trans kept

/-- The search fails at the last cell at the latest if the storage does not hold it. -/
theorem Grid.seam_of_short {energy : Grid ε} (rule : LeftEdgeRule)
    (short : energy.cells.size < energy.width * energy.height) (wide : 3 ≤ energy.width)
    (high : 3 ≤ energy.height) :
    energy.seam rule = .error (.badDimensions energy.width energy.height energy.cells.size) := by
  have absent : energy.seam? rule = none := by
    unfold seam?
    cases relaxed : (Tableau.start energy).relaxRows rule with
    | none => rfl
    | some last =>
        have extent := Tableau.extent_relaxRows relaxed
        simp only [Tableau.extent, Tableau.start, Prod.mk.injEq] at extent
        obtain ⟨width_eq, height_eq, size_eq⟩ := extent
        have missing := last.cost.cheapestColumn?_eq_none_of_short (by omega) (by omega) (by
          rw [width_eq, height_eq, size_eq]
          exact short)
        rw [height_eq] at missing
        simp [missing]
  rw [seam, if_neg (by omega), absent]

end

end SeamCarving

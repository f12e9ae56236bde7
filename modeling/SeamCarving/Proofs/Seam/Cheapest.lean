import Mathlib.Algebra.Order.Monoid.Defs
import Mathlib.Tactic.MkIffOfInductiveProp
import SeamCarving.Proofs.Seam.PathCost

/-!
# How cheap a seam is

A cell in the first or last column of its row chooses the cheapest parent, but a cell between two others does not
always: if up and to the right is cheaper than straight up, it passes over one of its neighbours in the row above
that may be the cheapest. And the column in which a seam ends is chosen by the energies of the last row alone. So
a seam need not be the cheapest path through its grid (`Grid.seam_dearer_than_path`). Main statements: with exact
numbers a seam is no dearer than any path that reaches the seam in the last row but one and makes no step that is
passed over (`Grid.seam_le_path`), nor does it ever cost more, down to any of its cells, than the column of the
cell (`Grid.seam_le_column`).
-/

namespace SeamCarving

variable {ε ρ : Type}

namespace Terrain

section

variable [LT ε]

/-- Among the costs of the row above it, the cell in column `x` passes over the one in column `step`. Only a cell
    with neighbours on both sides does so, and only if up and to the right is cheaper than straight up: then it
    passes over up and to the right unless up and to the left is cheaper still, and over up and to the left if
    that is cheaper than straight up. -/
def PassesOver (width : Nat) (above : Nat → ε) (x step : Nat) : Prop :=
  0 < x ∧ x + 1 < width ∧ above (x + 1) < above x ∧
    (step = x + 1 ∧ ¬ above (x - 1) < above (x + 1) ∨ step + 1 = x ∧ above (x - 1) < above x)

instance [DecidableLT ε] (width : Nat) (above : Nat → ε) (x step : Nat) :
    Decidable (PassesOver width above x step) :=
  inferInstanceAs (Decidable (_ ∧ _))

theorem not_passesOver_self (width : Nat) (above : Nat → ε) (x : Nat) : ¬ PassesOver width above x x := by
  rintro ⟨-, -, -, ⟨right, -⟩ | ⟨left, -⟩⟩ <;> omega

variable [DecidableLT ε] [LinearOrder ρ]

/-- Of the cells in the row above that a cell can choose from, those that it passes over are cheaper than its
    parent, and no others. -/
theorem value_lt_choose_iff {width x step : Nat} {above : Nat → ε} (value : ε → ρ) (ahead : ε)
    (ordered : ∀ x, x < width → ∀ x', x' < width → (above x < above x' ↔ value (above x) < value (above x')))
    (wide : 2 ≤ width) (hx : x < width) (hstep : step < width) (near : Seam.Adjacent step x) :
    value (above step) < value (above (choose width .previous above ahead x)) ↔
      PassesOver width above x step := by
  obtain ⟨fromLeft, fromRight⟩ := near
  -- one case for each kind of column; in each of them the order of three values at most decides
  cases x with
  | zero =>
      have right := ordered 1 (by omega) 0 hx
      have edge : ¬ PassesOver width above 0 step := fun passed => absurd passed.1 (by omega)
      have steps : step = 0 ∨ step = 1 := by omega
      simp only [edge, iff_false, choose, LeftEdgeRule.rival]
      rcases steps with rfl | rfl <;> split_ifs <;> grind
  | succ column =>
      have left := ordered column (by omega) (column + 1) hx
      by_cases last : column + 2 = width
      · have edge : ¬ PassesOver width above (column + 1) step := fun passed => absurd passed.2.1 (by omega)
        have steps : step = column ∨ step = column + 1 := by omega
        simp only [edge, iff_false, choose, last, ↓reduceIte]
        rcases steps with rfl | rfl <;> split_ifs <;> grind
      · have right := ordered (column + 2) (by omega) (column + 1) hx
        have sides := ordered column (by omega) (column + 2) (by omega)
        have steps : step = column ∨ step = column + 1 ∨ step = column + 2 := by omega
        simp only [PassesOver, choose, last, ↓reduceIte, Nat.add_sub_cancel]
        rcases steps with rfl | rfl | rfl <;> split_ifs <;> grind

end

section

variable [LT ε] [DecidableLT ε] [Add ε] [AddCommMonoid ρ] [LinearOrder ρ]

/-- The numbers of a terrain are exact, as far as its seam depends on them, and `value` tells what they stand for:
    no sum is rounded, and costs of one row and energies of the last row compare as their values do. -/
@[mk_iff]
structure Exact (terrain : Terrain ε) (rule : LeftEdgeRule) (value : ε → ρ) : Prop where
  adds : terrain.AddsExactly rule value
  cost_lt_iff : ∀ y, y < terrain.height - 2 → ∀ x, x < terrain.width → ∀ x', x' < terrain.width →
    (terrain.cost rule y x < terrain.cost rule y x' ↔
      value (terrain.cost rule y x) < value (terrain.cost rule y x'))
  last_lt_iff : ∀ x, x < terrain.width → ∀ x', x' < terrain.width →
    (terrain.energy x (terrain.height - 1) < terrain.energy x' (terrain.height - 1) ↔
      value (terrain.energy x (terrain.height - 1)) < value (terrain.energy x' (terrain.height - 1)))

instance [DecidableEq ρ] (terrain : Terrain ε) (rule : LeftEdgeRule) (value : ε → ρ) :
    Decidable (terrain.Exact rule value) :=
  decidable_of_iff _ (exact_iff terrain rule value).symm

/-- No step of the path, from its first row to the last row but one, is passed over by the cell it leads to. -/
def Weighs (terrain : Terrain ε) (path : Seam) : Prop :=
  ∀ y, y < terrain.height - 2 → ∀ step ∈ path[y]?, ∀ x ∈ path[y + 1]?,
    ¬ PassesOver terrain.width (terrain.cost .previous y) x step

instance (terrain : Terrain ε) (path : Seam) : Decidable (terrain.Weighs path) :=
  inferInstanceAs (Decidable (∀ y, y < terrain.height - 2 → ∀ step ∈ path[y]?, ∀ x ∈ path[y + 1]?,
    ¬ PassesOver terrain.width (terrain.cost .previous y) x step))

variable {terrain : Terrain ε} {value : ε → ρ}

theorem Exact.value_lt_parent_iff (exact : terrain.Exact .previous value) (wide : 2 ≤ terrain.width)
    {y x step : Nat} (hy : y + 2 < terrain.height) (hx : x < terrain.width) (hstep : step < terrain.width)
    (near : Seam.Adjacent step x) :
    value (terrain.cost .previous y step) < value (terrain.cost .previous y (terrain.parent .previous y x)) ↔
      PassesOver terrain.width (terrain.cost .previous y) x step :=
  value_lt_choose_iff value _ (exact.cost_lt_iff y (by omega)) wide hx hstep near

theorem Exact.value_parent_le_straight (exact : terrain.Exact .previous value) (wide : 2 ≤ terrain.width)
    {y x : Nat} (hy : y + 2 < terrain.height) (hx : x < terrain.width) :
    value (terrain.cost .previous y (terrain.parent .previous y x)) ≤ value (terrain.cost .previous y x) := by
  have near : Seam.Adjacent x x := ⟨by omega, by omega⟩
  apply le_of_not_gt
  rw [exact.value_lt_parent_iff wide hy hx hx near]
  exact not_passesOver_self _ _ x

variable [IsOrderedAddMonoid ρ]

/-- A cell costs no more than any path that leads to it without a step that is passed over. -/
theorem Exact.value_cost_le (exact : terrain.Exact .previous value) (wide : 2 ≤ terrain.width) {path : Seam}
    (fits : path.Fits terrain.height terrain.width) (weighs : terrain.Weighs path) {y x : Nat}
    (hy : y + 2 ≤ terrain.height) (here : path[y]? = some x) :
    value (terrain.cost .previous y x) ≤ terrain.total value (path.take (y + 1)) := by
  induction y generalizing x with
  | zero =>
      rw [terrain.total_take_succ value here]
      simp [total, energiesOn]
  | succ y ih =>
      obtain ⟨step, before, inside⟩ := fits.exists_entry (show y < terrain.height by omega)
      have hx : x < terrain.width := fits.lt_length x (List.mem_of_getElem? here)
      have near : Seam.Adjacent step x := fits.adjacent before here
      have weighed := weighs y (by omega) step before x here
      have chosen : value (terrain.cost .previous y (terrain.parent .previous y x)) ≤
          value (terrain.cost .previous y step) :=
        le_of_not_gt (mt (exact.value_lt_parent_iff wide (by omega) hx inside near).1 weighed)
      calc value (terrain.cost .previous (y + 1) x)
          = value (terrain.energy x (y + 1)) +
              value (terrain.cost .previous y (terrain.parent .previous y x)) := exact.adds y (by omega) x hx
        _ ≤ value (terrain.energy x (y + 1)) + terrain.total value (path.take (y + 1)) := by
            gcongr
            exact chosen.trans (ih (by omega) before)
        _ = terrain.total value (path.take (y + 2)) := by
            rw [terrain.total_take_succ value here, add_comm]

end

section

variable [LT ε] [DecidableLT ε] [Add ε] [AddCommMonoid ρ] [LinearOrder ρ] {terrain : Terrain ε} {value : ε → ρ}

/-- No path from the first row to the last one is cheaper than the given one. -/
def IsCheapest (terrain : Terrain ε) (value : ε → ρ) (seam : Seam) : Prop :=
  ∀ path : Seam, path.Fits terrain.height terrain.width →
    terrain.total value seam ≤ terrain.total value path

theorem Exact.value_endpoint_le (exact : terrain.Exact .previous value) {x : Nat} (hx : x < terrain.width) :
    value (terrain.energy terrain.endpoint (terrain.height - 1)) ≤
      value (terrain.energy x (terrain.height - 1)) := by
  have leftmost := isLeftmostLeast_leftmostLeast value (show 0 < terrain.width by omega)
    (fun x x' hx hx' => exact.last_lt_iff x hx x' hx')
  have inside := terrain.endpoint_lt (show 0 < terrain.width by omega)
  have least := leftmost.not_lt x hx
  exact le_of_not_gt (mt (exact.last_lt_iff x hx _ inside).2 least)

variable [IsOrderedAddMonoid ρ]

/-- The seam is no dearer than a path that meets it in the last row but one and weighs its steps. -/
theorem Exact.total_seam_le (exact : terrain.Exact .previous value) (wide : 2 ≤ terrain.width)
    (high : 2 ≤ terrain.height) {path : Seam} (fits : path.Fits terrain.height terrain.width)
    (weighs : terrain.Weighs path)
    (meets : path[terrain.height - 2]? = (terrain.seam .previous)[terrain.height - 2]?) :
    terrain.total value (terrain.seam .previous) ≤ terrain.total value path := by
  have inside : terrain.endpoint < terrain.width := terrain.endpoint_lt (by omega)
  have reached := terrain.getElem?_seam_lastButOne .previous high
  have rows : terrain.height - 2 + 1 = terrain.height - 1 := by omega
  have passed := terrain.take_seam .previous high (by omega) reached
  have counted := terrain.length_seam .previous high
  obtain ⟨last, ending, hlast⟩ := fits.exists_entry (show terrain.height - 1 < terrain.height by omega)
  have above : terrain.total value ((terrain.seam .previous).take (terrain.height - 1)) ≤
      terrain.total value (path.take (terrain.height - 1)) := by
    rw [← rows, passed, ← exact.adds.value_cost wide (by omega) inside]
    exact exact.value_cost_le wide fits weighs (by omega) (meets.trans reached)
  calc terrain.total value (terrain.seam .previous)
      = terrain.total value ((terrain.seam .previous).take (terrain.height - 1)) +
          value (terrain.energy terrain.endpoint (terrain.height - 1)) :=
        terrain.total_eq_add value (by omega) counted (terrain.getElem?_seam_last .previous high)
    _ ≤ terrain.total value (path.take (terrain.height - 1)) +
          value (terrain.energy last (terrain.height - 1)) :=
        add_le_add above (exact.value_endpoint_le hlast)
    _ = terrain.total value path := (terrain.total_eq_add value (by omega) fits.length_eq ending).symm

/-- The path straight down a column weighs its steps. -/
theorem weighs_replicate (terrain : Terrain ε) (count x : Nat) : terrain.Weighs (List.replicate count x) := by
  intro y _ step before column here
  rw [Option.mem_def, List.getElem?_replicate] at before here
  obtain ⟨-, same⟩ := Option.ite_none_right_eq_some.1 before
  obtain ⟨-, same'⟩ := Option.ite_none_right_eq_some.1 here
  rw [← Option.some.inj same, ← Option.some.inj same']
  exact not_passesOver_self _ _ x

/-- A cell costs no more than its whole column down to it. -/
theorem Exact.value_cost_le_column (exact : terrain.Exact .previous value) (wide : 2 ≤ terrain.width) {x y : Nat}
    (hx : x < terrain.width) (hy : y + 2 ≤ terrain.height) :
    value (terrain.cost .previous y x) ≤ terrain.total value (List.replicate (y + 1) x) := by
  have down : (List.replicate terrain.height x)[y]? = some x := by
    rw [List.getElem?_replicate, if_pos (by omega)]
  have bound := exact.value_cost_le wide (Seam.fits_replicate hx) (terrain.weighs_replicate terrain.height x) hy down
  rw [List.take_replicate, Nat.min_eq_left (by omega)] at bound
  exact bound

end

end Terrain

namespace Grid

section

variable [Inhabited ε] [LT ε] [DecidableLT ε] [Add ε] [AddCommMonoid ρ] [LinearOrder ρ] [IsOrderedAddMonoid ρ]

/-- With exact numbers the seam is no dearer than any path that meets it in the last row but one, as long as no
    cell passes over a step of the path; if there is no cell with neighbours on both sides for which up and to the
    right is cheaper than straight up, it is no dearer than any path that meets it there. The steps that are
    passed over are exactly those that would have been cheaper than the parent. -/
theorem seam_le_path (energy : Grid ε) (value : ε → ρ) (filled : energy.WellFormed) (wide : 3 ≤ energy.width)
    (high : 3 ≤ energy.height) (exact : energy.terrain.Exact .previous value) :
    ∃ seam, energy.seam .previous = .ok seam ∧
      (∀ path : Seam, path.Fits energy.height energy.width →
        path[energy.height - 2]? = seam[energy.height - 2]? → energy.terrain.Weighs path →
        energy.terrain.total value seam ≤ energy.terrain.total value path) ∧
      ((∀ y x, y + 2 < energy.height → 0 < x → x + 1 < energy.width →
          ¬ energy.terrain.cost .previous y (x + 1) < energy.terrain.cost .previous y x) →
        ∀ path : Seam, path.Fits energy.height energy.width →
          path[energy.height - 2]? = seam[energy.height - 2]? →
          energy.terrain.total value seam ≤ energy.terrain.total value path) ∧
      ∀ y x step, y + 2 < energy.height → x < energy.width → step < energy.width → Seam.Adjacent step x →
        (value (energy.terrain.cost .previous y step) <
            value (energy.terrain.cost .previous y (energy.terrain.parent .previous y x)) ↔
          Terrain.PassesOver energy.width (energy.terrain.cost .previous y) x step) := by
  have large := large_terrain wide high
  refine ⟨_, seam_eq_seam_terrain .previous filled wide high, ?_, ?_, ?_⟩
  · intro path fits meets weighs
    exact exact.total_seam_le large.1 large.2 fits weighs meets
  · intro level path fits meets
    have weighs : energy.terrain.Weighs path := by
      rintro y hy step - x - ⟨left, right, cheaper, -⟩
      have inside : y + 2 < energy.height := by
        rw [height_terrain] at hy
        omega
      exact level y x inside left right cheaper
    exact exact.total_seam_le large.1 large.2 fits weighs meets
  · intro y x step hy hx hstep near
    exact exact.value_lt_parent_iff large.1 hy hx hstep near

end

/-- The cheapest path comes from up and to the right, where no seam comes from, as up and to the left is no
    cheaper. -/
def dip : Grid Float :=
  ⟨3, 3, #[5, 5, 0, 9, 0, 9, 1, 0, 1]⟩

theorem seam_le_path_dip :
    ((dip.WellFormed ∧ 3 ≤ dip.width ∧ 3 ≤ dip.height) ∧ dip.terrain.Exact .previous floatValue ∧
      ∃ seam, dip.seam .previous = .ok seam ∧
        (Seam.Fits [0, 1, 1] 3 3 ∧ [0, 1, 1][1]? = seam[1]? ∧ dip.terrain.Weighs [0, 1, 1] ∧
          dip.terrain.total floatValue seam ≤ dip.terrain.total floatValue [0, 1, 1]) ∧
        (floatValue (dip.terrain.cost .previous 0 2) <
            floatValue (dip.terrain.cost .previous 0 (dip.terrain.parent .previous 0 1)) ↔
          Terrain.PassesOver 3 (dip.terrain.cost .previous 0) 1 2)) ∧
    ((lanes.WellFormed ∧ 3 ≤ lanes.width ∧ 3 ≤ lanes.height) ∧ lanes.terrain.Exact .previous floatValue ∧
      (∀ y x, y + 2 < 4 → 0 < x → x + 1 < 3 →
        ¬ lanes.terrain.cost .previous y (x + 1) < lanes.terrain.cost .previous y x) ∧
      ∃ seam, lanes.seam .previous = .ok seam ∧ Seam.Fits [2, 1, 0, 1] 4 3 ∧ [2, 1, 0, 1][2]? = seam[2]? ∧
        lanes.terrain.total floatValue seam ≤ lanes.terrain.total floatValue [2, 1, 0, 1]) := by
  have shape : dip.WellFormed ∧ 3 ≤ dip.width ∧ 3 ≤ dip.height := by decide
  have shape' : lanes.WellFormed ∧ 3 ≤ lanes.width ∧ 3 ≤ lanes.height := by decide
  have exact : dip.terrain.Exact .previous floatValue := by decide +kernel
  have exact' : lanes.terrain.Exact .previous floatValue := by decide +kernel
  have fits : Seam.Fits [0, 1, 1] 3 3 := ⟨by decide, by decide, by decide⟩
  have fits' : Seam.Fits [2, 1, 0, 1] 4 3 := ⟨by decide, by decide, by decide⟩
  have weighs : dip.terrain.Weighs [0, 1, 1] := by decide +kernel
  have level : ∀ y x, y + 2 < 4 → 0 < x → x + 1 < 3 →
      ¬ lanes.terrain.cost .previous y (x + 1) < lanes.terrain.cost .previous y x := by
    intro y x hy left right
    have rows : y = 0 ∨ y = 1 := by omega
    obtain rfl : x = 1 := by omega
    rcases rows with rfl | rfl <;> decide +kernel
  obtain ⟨seam, found, dearer, -, passed⟩ :=
    seam_le_path dip floatValue shape.1 shape.2.1 shape.2.2 exact
  obtain ⟨seam', found', -, dearer', -⟩ :=
    seam_le_path lanes floatValue shape'.1 shape'.2.1 shape'.2.2 exact'
  have meets : [0, 1, 1][1]? = seam[1]? := by
    rw [seam_eq_seam_terrain .previous shape.1 shape.2.1 shape.2.2] at found
    rw [← Except.ok.inj found]
    decide +kernel
  have meets' : [2, 1, 0, 1][2]? = seam'[2]? := by
    rw [seam_eq_seam_terrain .previous shape'.1 shape'.2.1 shape'.2.2] at found'
    rw [← Except.ok.inj found']
    decide +kernel
  have beside : Seam.Adjacent 2 1 := by decide
  exact ⟨⟨shape, exact, seam, found, ⟨fits, meets, weighs, dearer _ fits meets weighs⟩,
      passed 0 1 2 (by decide) (by decide) (by decide) beside⟩,
    shape', exact', level, seam', found', fits', meets', dearer' level _ fits' meets'⟩

/-- A single cheaper path shows that the seam of a grid is not the cheapest. -/
theorem exists_seam_not_isCheapest [Inhabited ε] [LT ε] [DecidableLT ε] [Add ε] [AddCommMonoid ρ]
    [LinearOrder ρ] {energy : Grid ε} {rule : LeftEdgeRule} {value : ε → ρ} {path : Seam}
    (shape : energy.WellFormed ∧ 3 ≤ energy.width ∧ 3 ≤ energy.height)
    (fits : path.Fits energy.height energy.width)
    (cheaper : energy.terrain.total value path < energy.terrain.total value (energy.terrain.seam rule)) :
    ∃ seam, energy.seam rule = .ok seam ∧ ¬ energy.terrain.IsCheapest value seam := by
  refine ⟨_, seam_eq_seam_terrain rule shape.1 shape.2.1 shape.2.2, ?_⟩
  intro cheapest
  exact not_le_of_gt cheaper (cheapest path fits)

/-- The cheapest path ends in the last column, but the least energy of the last row is in the first one. -/
def slope : Grid Float :=
  ⟨3, 3, #[3, 3, 0, 9, 9, 0, 0, 2, 1]⟩

/-- The seam of a grid of exact energies, none of which is negative, need not be the cheapest path through it: it
    may miss that path where a parent is chosen, and where it chooses the column to end in. -/
theorem seam_dearer_than_path :
    ((dip.WellFormed ∧ 3 ≤ dip.width ∧ 3 ≤ dip.height) ∧ dip.terrain.Exact .previous floatValue ∧
      (∀ y, y < 3 → ∀ x, x < 3 → 0 ≤ floatValue (dip.terrain.energy x y)) ∧
      ∃ seam, dip.seam .previous = .ok seam ∧ ¬ dip.terrain.IsCheapest floatValue seam) ∧
    ((slope.WellFormed ∧ 3 ≤ slope.width ∧ 3 ≤ slope.height) ∧ slope.terrain.Exact .previous floatValue ∧
      (∀ y, y < 3 → ∀ x, x < 3 → 0 ≤ floatValue (slope.terrain.energy x y)) ∧
      ∃ seam, slope.seam .previous = .ok seam ∧ ¬ slope.terrain.IsCheapest floatValue seam) := by
  constructor
  · have shape : dip.WellFormed ∧ 3 ≤ dip.width ∧ 3 ≤ dip.height := by decide
    have fits : Seam.Fits [2, 1, 1] 3 3 := ⟨by decide, by decide, by decide⟩
    have cheaper : dip.terrain.total floatValue [2, 1, 1] <
        dip.terrain.total floatValue (dip.terrain.seam .previous) := by decide +kernel
    exact ⟨shape, by decide +kernel, by decide +kernel, exists_seam_not_isCheapest shape fits cheaper⟩
  · have shape : slope.WellFormed ∧ 3 ≤ slope.width ∧ 3 ≤ slope.height := by decide
    have fits : Seam.Fits [2, 2, 2] 3 3 := ⟨by decide, by decide, by decide⟩
    have cheaper : slope.terrain.total floatValue [2, 2, 2] <
        slope.terrain.total floatValue (slope.terrain.seam .previous) := by decide +kernel
    exact ⟨shape, by decide +kernel, by decide +kernel, exists_seam_not_isCheapest shape fits cheaper⟩

section

variable [Inhabited ε] [LT ε] [DecidableLT ε] [Add ε] [AddCommMonoid ρ] [LinearOrder ρ] [IsOrderedAddMonoid ρ]

/-- With exact numbers and the rule that compares with the row behind, no parent costs more than the cell straight
    above its child, no cell above the last row costs more than the total of its column down to it, and the seam
    down to any cell above the last row is no dearer than the column of this cell. -/
theorem seam_le_column (energy : Grid ε) (value : ε → ρ) (filled : energy.WellFormed) (wide : 3 ≤ energy.width)
    (high : 3 ≤ energy.height) (exact : energy.terrain.Exact .previous value) :
    ∃ table seam, (Tableau.start energy).relaxRows .previous = some table ∧ energy.seam .previous = .ok seam ∧
      (∀ x y, x < energy.width → y + 2 < energy.height →
        ∃ parent chosen straight, table.parent.cell? x (y + 1) = some parent ∧
          table.cost.cell? parent y = some chosen ∧ table.cost.cell? x y = some straight ∧
          value chosen ≤ value straight) ∧
      (∀ x y, x < energy.width → y + 2 ≤ energy.height →
        ∃ cost, table.cost.cell? x y = some cost ∧
          value cost ≤ energy.terrain.total value (List.replicate (y + 1) x)) ∧
      ∀ k, k + 2 ≤ energy.height → ∃ x, seam[k]? = some x ∧
        energy.terrain.total value (seam.take (k + 1)) ≤
          energy.terrain.total value (List.replicate (k + 1) x) := by
  have large := large_terrain wide high
  obtain ⟨table, relaxed, done⟩ := Tableau.exists_relaxedTo .previous filled wide
  refine ⟨table, _, relaxed, seam_eq_seam_terrain .previous filled wide high, ?_, ?_, ?_⟩
  · intro x y hx hy
    have inside := energy.terrain.parent_lt .previous large.1 y hx
    exact ⟨_, _, _, done.cell?_parent hx hy, done.cell?_cost inside (Nat.le_of_lt hy),
      done.cell?_cost hx (Nat.le_of_lt hy), exact.value_parent_le_straight large.1 hy hx⟩
  · intro x y hx hy
    exact ⟨_, done.cell?_cost hx hy, exact.value_cost_le_column large.1 hx hy⟩
  · intro k hk
    have fits := energy.terrain.seam_fits .previous large.1 large.2
    obtain ⟨x, here, hx⟩ := fits.exists_entry (show k < energy.terrain.height by rw [height_terrain]; omega)
    refine ⟨x, here, ?_⟩
    rw [energy.terrain.take_seam .previous large.2 hk here, ← exact.adds.value_cost large.1 hk hx]
    exact exact.value_cost_le_column large.1 hx hk

end

theorem seam_le_column_lanes :
    let energy := lanes
    (energy.WellFormed ∧ 3 ≤ energy.width ∧ 3 ≤ energy.height) ∧ energy.terrain.Exact .previous floatValue ∧
    ∃ table seam, (Tableau.start energy).relaxRows .previous = some table ∧ energy.seam .previous = .ok seam ∧
      (∃ parent chosen straight, table.parent.cell? 0 1 = some parent ∧
        table.cost.cell? parent 0 = some chosen ∧ table.cost.cell? 0 0 = some straight ∧
        floatValue chosen ≤ floatValue straight) ∧
      (∃ cost, table.cost.cell? 1 2 = some cost ∧
        floatValue cost ≤ energy.terrain.total floatValue (List.replicate 3 1)) ∧
      ∃ x, seam[2]? = some x ∧
        energy.terrain.total floatValue (seam.take 3) ≤ energy.terrain.total floatValue (List.replicate 3 x) := by
  intro energy
  have shape : energy.WellFormed ∧ 3 ≤ energy.width ∧ 3 ≤ energy.height := by decide
  have exact : energy.terrain.Exact .previous floatValue := by decide +kernel
  obtain ⟨table, seam, relaxed, found, parents, costs, columns⟩ :=
    seam_le_column energy floatValue shape.1 shape.2.1 shape.2.2 exact
  exact ⟨shape, exact, table, seam, relaxed, found, parents 0 0 (by decide) (by decide),
    costs 1 2 (by decide) (by decide), columns 2 (by decide)⟩

end Grid

end SeamCarving

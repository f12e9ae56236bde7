import SeamCarving.Proofs.Energy.WholeFloat
import SeamCarving.Proofs.Seam.Cheapest

/-!
# Seams by floats and by integers

A seam is found by comparing numbers, so two terrains have the same seam if their costs compare alike, whatever these
are made of. This holds of a terrain of floats that stand for integers and the terrain of these integers as long as the
costs are small enough for a float. Main statement: the floats then make the choices of the integers at every cell
(`Terrain.Whole.parent_eq`, `Terrain.Whole.seam_eq`), and no sum is rounded (`Terrain.Whole.isExact`).
-/

namespace SeamCarving

section

variable {ε δ : Type} [LT ε] [DecidableLT ε] [LT δ] [DecidableLT δ]

/-- Numbers that compare alike lead to the same choice of a parent. -/
theorem Terrain.choose_eq_of_lt_iff {width x : Nat} {above : Nat → ε} {above' : Nat → δ} {ahead : ε} {ahead' : δ}
    (rule : LeftEdgeRule) (wide : 2 ≤ width) (hx : x < width)
    (ordered : ∀ x x', x < width → x' < width → (above x < above x' ↔ above' x < above' x'))
    (ahead_lt_iff : ahead < above 0 ↔ ahead' < above' 0) :
    choose width rule above ahead x = choose width rule above' ahead' x := by
  cases x with
  | zero =>
      cases rule with
      | lookahead => exact if_congr ahead_lt_iff rfl rfl
      | previous => exact if_congr (ordered 1 0 (by omega) hx) rfl rfl
  | succ left =>
      have fromLeft := ordered left (left + 1) (by omega) hx
      by_cases last : left + 2 = width
      · simp only [choose, last, ↓reduceIte, fromLeft]
      · have fromRight := ordered (left + 2) (left + 1) (by omega) hx
        have sides := ordered left (left + 2) (by omega) (by omega)
        simp only [choose, last, ↓reduceIte, fromLeft, fromRight, sides]

end

namespace Terrain

/-- The energies of the terrain of floats stand for those of the terrain of integers, and its costs are small enough
    to be stood for. -/
structure Whole (terrain : Terrain Float) (exact : Terrain Int) (rule : LeftEdgeRule) : Prop where
  width_eq : terrain.width = exact.width
  height_eq : terrain.height = exact.height
  energy : ∀ x y, x < exact.width → y < exact.height → IsWhole (terrain.energy x y) (exact.energy x y)
  small : ∀ x y, x < exact.width → y + 2 ≤ exact.height → (exact.cost rule y x).natAbs < 2 ^ 53

namespace Whole

variable {terrain : Terrain Float} {exact : Terrain Int} {rule : LeftEdgeRule}

/-- If the costs of a row stand for integers, the cells of the next row choose their parents as by these. -/
theorem parent_eq_of_cost (whole : terrain.Whole exact rule) (wide : 2 ≤ exact.width) {x y : Nat}
    (hx : x < exact.width) (hy : y + 2 < exact.height)
    (costs : ∀ x, x < exact.width → IsWhole (terrain.cost rule y x) (exact.cost rule y x)) :
    terrain.parent rule y x = exact.parent rule y x := by
  unfold parent
  rw [whole.width_eq]
  refine choose_eq_of_lt_iff rule wide hx ?_ ?_
  · intro x x' hx hx'
    exact (costs x hx).lt_iff (costs x' hx')
  · exact (whole.energy 1 (y + 2) (by omega) hy).lt_iff (costs 0 (by omega))

/-- The costs of a terrain stand for those that the integers have. -/
theorem cost (whole : terrain.Whole exact rule) (wide : 2 ≤ exact.width) {x y : Nat} (hx : x < exact.width)
    (hy : y + 2 ≤ exact.height) : IsWhole (terrain.cost rule y x) (exact.cost rule y x) := by
  -- row by row: the costs of a row decide the parents of the next, and these its costs
  induction y generalizing x with
  | zero => exact whole.energy x 0 hx (by omega)
  | succ y ih =>
      have same := whole.parent_eq_of_cost wide hx (by omega) fun x hx => ih hx (by omega)
      have inherited := ih (exact.parent_lt rule wide y hx) (by omega)
      have fits := whole.small x (y + 1) hx hy
      rw [cost_succ] at fits
      rw [cost_succ, cost_succ, same]
      exact (whole.energy x (y + 1) hx (by omega)).add inherited fits

theorem parent_eq (whole : terrain.Whole exact rule) (wide : 2 ≤ exact.width) {x y : Nat} (hx : x < exact.width)
    (hy : y + 2 < exact.height) : terrain.parent rule y x = exact.parent rule y x :=
  whole.parent_eq_of_cost wide hx hy fun _ hx => whole.cost wide hx (by omega)

theorem ascent_eq (whole : terrain.Whole exact rule) (wide : 2 ≤ exact.width) {x y : Nat} (hx : x < exact.width)
    (hy : y + 2 ≤ exact.height) : terrain.ascent rule y x = exact.ascent rule y x := by
  induction y generalizing x with
  | zero => rfl
  | succ y ih =>
      rw [ascent, ascent, whole.parent_eq wide hx hy, ih (exact.parent_lt rule wide y hx) (by omega)]

theorem endpoint_eq (whole : terrain.Whole exact rule) (high : 0 < exact.height) :
    terrain.endpoint = exact.endpoint := by
  rw [Terrain.endpoint, Terrain.endpoint, whole.width_eq, whole.height_eq]
  refine leftmostLeast_eq_of_lt_iff ?_
  intro x x' hx hx'
  exact (whole.energy x _ hx (by omega)).lt_iff (whole.energy x' _ hx' (by omega))

/-- The seam of a terrain is that of the integers that it stands for. -/
theorem seam_eq (whole : terrain.Whole exact rule) (wide : 2 ≤ exact.width) (high : 2 ≤ exact.height) :
    terrain.seam rule = exact.seam rule := by
  have inside := exact.endpoint_lt (by omega)
  unfold seam
  rw [whole.height_eq, whole.endpoint_eq (by omega), whole.ascent_eq wide inside (by omega)]

/-- The numbers of a terrain that stands for integers are exact. -/
theorem isExact (whole : terrain.Whole exact rule) (wide : 2 ≤ exact.width) (high : 2 ≤ exact.height) :
    terrain.Exact rule floatValue := by
  have width_eq := whole.width_eq
  have height_eq := whole.height_eq
  have ordered {float float' : Float} {number number' : ℤ} (stands : IsWhole float number)
      (stands' : IsWhole float' number') : float < float' ↔ floatValue float < floatValue float' := by
    rw [stands.lt_iff stands', stands.floatValue_eq, stands'.floatValue_eq, Int.cast_lt]
  constructor
  · intro y hy x hx
    rw [width_eq] at hx
    rw [height_eq] at hy
    have inherited := whole.cost wide (exact.parent_lt rule wide y hx) (show y + 2 ≤ exact.height by omega)
    have own := whole.energy x (y + 1) hx (by omega)
    rw [(whole.cost wide hx (by omega)).floatValue_eq, whole.parent_eq wide hx (by omega), inherited.floatValue_eq,
      own.floatValue_eq, cost_succ, Int.cast_add]
  · intro y hy x hx x' hx'
    rw [width_eq] at hx hx'
    rw [height_eq] at hy
    exact ordered (whole.cost wide hx (by omega)) (whole.cost wide hx' (by omega))
  · intro x hx x' hx'
    rw [width_eq] at hx hx'
    rw [height_eq]
    exact ordered (whole.energy x _ hx (by omega)) (whole.energy x' _ hx' (by omega))

end Whole

end Terrain

end SeamCarving

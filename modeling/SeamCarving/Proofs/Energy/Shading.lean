import Mathlib
import SeamCarving.Proofs.Energy.Brightness
import SeamCarving.Proofs.Energy.FloatShade
import SeamCarving.Proofs.Grid.Reading

/-!
# How shades follow energies

The picture of an energy grid has its size and is no darker where there is more energy; it is black where the energy is
not positive and at full brightness where a positive energy is the highest. `ShadeLaws` are the laws of numbers that
this rests on. Floats obey them although they are rounded twice on the way to a shade, and so do rational numbers, which
are not rounded before. Main statement: `Grid.shades_follow_energies`.
-/

namespace SeamCarving

section

variable {ε α : Type} [LT ε] [DecidableLT ε] [LinearOrder α] {rank : ε → α}

theorem larger_eq_or (first cell : ε) : larger first cell = first ∨ larger first cell = cell := by
  unfold larger
  split
  · exact Or.inr rfl
  · exact Or.inl rfl

theorem rank_le_larger {first cell : ε} (ordered : first < cell ↔ rank first < rank cell) :
    rank first ≤ rank (larger first cell) ∧ rank cell ≤ rank (larger first cell) := by
  unfold larger
  split
  · next less => exact ⟨(ordered.1 less).le, le_rfl⟩
  · next not_less => exact ⟨le_rfl, not_lt.1 (mt ordered.2 not_less)⟩

/-- A search for the largest ends at one of the numbers that it has seen, and none of them is ranked above it. -/
theorem foldl_larger_greatest {cells : List ε} {first : ε}
    (ordered : ∀ cell ∈ first :: cells, ∀ other ∈ first :: cells, cell < other ↔ rank cell < rank other) :
    cells.foldl larger first ∈ first :: cells ∧
      ∀ cell ∈ first :: cells, rank cell ≤ rank (cells.foldl larger first) := by
  induction cells generalizing first with
  | nil => simp
  | cons cell cells ih =>
      have among : ∀ other ∈ larger first cell :: cells, other ∈ first :: cell :: cells := by
        intro other member
        rcases List.mem_cons.1 member with rfl | later
        · rcases larger_eq_or first cell with same | same <;> rw [same] <;> simp
        · exact List.mem_cons_of_mem _ (List.mem_cons_of_mem _ later)
      obtain ⟨found, greatest⟩ := ih fun one member other member' =>
        ordered one (among one member) other (among other member')
      have step := rank_le_larger (ordered first (by simp) cell (by simp))
      have reached := greatest _ List.mem_cons_self
      refine ⟨among _ found, ?_⟩
      intro other member
      rw [List.foldl_cons]
      rcases List.mem_cons.1 member with rfl | member
      · exact step.1.trans reached
      · rcases List.mem_cons.1 member with rfl | later
        · exact step.2.trans reached
        · exact greatest other (List.mem_cons_of_mem _ later)

end

/-! ## Pictures of energies -/

section

variable {ε : Type} [LT ε] [NatCast ε]

/-- The shades are a picture of the energies. -/
structure Grid.PicturedBy (energy : Grid ε) (shades : Grid UInt8) : Prop where
  width : shades.width = energy.width
  height : shades.height = energy.height
  filled : shades.WellFormed
  /-- Every energy has a shade, from `0` to `255`. -/
  bounded : ∀ x y cell, energy.cell? x y = some cell → ∃ shade, shades.cell? x y = some shade ∧ shade.toNat ≤ 255
  /-- What has no more energy than another is not brighter. -/
  monotone : ∀ x y x' y' cell cell' shade shade',
    energy.cell? x y = some cell → energy.cell? x' y' = some cell' → ¬ cell' < cell →
      shades.cell? x y = some shade → shades.cell? x' y' = some shade' → shade ≤ shade'
  /-- What has no positive energy is black. -/
  dark : ∀ x y cell, energy.cell? x y = some cell → ¬ ((0 : ℕ) : ε) < cell → shades.cell? x y = some 0
  /-- What has the highest energy is at full brightness if this energy is positive. -/
  bright : ∀ x y cell, energy.cell? x y = some cell → ((0 : ℕ) : ε) < cell →
    (∀ x' y' cell', energy.cell? x' y' = some cell' → ¬ cell < cell') → shades.cell? x y = some 255
  /-- Without positive energies all is black. -/
  black : (∀ x y cell, energy.cell? x y = some cell → ¬ ((0 : ℕ) : ε) < cell) →
    ∀ x y shade, shades.cell? x y = some shade → shade = 0

end

section

variable {ε : Type} [LT ε] [DecidableLT ε] [NatCast ε]

theorem Grid.peak_eq_foldl (energy : Grid ε) : energy.peak = energy.cells.toList.foldl larger ((0 : ℕ) : ε) :=
  (Array.foldl_toList _).symm

theorem Grid.cell?_shades [Div ε] [Mul ε] [ToShade ε] (energy : Grid ε) (x y : Nat) :
    energy.shades.cell? x y = (energy.cell? x y).map (Grid.shade energy.peak) :=
  Grid.cell?_map _ _ _ _

end

section

variable {ε α : Type} [LT ε] [Div ε] [Mul ε] [NatCast ε] [ToShade ε] [LinearOrder α]

/-- The laws under which the shades of the numbers that are energies follow these. -/
structure ShadeLaws (IsEnergy : ε → Prop) (rank : ε → α) : Prop where
  zero : IsEnergy ((0 : ℕ) : ε)
  lt_iff : ∀ {energy other}, IsEnergy energy → IsEnergy other → (energy < other ↔ rank energy < rank other)
  /-- Divided by a positive number and spread over the shades, what is not positive has the shade zero. -/
  dark : ∀ {peak energy}, IsEnergy peak → IsEnergy energy → ((0 : ℕ) : ε) < peak → ¬ ((0 : ℕ) : ε) < energy →
    ToShade.toShade (energy / peak * ((255 : ℕ) : ε)) = 0
  /-- To divide, to spread and to round keep the order of positive numbers. -/
  mono : ∀ {peak energy other}, IsEnergy peak → IsEnergy energy → IsEnergy other → ((0 : ℕ) : ε) < energy →
    rank energy ≤ rank other → rank other ≤ rank peak →
      ToShade.toShade (energy / peak * ((255 : ℕ) : ε)) ≤ ToShade.toShade (other / peak * ((255 : ℕ) : ε))
  /-- A number divided by one that is equal to it has the full shade. -/
  full : ∀ {peak energy}, IsEnergy peak → IsEnergy energy → ((0 : ℕ) : ε) < energy → rank energy = rank peak →
    ToShade.toShade (energy / peak * ((255 : ℕ) : ε)) = 255

namespace ShadeLaws

variable {IsEnergy : ε → Prop} {rank : ε → α}

theorem pos_iff (laws : ShadeLaws IsEnergy rank) {cell : ε} (sound : IsEnergy cell) :
    ((0 : ℕ) : ε) < cell ↔ rank ((0 : ℕ) : ε) < rank cell :=
  laws.lt_iff laws.zero sound

variable [DecidableLT ε] {energy : Grid ε}

section

variable (laws : ShadeLaws IsEnergy rank) (sound : ∀ cell ∈ energy.cells, IsEnergy cell) {cell : ε}
include laws sound

/-- The peak of a grid is zero or one of its energies, and the highest of all these. -/
theorem peak_greatest :
    (energy.peak = ((0 : ℕ) : ε) ∨ energy.peak ∈ energy.cells) ∧ rank ((0 : ℕ) : ε) ≤ rank energy.peak ∧
      ∀ cell ∈ energy.cells, rank cell ≤ rank energy.peak := by
  have energies : ∀ cell ∈ ((0 : ℕ) : ε) :: energy.cells.toList, IsEnergy cell := by
    intro cell member
    rcases List.mem_cons.1 member with rfl | stored
    · exact laws.zero
    · exact sound cell (Array.mem_toList_iff.1 stored)
  have ordered : ∀ cell ∈ ((0 : ℕ) : ε) :: energy.cells.toList, ∀ other ∈ ((0 : ℕ) : ε) :: energy.cells.toList,
      cell < other ↔ rank cell < rank other :=
    fun cell member other member' => laws.lt_iff (energies cell member) (energies other member')
  obtain ⟨found, greatest⟩ := foldl_larger_greatest ordered
  rw [← Grid.peak_eq_foldl] at found greatest
  refine ⟨?_, greatest _ List.mem_cons_self, ?_⟩
  · exact (List.mem_cons.1 found).imp_right Array.mem_toList_iff.1
  · intro cell stored
    exact greatest cell (List.mem_cons_of_mem _ (Array.mem_toList_iff.2 stored))

theorem isEnergy_peak : IsEnergy energy.peak := by
  rcases (laws.peak_greatest sound).1 with zero | stored
  · exact zero ▸ laws.zero
  · exact sound _ stored

/-- The shade of an energy of the grid, which is not above the peak. -/
theorem shade_of_pos (stored : cell ∈ energy.cells) (pos : ((0 : ℕ) : ε) < cell) :
    Grid.shade energy.peak cell = ToShade.toShade (cell / energy.peak * ((255 : ℕ) : ε)) := by
  have below := (laws.peak_greatest sound).2.2 cell stored
  rw [laws.pos_iff (sound cell stored)] at pos
  rw [Grid.shade, if_pos ((laws.pos_iff (laws.isEnergy_peak sound)).2 (pos.trans_le below))]

theorem shade_of_not_pos (stored : cell ∈ energy.cells) (not_pos : ¬ ((0 : ℕ) : ε) < cell) :
    Grid.shade energy.peak cell = 0 := by
  unfold Grid.shade
  split
  · next pos => exact laws.dark (laws.isEnergy_peak sound) (sound cell stored) pos not_pos
  · rfl

theorem shade_mono {other : ε} (stored : cell ∈ energy.cells) (stored' : other ∈ energy.cells)
    (not_less : ¬ other < cell) :
    Grid.shade energy.peak cell ≤ Grid.shade energy.peak other := by
  have le : rank cell ≤ rank other := not_lt.1 (mt (laws.lt_iff (sound other stored') (sound cell stored)).2 not_less)
  by_cases pos : ((0 : ℕ) : ε) < cell
  · have pos' : ((0 : ℕ) : ε) < other :=
      (laws.pos_iff (sound other stored')).2 (((laws.pos_iff (sound cell stored)).1 pos).trans_le le)
    rw [laws.shade_of_pos sound stored pos, laws.shade_of_pos sound stored' pos']
    exact laws.mono (laws.isEnergy_peak sound) (sound cell stored) (sound other stored') pos le
      ((laws.peak_greatest sound).2.2 other stored')
  · rw [laws.shade_of_not_pos sound stored pos]
    exact UInt8.zero_le

/-- The peak is the highest energy if that is positive. -/
theorem rank_peak (stored : cell ∈ energy.cells) (pos : ((0 : ℕ) : ε) < cell)
    (highest : ∀ other ∈ energy.cells, ¬ cell < other) : rank energy.peak = rank cell := by
  obtain ⟨among, -, greatest⟩ := laws.peak_greatest sound
  refine le_antisymm ?_ (greatest cell stored)
  rcases among with zero | found
  · rw [zero]
    exact ((laws.pos_iff (sound cell stored)).1 pos).le
  · exact not_lt.1 (mt (laws.lt_iff (sound cell stored) (sound _ found)).2 (highest _ found))

end

/-- Under the laws the shades of energies are a picture of them. -/
theorem picturedBy_shades (laws : ShadeLaws IsEnergy rank) (filled : energy.WellFormed)
    (sound : ∀ x y cell, energy.cell? x y = some cell → IsEnergy cell) : energy.PicturedBy energy.shades := by
  have energies : ∀ cell ∈ energy.cells, IsEnergy cell := by
    intro cell stored
    obtain ⟨x, y, found⟩ := Grid.exists_cell?_of_mem filled stored
    exact sound x y cell found
  refine ⟨rfl, rfl, filled.map _, ?_, ?_, ?_, ?_, ?_⟩
  · intro x y cell found
    refine ⟨Grid.shade energy.peak cell, by rw [Grid.cell?_shades, found, Option.map_some], ?_⟩
    exact Nat.le_of_lt_succ (UInt8.toNat_lt _)
  · intro x y x' y' cell cell' shade shade' found found' not_less shade_eq shade_eq'
    rw [Grid.cell?_shades, found, Option.map_some, Option.some_inj] at shade_eq
    rw [Grid.cell?_shades, found', Option.map_some, Option.some_inj] at shade_eq'
    rw [← shade_eq, ← shade_eq']
    exact laws.shade_mono energies (Grid.mem_of_cell? found) (Grid.mem_of_cell? found') not_less
  · intro x y cell found not_pos
    rw [Grid.cell?_shades, found, Option.map_some, laws.shade_of_not_pos energies (Grid.mem_of_cell? found) not_pos]
  · intro x y cell found pos highest
    have stored := Grid.mem_of_cell? found
    have same := laws.rank_peak energies stored pos fun other stored' => by
      obtain ⟨x', y', found'⟩ := Grid.exists_cell?_of_mem filled stored'
      exact highest x' y' other found'
    rw [Grid.cell?_shades, found, Option.map_some, laws.shade_of_pos energies stored pos,
      laws.full (laws.isEnergy_peak energies) (energies cell stored) pos same.symm]
  · intro none x y shade shade_eq
    rw [Grid.cell?_shades] at shade_eq
    obtain ⟨cell, found, rfl⟩ := Option.map_eq_some_iff.1 shade_eq
    exact laws.shade_of_not_pos energies (Grid.mem_of_cell? found) (none x y cell found)

end ShadeLaws

end

/-! ## Floats -/

theorem pos_of_rank_le {energy other : Float} (finite : energy.isFinite = true) (finite' : other.isFinite = true)
    (pos : ((0 : ℕ) : Float) < energy) (le : floatRank energy ≤ floatRank other) : ((0 : ℕ) : Float) < other := by
  have zero := isWhole_zero.isNaN_eq
  rw [floatLt_iff_rank_lt zero (isNaN_of_isFinite finite)] at pos
  rw [floatLt_iff_rank_lt zero (isNaN_of_isFinite finite')]
  exact pos.trans_le le

/-- Finite floats obey the laws, although the quotient and the product are both rounded: rounding keeps the order, and a
    quotient of equals needs none. -/
theorem shadeLaws_float : ShadeLaws (fun energy : Float => energy.isFinite = true) floatRank where
  zero := isWhole_zero.isFinite_eq
  lt_iff finite finite' := floatLt_iff_rank_lt (isNaN_of_isFinite finite) (isNaN_of_isFinite finite')
  dark := by
    intro peak energy peak_finite finite peak_pos not_pos
    obtain ⟨magnitude, pos⟩ := isMagnitude_of_pos peak_finite peak_pos
    -- the quotient may be too large for a float, but then it is infinite below zero
    have ratio := (atMostZero_of_not_pos finite not_pos).div magnitude pos |>.unpack_pack
    have spread := ratio.mul isMagnitude_full (by norm_num) |>.unpack_pack
    exact nearestShade_of_atMostZero spread
  mono := by
    intro peak energy other peak_finite finite finite' pos le le'
    have pos' := pos_of_rank_le finite finite' pos le
    obtain ⟨peak_magnitude, peak_pos⟩ := isMagnitude_of_pos peak_finite (pos_of_rank_le finite' peak_finite pos' le')
    obtain ⟨magnitude, -⟩ := isMagnitude_of_pos finite pos
    obtain ⟨magnitude', -⟩ := isMagnitude_of_pos finite' pos'
    rw [magnitude.rank_le_rank_iff magnitude'] at le
    rw [magnitude'.rank_le_rank_iff peak_magnitude] at le'
    have brightness := (peak_magnitude.brightness magnitude peak_pos (le.trans le')).nearestShade_eq
    have brightness' := (peak_magnitude.brightness magnitude' peak_pos le').nearestShade_eq
    change nearestShade _ ≤ nearestShade _
    rw [brightness, brightness']
    exact toShade_mono (roundedBrightness_mono peak_pos le)
  full := by
    intro peak energy peak_finite finite pos same
    obtain ⟨peak_magnitude, peak_pos⟩ := isMagnitude_of_pos peak_finite (pos_of_rank_le finite peak_finite pos same.le)
    obtain ⟨magnitude, -⟩ := isMagnitude_of_pos finite pos
    have equal := magnitude.eq_of_rank_eq peak_magnitude same
    have brightness := (peak_magnitude.brightness magnitude peak_pos equal.le).nearestShade_eq
    change nearestShade _ = 255
    rw [brightness, equal, roundedBrightness_self peak_pos, toShade_full]

/-! ## Rational numbers -/

/-- All rational numbers obey the laws. -/
theorem shadeLaws_rat : ShadeLaws (fun _ : ℚ => True) id where
  zero := trivial
  lt_iff _ _ := Iff.rfl
  dark := by
    intro peak energy _ _ peak_pos not_pos
    rw [Nat.cast_zero] at peak_pos not_pos
    refine toShade_of_nonpos (mul_nonpos_of_nonpos_of_nonneg ?_ (Nat.cast_nonneg _))
    exact div_nonpos_of_nonpos_of_nonneg (not_lt.1 not_pos) peak_pos.le
  mono := by
    intro peak energy other _ _ _ pos le le'
    rw [Nat.cast_zero] at pos
    refine toShade_mono (mul_le_mul_of_nonneg_right ?_ (Nat.cast_nonneg _))
    exact div_le_div_of_nonneg_right le (pos.le.trans (le.trans le'))
  full := by
    intro peak energy _ _ pos same
    rw [Nat.cast_zero] at pos
    obtain rfl : energy = peak := same
    rw [div_self pos.ne', one_mul]
    exact toShade_full

namespace Grid

/-- The energies that a grid has at its places. -/
def energySet (energy : Grid ℚ) : Set ℚ :=
  {cell | ∃ x y, energy.cell? x y = some cell}

theorem isGreatest_peak {energy : Grid ℚ} (filled : energy.WellFormed) {cell : ℚ} (stored : cell ∈ energy.cells)
    (pos : 0 < cell) : IsGreatest energy.energySet energy.peak := by
  have sound : ∀ cell ∈ energy.cells, True := fun _ _ => trivial
  obtain ⟨among, -, greatest⟩ := shadeLaws_rat.peak_greatest sound
  have peak_pos : ((0 : ℕ) : ℚ) < energy.peak := (Nat.cast_zero (R := ℚ) ▸ pos).trans_le (greatest cell stored)
  refine ⟨exists_cell?_of_mem filled (among.resolve_left peak_pos.ne'), ?_⟩
  rintro other ⟨x, y, found⟩
  exact greatest other (mem_of_cell? found)

/-- A positive energy is shown in its proportion to the highest one, rounded to the nearest shade, a half up. -/
theorem exists_shade_in_proportion {energy : Grid ℚ} (filled : energy.WellFormed) {x y : Nat} {cell : ℚ}
    (found : energy.cell? x y = some cell) (pos : 0 < cell) :
    ∃ highest shade, IsGreatest energy.energySet highest ∧ energy.shades.cell? x y = some shade ∧
      (shade.toNat : ℤ) = ⌊255 * cell / highest + 1 / 2⌋ := by
  have sound : ∀ cell ∈ energy.cells, True := fun _ _ => trivial
  have stored := mem_of_cell? found
  have greatest := isGreatest_peak filled stored pos
  have le : cell ≤ energy.peak := greatest.2 ⟨x, y, found⟩
  have ratio : cell / energy.peak ≤ 1 := div_le_one_of_le₀ le (pos.le.trans le)
  have ratio_pos : 0 ≤ cell / energy.peak := div_nonneg pos.le (pos.le.trans le)
  have share : 255 * cell / energy.peak = cell / energy.peak * 255 := by ring
  have most : ⌊cell / energy.peak * 255 + 1 / 2⌋₊ ≤ 255 := by
    refine Nat.lt_succ_iff.1 ((Nat.floor_lt (by positivity)).2 ?_)
    push_cast
    linarith
  refine ⟨energy.peak, shade energy.peak cell, greatest, by rw [cell?_shades, found, Option.map_some], ?_⟩
  rw [shadeLaws_rat.shade_of_pos sound stored (Nat.cast_zero (R := ℚ) ▸ pos), Nat.cast_ofNat, toNat_toShade,
    min_eq_left most, share, Int.natCast_floor_eq_floor (by positivity)]

theorem larger_mul {factor : ℚ} (pos : 0 < factor) (first cell : ℚ) :
    larger (factor * first) (factor * cell) = factor * larger first cell := by
  simp only [larger, mul_lt_mul_iff_right₀ pos]
  split <;> rfl

theorem foldl_larger_mul {factor : ℚ} (pos : 0 < factor) (cells : List ℚ) (first : ℚ) :
    (cells.map (factor * ·)).foldl larger (factor * first) = factor * cells.foldl larger first := by
  induction cells generalizing first with
  | nil => rfl
  | cons cell cells ih => rw [List.map_cons, List.foldl_cons, List.foldl_cons, larger_mul pos, ih]

theorem peak_scaled (energy : Grid ℚ) {factor : ℚ} (pos : 0 < factor) :
    (energy.map (factor * ·)).peak = factor * energy.peak := by
  have scaled := foldl_larger_mul pos energy.cells.toList 0
  rw [mul_zero] at scaled
  rw [peak_eq_foldl, peak_eq_foldl, map, Array.toList_map, Nat.cast_zero, scaled]

theorem shade_scaled {factor : ℚ} (pos : 0 < factor) (peak energy : ℚ) :
    shade (factor * peak) (factor * energy) = shade peak energy := by
  have positive : ((0 : ℕ) : ℚ) < factor * peak ↔ ((0 : ℕ) : ℚ) < peak := by
    rw [Nat.cast_zero]
    exact mul_pos_iff_of_pos_left pos
  rw [shade, shade, if_congr positive rfl rfl, mul_div_mul_left _ _ pos.ne']

/-- Energies and a positive multiple of them have the same picture. -/
theorem shades_scaled (energy : Grid ℚ) {factor : ℚ} (pos : 0 < factor) :
    (energy.map (factor * ·)).shades = energy.shades := by
  unfold shades
  rw [peak_scaled energy pos]
  simp only [map, Array.map_map, Function.comp_def, shade_scaled pos]

/-- The picture of an energy map has its size and shades from `0` to `255`, is nowhere brighter for less energy, black
    where the energy is not positive and at full brightness for the highest one if that is positive. This is so for all
    finite floats, rounded as they are, and for rational numbers. The latter are shown in proportion, rounded a half up,
    so a positive multiple of all energies has the same picture. -/
theorem shades_follow_energies :
    (∀ energy : Grid Float, energy.WellFormed →
      (∀ x y cell, energy.cell? x y = some cell → cell.isFinite = true) → energy.PicturedBy energy.shades) ∧
    ∀ energy : Grid ℚ, energy.WellFormed →
      energy.PicturedBy energy.shades ∧
      (∀ x y cell, energy.cell? x y = some cell → 0 < cell →
        ∃ highest shade, IsGreatest energy.energySet highest ∧ energy.shades.cell? x y = some shade ∧
          (shade.toNat : ℤ) = ⌊255 * cell / highest + 1 / 2⌋) ∧
      ∀ factor, 0 < factor → (energy.map (factor * ·)).shades = energy.shades := by
  refine ⟨fun energy filled finite => shadeLaws_float.picturedBy_shades filled finite, ?_⟩
  intro energy filled
  refine ⟨shadeLaws_rat.picturedBy_shades filled fun _ _ _ _ => trivial, ?_, fun factor pos => energy.shades_scaled pos⟩
  intro x y cell found pos
  exact exists_shade_in_proportion filled found pos

/-- A quarter of the highest energy is a half above the shade 63. -/
theorem shades_follow_energies_quarter :
    let floats : Grid Float := ⟨2, 2, #[-50, 50, 100, 200]⟩
    let ratios : Grid ℚ := ⟨2, 2, #[-50, 50, 100, 200]⟩
    floats.PicturedBy floats.shades ∧ floats.shades.cells = #[0, 64, 128, 255] ∧ ratios.PicturedBy ratios.shades ∧
      (∃ shade, ratios.shades.cell? 1 0 = some shade ∧ (shade.toNat : ℤ) = ⌊(255 * 50 / 200 + 1 / 2 : ℚ)⌋) ∧
      (ratios.map (3 * ·)).shades = ratios.shades := by
  intro floats ratios
  have finite : ∀ cell ∈ floats.cells, cell.isFinite = true := by decide +kernel
  have bounded : ∀ cell ∈ ratios.cells, cell ≤ 200 := by decide +kernel
  have top : IsGreatest ratios.energySet 200 :=
    ⟨⟨1, 1, rfl⟩, fun cell ⟨_, _, found⟩ => bounded cell (mem_of_cell? found)⟩
  obtain ⟨follow, follow_ratios⟩ := shades_follow_energies
  obtain ⟨pictured, shares, scaled⟩ := follow_ratios ratios (by decide)
  obtain ⟨highest, shade, greatest, shown, share⟩ := shares 1 0 50 rfl (by norm_num)
  obtain rfl := greatest.unique top
  exact ⟨follow floats (by decide) fun x y cell found => finite cell (mem_of_cell? found), by decide +kernel, pictured,
    ⟨shade, shown, share⟩, scaled 3 (by norm_num)⟩

end Grid

end SeamCarving

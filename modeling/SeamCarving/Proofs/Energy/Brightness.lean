import SeamCarving.Energy.Shade
import SeamCarving.Proofs.Carving.EightBits

/-!
# The brightness of the border

The border energy is the most that one axis contributes with channels of eight bits, and an inner pixel has two axes.
So its energy may exceed that of the border, up to twice as much, and then the picture of the energies shows the border
darker than at full brightness. Main statements: the exact condition under which no energy exceeds that of the border,
and that the border has the full shade then (`View.border_eightBits`).
-/

namespace SeamCarving

/-! ## The peak -/

section

variable {ε : Type} [LT ε] [DecidableLT ε]

/-- The larger of the largest so far and a cell, the former if none exceeds the other. -/
def larger (largest cell : ε) : ε :=
  if largest < cell then cell else largest

/-- A search for the largest stays where it is if nothing exceeds that. -/
theorem foldl_larger_eq_self {cells : List ε} {largest : ε} (bounded : ∀ cell ∈ cells, ¬ largest < cell) :
    cells.foldl larger largest = largest := by
  induction cells with
  | nil => rfl
  | cons cell cells ih =>
      rw [List.foldl_cons, larger, if_neg (bounded cell List.mem_cons_self)]
      exact ih fun other member => bounded other (List.mem_cons_of_mem cell member)

theorem foldl_larger_le_iff {cells : List ℤ} {largest bound : ℤ} :
    cells.foldl larger largest ≤ bound ↔ largest ≤ bound ∧ ∀ cell ∈ cells, cell ≤ bound := by
  induction cells generalizing largest with
  | nil => simp
  | cons cell cells ih =>
      have step : larger largest cell ≤ bound ↔ largest ≤ bound ∧ cell ≤ bound := by
        unfold larger
        split <;> omega
      rw [List.foldl_cons, ih, step, List.forall_mem_cons, and_assoc]

/-- Floats that stand for integers have a largest that stands for the largest of these. -/
theorem isWhole_foldl_larger {ι : Type} {float : ι → Float} {number : ι → ℤ} {indices : List ι} {first : Float}
    {least : ℤ} (stands : ∀ index ∈ indices, IsWhole (float index) (number index)) (start : IsWhole first least) :
    IsWhole ((indices.map float).foldl larger first) ((indices.map number).foldl larger least) := by
  induction indices generalizing first least with
  | nil => exact start
  | cons index indices ih =>
      have own := stands index List.mem_cons_self
      refine ih (fun other member => stands other (List.mem_cons_of_mem index member)) ?_
      unfold larger
      by_cases less : least < number index
      · rwa [if_pos less, if_pos ((start.lt_iff own).2 less)]
      · rwa [if_neg less, if_neg (mt (start.lt_iff own).1 less)]

end

namespace View

variable {π ε : Type} [Coloured π ε] [Add ε] [Sub ε] [Mul ε] [NatCast ε]

/-- The energies of a view in the order of its storage, row by row. -/
def energies (view : View π) : List ε :=
  (List.range (view.width * view.height)).map fun position =>
    view.terrain.energy (position % view.width) (position / view.width)

variable {view : View π}

theorem cell?_energy_eq_some_iff {x y : Nat} {energy : ε} :
    view.energy.cell? x y = some energy ↔ (x < view.width ∧ y < view.height) ∧ view.terrain.energy x y = energy := by
  rw [energy_eq_ofFn, Grid.cell?_ofFn, Option.ite_none_right_eq_some, Option.some.injEq]

theorem cells_energy : (view.energy : Grid ε).cells.toList = view.energies := by
  rw [energy_eq_ofFn, Grid.ofFn, Array.toList_ofFn, List.ofFn_eq_map, energies, ← List.map_coe_finRange_eq_range,
    List.map_map]
  rfl

theorem mem_energies_iff {energy : ε} : energy ∈ view.energies ↔ ∃ x y, view.energy.cell? x y = some energy := by
  simp only [cell?_energy_eq_some_iff]
  constructor
  · intro member
    obtain ⟨position, inside, found⟩ := List.mem_map.1 member
    have bound := List.mem_range.1 inside
    have wide : 0 < view.width := Nat.pos_of_mul_pos_right (Nat.zero_lt_of_lt bound)
    exact ⟨_, _, ⟨Nat.mod_lt position wide, Nat.div_lt_of_lt_mul bound⟩, found⟩
  · rintro ⟨x, y, ⟨hx, hy⟩, found⟩
    refine List.mem_map.2 ⟨y * view.width + x, List.mem_range.2 (Grid.index_lt hx hy), ?_⟩
    rwa [Grid.index_mod y hx, Grid.index_div y hx]

/-- The first energy is one of the border. -/
theorem exists_energies_cons (wide : 0 < view.width) (tall : 0 < view.height) :
    ∃ others, view.energies = (borderEnergy : ε) :: others := by
  obtain ⟨rest, count⟩ := Nat.exists_eq_add_one.2 (Nat.mul_pos wide tall)
  rw [energies, count, List.range_succ_eq_map, List.map_cons, Nat.zero_mod, Nat.zero_div,
    view.energy_of_border (by omega)]
  exact ⟨_, rfl⟩

variable [LT ε] [DecidableLT ε]

/-- No energy of the view exceeds that of its border. -/
def BorderHighest (view : View π) : Prop :=
  ∀ x y energy, view.energy.cell? x y = some energy → ¬ borderEnergy < energy

theorem peak_energy : view.energy.peak = view.energies.foldl larger ((0 : Nat) : ε) := by
  rw [← cells_energy, Array.foldl_toList]
  rfl

theorem BorderHighest.peak_eq (highest : view.BorderHighest) (positive : ((0 : Nat) : ε) < borderEnergy)
    (wide : 0 < view.width) (tall : 0 < view.height) : (view.energy.peak : ε) = borderEnergy := by
  obtain ⟨others, listed⟩ := exists_energies_cons wide tall
  rw [peak_energy, listed, List.foldl_cons, larger, if_pos positive]
  refine foldl_larger_eq_self fun energy member => ?_
  obtain ⟨x, y, found⟩ := mem_energies_iff.1 (listed ▸ List.mem_cons_of_mem _ member)
  exact highest x y energy found

end View

/-! ## The shade of the border -/

/-- The energy of the border is shown at full brightness where it is the peak. -/
theorem shade_borderEnergy : Grid.shade (borderEnergy : Float) borderEnergy = 255 := by
  decide +kernel

theorem View.BorderHighest.pixel?_energyImage {π : Type} [Coloured π Float] {view : View π}
    (highest : view.BorderHighest) {x y : Nat} (hx : x < view.width) (hy : y < view.height)
    (border : ¬ view.Inner (x, y)) : view.energyImage.pixel? x y = some (.ofShade 255) := by
  have peak : (view.energy.peak : Float) = borderEnergy :=
    highest.peak_eq (by decide +kernel) (Nat.zero_lt_of_lt hx) (Nat.zero_lt_of_lt hy)
  have cell : (view.energy : Grid Float).cell? x y = some borderEnergy :=
    cell?_energy_eq_some_iff.2 ⟨⟨hx, hy⟩, view.energy_of_border border⟩
  change (((view.energy : Grid Float).map (Grid.shade view.energy.peak)).map Pixel.ofShade).cell? x y = _
  rw [Grid.cell?_map, Grid.cell?_map, cell, peak, Option.map_some, Option.map_some, shade_borderEnergy]

/-! ## Channels of eight bits -/

namespace View

variable {layout : Layout} {view : View (Pixel layout UInt8)}

theorem isWhole_peak : IsWhole view.energy.peak (view.map Pixel.toWhole).energy.peak := by
  rw [peak_energy, peak_energy]
  exact isWhole_foldl_larger (fun position _ => (view.energy_eightBits _ _).1) isWhole_zero

theorem borderHighest_iff_whole :
    view.BorderHighest ↔ ∀ energy ∈ (view.map Pixel.toWhole).energies, energy ≤ (195075 : ℤ) := by
  have exceeds (x y : Nat) : ¬ borderEnergy < (view.terrain : Terrain Float).energy x y ↔
      (view.map Pixel.toWhole).terrain.energy x y ≤ (195075 : ℤ) := by
    rw [isWhole_borderEnergy.lt_iff (view.energy_eightBits x y).1, Int.not_lt]
  simp only [mem_energies_iff, BorderHighest, cell?_energy_eq_some_iff]
  constructor
  · rintro highest energy ⟨x, y, inside, rfl⟩
    exact (exceeds x y).1 (highest x y _ ⟨inside, rfl⟩)
  · rintro bounded x y energy ⟨inside, rfl⟩
    exact (exceeds x y).2 (bounded _ ⟨x, y, inside, rfl⟩)

theorem borderHighest_iff_around :
    view.BorderHighest ↔
      ∀ place around, view.around? place = some around → (around.map Pixel.toWhole).energy ≤ (195075 : ℤ) := by
  have whole (x y : Nat) : ((view.map Pixel.toWhole).terrain : Terrain Int).energy x y =
      ((view.around? (x, y)).map (Around.map Pixel.toWhole)).elim borderEnergy Around.energy := by
    rw [← around?_map]
    exact (view.map Pixel.toWhole).terrain_energy_eq (x, y)
  simp only [borderHighest_iff_whole, mem_energies_iff, cell?_energy_eq_some_iff, whole]
  constructor
  · rintro bounded ⟨x, y⟩ around found
    have inner : view.Inner (x, y) := (around?_eq_some_iff.1 found).1
    refine bounded _ ⟨x, y, ⟨Nat.lt_of_succ_lt inner.1.2, Nat.lt_of_succ_lt inner.2.2⟩, ?_⟩
    rw [found]
    rfl
  · rintro bounded energy ⟨x, y, -, rfl⟩
    cases found : view.around? (x, y) with
    | none => exact Int.le_refl _
    | some around => exact bounded (x, y) around found

theorem borderHighest_iff_peak (wide : 0 < view.width) (tall : 0 < view.height) :
    view.BorderHighest ↔ view.energy.peak = borderEnergy := by
  constructor
  · intro highest
    exact highest.peak_eq (by decide +kernel) wide tall
  · intro peak
    have stands : IsWhole view.energy.peak _ := view.isWhole_peak
    have value := stands.floatValue_eq
    rw [peak, isWhole_borderEnergy.floatValue_eq] at value
    have largest : (view.map Pixel.toWhole).energy.peak = (195075 : ℤ) := (Int.cast_injective value).symm
    rw [peak_energy] at largest
    exact borderHighest_iff_whole.2 (foldl_larger_le_iff.1 (Int.le_of_eq largest)).2

/-- With channels of eight bits no energy exceeds that of two axes. The border has the highest energy exactly if the
    pixels around each inner place differ by no more, in the squares of all channels and both axes together, and has
    the full shade then. -/
theorem border_eightBits (view : View (Pixel layout UInt8)) :
    (∀ x y energy, view.energy.cell? x y = some energy → ¬ borderEnergy + borderEnergy < energy) ∧
    (view.BorderHighest ↔
      ∀ place around, view.around? place = some around → (around.map Pixel.toWhole).energy ≤ (195075 : ℤ)) ∧
    (0 < view.width → 0 < view.height → (view.BorderHighest ↔ view.energy.peak = borderEnergy)) ∧
    (view.BorderHighest → ∀ x y, x < view.width → y < view.height → ¬ view.Inner (x, y) →
      view.energyImage.pixel? x y = some (.ofShade 255)) := by
  refine ⟨?_, borderHighest_iff_around, borderHighest_iff_peak, ?_⟩
  · intro x y energy found
    obtain ⟨-, rfl⟩ := cell?_energy_eq_some_iff.1 found
    obtain ⟨stands, -, bound⟩ := view.energy_eightBits x y
    have double := isWhole_borderEnergy.add isWhole_borderEnergy (by decide)
    rw [double.lt_iff stands]
    omega
  · intro highest x y hx hy border
    exact highest.pixel?_energyImage hx hy border

/-- Black beside and above a pixel, white on the other sides: the pixel has twice the energy of the border, whose
    brightness is half that of the pixel. -/
theorem border_steep :
    let view := Image.steep.view
    view.energy.cell? 1 1 = some (borderEnergy + borderEnergy) ∧ ¬ view.BorderHighest ∧
      view.energyImage.pixel? 0 0 = some (.ofShade 128) := by
  intro view
  have middle : view.energy.cell? 1 1 = some (borderEnergy + borderEnergy) := by decide +kernel
  refine ⟨middle, ?_, by decide +kernel⟩
  intro highest
  exact highest 1 1 _ middle (by decide +kernel)

end View

end SeamCarving

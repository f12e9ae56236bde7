import SeamCarving.Proofs.Carving.Finding
import SeamCarving.Proofs.Carving.Recoloured
import SeamCarving.Proofs.Energy.Around
import SeamCarving.Proofs.Seam.WholeCosts

/-!
# Pictures with channels of eight bits

Where all channels have eight bits, energies are computed of small integers, and so are the costs of any picture whose
sizes are machine words: everything that the search for a seam computes in floats is an integer that the float stands
for. Main statement: energies and costs are the integers that exact arithmetic has for them, all far below `2 ^ 53`,
and the search makes the choices that it makes with these (`View.eightBits_exact`).
-/

namespace SeamCarving

variable {layout : Layout}

/-- The pixel with its channels as integers. -/
def Pixel.toWhole (pixel : Pixel layout UInt8) : Pixel layout Int :=
  ⟨pixel.channels.map fun byte => byte.toNat⟩

/-- The colour of a byte for each part, as floats and as integers. -/
theorem Pixel.colour_toFloat (pixel : Pixel layout UInt8) :
    (Coloured.colour pixel : Rgb Float) = pixel.colour.map UInt8.toFloat :=
  rfl

theorem Pixel.colour_toWhole (pixel : Pixel layout UInt8) :
    (Coloured.colour pixel.toWhole : Rgb Int) = pixel.colour.map fun byte => (byte.toNat : Int) := by
  change pixel.toWhole.colour.map id = _
  simp [colour, toWhole, Rgb.map]

/-! ## Squares and their sums -/

theorem small_of_le {number limit : ℤ} (low : 0 ≤ number) (high : number ≤ limit) (few : limit < 2 ^ 53) :
    number.natAbs < 2 ^ 53 := by
  omega

theorem abs_byte_sub_le (before after : UInt8) : |(after.toNat : ℤ) - before.toNat| ≤ 255 := by
  have := before.toNat_lt
  have := after.toNat_lt
  rw [abs_le]
  omega

theorem isWhole_byte_sub (before after : UInt8) :
    IsWhole (after.toFloat - before.toFloat) (after.toNat - before.toNat) := by
  have bound := abs_le.1 (abs_byte_sub_le before after)
  exact (isWhole_toFloat after).sub (isWhole_toFloat before) (by omega)

theorem squaredDifference_byte_le (before after : UInt8) :
    squaredDifference (before.toNat : ℤ) after.toNat ≤ 65025 := by
  have bound := abs_byte_sub_le before after
  calc squaredDifference (before.toNat : ℤ) after.toNat
    _ = |(after.toNat : ℤ) - before.toNat| * |(after.toNat : ℤ) - before.toNat| := (abs_mul_abs_self _).symm
    _ ≤ 255 * 255 := mul_le_mul bound bound (abs_nonneg _) (by decide)

theorem isWhole_squaredDifference (before after : UInt8) :
    IsWhole (squaredDifference before.toFloat after.toFloat) (squaredDifference (before.toNat : ℤ) after.toNat) := by
  have low := squaredDifference_nonneg (before.toNat : ℤ) after.toNat
  have high := squaredDifference_byte_le before after
  exact (isWhole_byte_sub before after).mul_self (small_of_le low high (by decide))

section

variable (before after : Rgb UInt8)

theorem Rgb.squaredDistance_bytes_le :
    (before.map fun byte => (byte.toNat : ℤ)).squaredDistance (after.map fun byte => (byte.toNat : ℤ)) ≤ 195075 := by
  have red := squaredDifference_byte_le before.red after.red
  have green := squaredDifference_byte_le before.green after.green
  have blue := squaredDifference_byte_le before.blue after.blue
  dsimp only [squaredDistance, map]
  omega

theorem Rgb.isWhole_squaredDistance :
    IsWhole ((before.map UInt8.toFloat).squaredDistance (after.map UInt8.toFloat))
      ((before.map fun byte => (byte.toNat : ℤ)).squaredDistance (after.map fun byte => (byte.toNat : ℤ))) := by
  have red := squaredDifference_byte_le before.red after.red
  have green := squaredDifference_byte_le before.green after.green
  have red' := squaredDifference_nonneg (before.red.toNat : ℤ) after.red.toNat
  have green' := squaredDifference_nonneg (before.green.toNat : ℤ) after.green.toNat
  have pair := (isWhole_squaredDifference before.red after.red).add
    (isWhole_squaredDifference before.green after.green) (by omega)
  have low := Rgb.squaredDistance_nonneg (before.map fun byte => (byte.toNat : ℤ))
    (after.map fun byte => (byte.toNat : ℤ))
  have high := squaredDistance_bytes_le before after
  exact pair.add (isWhole_squaredDifference before.blue after.blue) (small_of_le low high (by decide))

end

/-! ## Energies -/

/-- What is around a place, with `f` applied to all of it. -/
def Around.map {α β : Type} (f : α → β) (around : Around α) : Around β :=
  ⟨f around.left, f around.right, f around.above, f around.below⟩

theorem View.around?_map {π ρ : Type} (f : π → ρ) (view : View π) (place : Nat × Nat) :
    (view.map f).around? place = (view.around? place).map (Around.map f) := by
  cases found : view.around? place with
  | none =>
      have border := around?_eq_none_iff.1 found
      exact around?_eq_none_iff.2 (show ¬ (view.map f).Inner place from border)
  | some around =>
      obtain ⟨inner, left, right, above, below⟩ := around?_eq_some_iff.1 found
      rw [Option.map_some, around?_eq_some_iff, pixel?_map, pixel?_map, pixel?_map, pixel?_map, left, right, above,
        below]
      exact ⟨inner, rfl, rfl, rfl, rfl⟩

namespace Around

variable (around : Around (Pixel layout UInt8))

theorem energy_nonneg : (0 : ℤ) ≤ (around.map Pixel.toWhole).energy :=
  Int.add_nonneg (Rgb.squaredDistance_nonneg _ _) (Rgb.squaredDistance_nonneg _ _)

theorem energy_le : ((around.map Pixel.toWhole).energy : ℤ) ≤ 390150 := by
  have across := Rgb.squaredDistance_bytes_le around.left.colour around.right.colour
  have down := Rgb.squaredDistance_bytes_le around.above.colour around.below.colour
  simp only [energy, map, Pixel.colour_toWhole]
  omega

theorem isWhole_energy : IsWhole around.energy (around.map Pixel.toWhole).energy := by
  have fits := small_of_le around.energy_nonneg around.energy_le (by decide)
  simp only [energy, map, Pixel.colour_toWhole, Pixel.colour_toFloat] at fits ⊢
  exact (Rgb.isWhole_squaredDistance _ _).add (Rgb.isWhole_squaredDistance _ _) fits

end Around

namespace View

variable (view : View (Pixel layout UInt8))

/-- The energy of a place is an integer that the float stands for. -/
theorem energy_eightBits (x y : Nat) :
    IsWhole (view.terrain.energy x y) ((view.map Pixel.toWhole).terrain.energy x y) ∧
      (0 : ℤ) ≤ (view.map Pixel.toWhole).terrain.energy x y ∧
      ((view.map Pixel.toWhole).terrain.energy x y : ℤ) ≤ 390150 := by
  have float : (view.terrain : Terrain Float).energy x y = _ := view.terrain_energy_eq (x, y)
  have whole : ((view.map Pixel.toWhole).terrain : Terrain Int).energy x y = _ :=
    (view.map Pixel.toWhole).terrain_energy_eq (x, y)
  rw [float, whole, around?_map]
  cases view.around? (x, y) with
  | none => exact ⟨isWhole_borderEnergy, Int.le_of_lt borderEnergy_pos, (by decide : (borderEnergy : ℤ) ≤ 390150)⟩
  | some around => exact ⟨around.isWhole_energy, around.energy_nonneg, around.energy_le⟩

/-- A path has one border cell, the first, and no cell costs more than twice a border cell. -/
theorem cost_eightBits_le (rule : LeftEdgeRule) (x y : Nat) :
    ((view.map Pixel.toWhole).terrain.cost rule y x : ℤ) ≤ 195075 + 390150 * y := by
  induction y generalizing x with
  | zero =>
      have border : ((view.map Pixel.toWhole).terrain : Terrain Int).energy x 0 = borderEnergy :=
        (view.map Pixel.toWhole).energy_of_border (by omega)
      rw [Terrain.cost_zero, border]
      decide
  | succ y ih =>
      have own := (view.energy_eightBits x (y + 1)).2.2
      have inherited := ih ((view.map Pixel.toWhole).terrain.parent rule y x)
      rw [Terrain.cost_succ]
      push_cast
      omega

section

variable {view}

/-- Costs of a picture whose height is a machine word are far below what a float stands for. -/
theorem whole_eightBits (high : view.height < UInt32.size) (rule : LeftEdgeRule) :
    view.terrain.Whole (view.map Pixel.toWhole).terrain rule := by
  refine ⟨rfl, rfl, fun x y _ _ => (view.energy_eightBits x y).1, ?_⟩
  intro x y hx (hy : y + 2 ≤ view.height)
  have low : borderEnergy ≤ (view.map Pixel.toWhole).terrain.cost rule y x :=
    (view.map Pixel.toWhole).borderEnergy_le_cost rule y x
  have positive := borderEnergy_pos
  have bound := view.cost_eightBits_le rule x y
  have words : UInt32.size = 4294967296 := rfl
  omega

/-- The search in floats and that in integers end alike, on pictures of any size. -/
theorem seam_eightBits (high : view.height < UInt32.size) (rule : LeftEdgeRule) :
    (view.energy : Grid Float).seam rule = ((view.map Pixel.toWhole).energy : Grid Int).seam rule := by
  rw [Grid.seam_eq view.reads_energy, Grid.seam_eq (view.map Pixel.toWhole).reads_energy]
  by_cases large : 3 ≤ view.width ∧ 3 ≤ view.height
  · have float : ¬ ((view.terrain : Terrain Float).width < 3 ∨ (view.terrain : Terrain Float).height < 3) := by
      change ¬ (view.width < 3 ∨ view.height < 3)
      omega
    have wide : 2 ≤ ((view.map Pixel.toWhole).terrain : Terrain Int).width := Nat.le_of_succ_le large.1
    have tall : 2 ≤ ((view.map Pixel.toWhole).terrain : Terrain Int).height := Nat.le_of_succ_le large.2
    rw [if_neg float, (whole_eightBits high rule).seam_eq wide tall]
    exact (if_neg float).symm
  · have float : (view.terrain : Terrain Float).width < 3 ∨ (view.terrain : Terrain Float).height < 3 := by
      change view.width < 3 ∨ view.height < 3
      omega
    rw [if_pos float]
    exact (if_pos float).symm

/-- Relaxed by floats and by integers, a table has the same parents, and its costs are integers that the floats stand
    for. -/
theorem exists_relaxRows_eightBits (high : view.height < UInt32.size) (rule : LeftEdgeRule) (wide : 2 ≤ view.width) :
    ∃ table whole,
      Tableau.relaxRows rule (.start (view.energy : Grid Float)) = some table ∧
      Tableau.relaxRows rule (.start ((view.map Pixel.toWhole).energy : Grid Int)) = some whole ∧
      (∀ x y, x < view.width → y + 2 ≤ view.height → ∃ cost number,
        table.cost.cell? x y = some cost ∧ whole.cost.cell? x y = some number ∧ IsWhole cost number ∧
          195075 ≤ number ∧ number ≤ 195075 + 390150 * y) ∧
      ∀ x y, x < view.width → y < view.height → ∃ column,
        table.parent.cell? x y = some column ∧ whole.parent.cell? x y = some column := by
  have stands := whole_eightBits high rule
  obtain ⟨table, relaxed, done⟩ :=
    Tableau.exists_relaxRows rule view.reads_energy (show 2 ≤ (view.terrain : Terrain Float).width from wide)
  obtain ⟨whole, relaxed', done'⟩ :=
    Tableau.exists_relaxRows rule (view.map Pixel.toWhole).reads_energy
      (show 2 ≤ ((view.map Pixel.toWhole).terrain : Terrain Int).width from wide)
  refine ⟨table, whole, relaxed, relaxed', ?_, ?_⟩
  · intro x y hx hy
    have low : borderEnergy ≤ (view.map Pixel.toWhole).terrain.cost rule y x :=
      (view.map Pixel.toWhole).borderEnergy_le_cost rule y x
    exact ⟨_, _, done.cell?_cost hx hy, done'.cell?_cost hx hy, stands.cost wide hx hy, low,
      view.cost_eightBits_le rule x y⟩
  · intro x y hx hy
    refine ⟨_, done.parent.cell?_eq x y hx hy, (done'.parent.cell?_eq x y hx hy).trans ?_⟩
    have height_eq : ((view.map Pixel.toWhole).terrain : Terrain Int).height = view.height := rfl
    have height_eq' : (view.terrain : Terrain Float).height = view.height := rfl
    rw [height_eq, height_eq']
    by_cases relaxed : 0 < y ∧ Tableau.IsRelaxed (view.height - 2) 0 x y
    · rw [if_pos relaxed, if_pos relaxed, stands.parent_eq wide hx (by rw [height_eq]; omega)]
    · rw [if_neg relaxed, if_neg relaxed]

end

/-- With channels of eight bits every difference of channels, every square and sum of squares, every energy and every
    cost is an integer that its float stands for, of at most 390150 for an energy and 390150 more for each row of a
    cost. So the search by floats makes every choice that the search by integers makes, for pictures whose sizes are
    machine words: the recorded parents and the seams are the same, no sum is rounded and no comparison is one of
    rounded numbers. -/
theorem eightBits_exact (view : View (Pixel layout UInt8)) (wide : view.width < UInt32.size)
    (high : view.height < UInt32.size) :
    let whole : View (Pixel layout Int) := view.map Pixel.toWhole
    (∀ float number, IsWhole float number → floatValue float = number ∧ number.natAbs < 2 ^ 53) ∧
    (∀ before after : UInt8,
      IsWhole (after.toFloat - before.toFloat) (after.toNat - before.toNat) ∧
      |(after.toNat : ℤ) - before.toNat| ≤ 255 ∧
      IsWhole (squaredDifference before.toFloat after.toFloat)
        (squaredDifference (before.toNat : ℤ) after.toNat)) ∧
    (∀ before after : Pixel layout UInt8,
      IsWhole (Rgb.squaredDistance (Coloured.colour before) (Coloured.colour after))
        (Rgb.squaredDistance (Coloured.colour before.toWhole) (Coloured.colour after.toWhole))) ∧
    (∀ x y, x < view.width → y < view.height → ∃ energy number,
      view.energy.cell? x y = some energy ∧ whole.energy.cell? x y = some number ∧ IsWhole energy number ∧
        0 ≤ number ∧ number ≤ 390150) ∧
    ∀ rule,
      (3 ≤ view.width → 3 ≤ view.height → view.terrain.Exact rule floatValue ∧
        ∃ table table', Tableau.relaxRows rule (.start view.energy) = some table ∧
          Tableau.relaxRows rule (.start whole.energy) = some table' ∧
          (∀ x y, x < view.width → y + 2 ≤ view.height → ∃ cost number,
            table.cost.cell? x y = some cost ∧ table'.cost.cell? x y = some number ∧ IsWhole cost number ∧
              195075 ≤ number ∧ number ≤ 195075 + 390150 * y) ∧
          ∀ x y, x < view.width → y < view.height → ∃ column,
            table.parent.cell? x y = some column ∧ table'.parent.cell? x y = some column) ∧
      view.energy.seam rule = whole.energy.seam rule ∧
      ∀ axis, view.findSeam rule axis = whole.findSeam rule axis := by
  intro whole
  refine ⟨?_, ?_, ?_, ?_, ?_⟩
  · intro float number stands
    exact ⟨stands.floatValue_eq, stands.small⟩
  · intro before after
    exact ⟨isWhole_byte_sub before after, abs_byte_sub_le before after, isWhole_squaredDifference before after⟩
  · intro before after
    rw [Pixel.colour_toWhole, Pixel.colour_toWhole]
    exact Rgb.isWhole_squaredDistance before.colour after.colour
  · intro x y hx hy
    exact ⟨_, _, view.reads_energy.cell?_eq x y hx hy, whole.reads_energy.cell?_eq x y hx hy,
      view.energy_eightBits x y⟩
  · intro rule
    refine ⟨?_, seam_eightBits high rule, ?_⟩
    · intro columns rows
      exact ⟨(whole_eightBits high rule).isExact (Nat.le_of_succ_le columns) (Nat.le_of_succ_le rows),
        exists_relaxRows_eightBits high rule (Nat.le_of_succ_le columns)⟩
    · intro axis
      -- seen along the other axis, the height is the width
      have tall : (view.along axis).height < UInt32.size := by
        cases axis with
        | vertical => exact high
        | horizontal =>
            rw [along_horizontal, height_transpose]
            exact wide
      have same := seam_eightBits tall rule
      rw [findSeam, findSeam, same, along_map]

end View

/-- Three columns and rows with black on the left and above of the middle and white on the right and below. -/
def Image.steep : Image (Pixel .rgb UInt8) :=
  .ofFn 3 3 fun x y _ _ => .ofColour (if x = 2 ∨ y = 2 then ⟨255, 255, 255⟩ else ⟨0, 0, 0⟩)

theorem View.eightBits_exact_steep :
    let view := Image.steep.view
    let whole := view.map Pixel.toWhole
    (view.width < UInt32.size ∧ view.height < UInt32.size) ∧
    (∃ energy, view.energy.cell? 1 1 = some energy ∧ IsWhole energy 390150 ∧ floatValue energy = 390150) ∧
    view.energy.seam .previous = .ok [0, 0, 0] ∧ whole.energy.seam .previous = .ok [0, 0, 0] := by
  intro view whole
  have sizes : view.width < UInt32.size ∧ view.height < UInt32.size := by decide
  obtain ⟨values, -, -, energies, choices⟩ := view.eightBits_exact sizes.1 sizes.2
  refine ⟨sizes, ?_, ?_⟩
  · obtain ⟨energy, number, cell, cell', stands, -⟩ := energies 1 1 (by decide) (by decide)
    have known : whole.energy.cell? 1 1 = some 390150 := by decide +kernel
    obtain rfl : number = 390150 := Option.some.inj (cell'.symm.trans known)
    exact ⟨energy, cell, stands, (values energy _ stands).1⟩
  · have known : whole.energy.seam .previous = .ok [0, 0, 0] := by decide +kernel
    exact ⟨(choices .previous).2.1.trans known, known⟩

end SeamCarving

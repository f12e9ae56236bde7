import Mathlib
import SeamCarving.Energy.Shade
import SeamCarving.Proofs.Energy.Magnitude

/-!
# The shades of floats

Rational numbers have shades too: they are rounded, and what lies outside the shades has the nearer end. Main
statements: a float that stands for a magnitude has the shade of that number (`IsMagnitude.nearestShade_eq`), a float
that is not positive has the shade zero (`nearestShade_of_atMostZero`), and the brightness that a float is given for its
energy is the exact one, rounded after the division and after the multiplication (`IsMagnitude.brightness`).
-/

namespace SeamCarving

open Float.Model UnpackedFloat

/-! ## Rational numbers -/

/-- The nearest integer, a half away from zero. -/
def roundAway (number : ℚ) : ℤ :=
  if 0 ≤ number then ⌊number + 1 / 2⌋ else ⌈number - 1 / 2⌉

instance : ToShade ℚ := ⟨fun brightness => .ofNat (min (max (roundAway brightness) 0) 255).toNat⟩

theorem toNat_toShade (brightness : ℚ) : (ToShade.toShade brightness).toNat = min ⌊brightness + 1 / 2⌋₊ 255 := by
  have away : (max (roundAway brightness) 0).toNat = ⌊brightness + 1 / 2⌋₊ := by
    unfold roundAway
    split
    · next nonneg =>
        rw [max_eq_left (Int.floor_nonneg.2 (by linarith)), Int.floor_toNat]
    · next negative =>
        have up : ⌈brightness - 1 / 2⌉ ≤ 0 := Int.ceil_le.2 (by push_cast; linarith)
        have down : ⌊brightness + 1 / 2⌋₊ = 0 := Nat.floor_eq_zero.2 (by linarith)
        rw [max_eq_right up, down]
        rfl
  change (UInt8.ofNat _).toNat = _
  rw [UInt8.toNat_ofNat', ← away]
  omega

theorem toShade_mono {brightness other : ℚ} (le : brightness ≤ other) :
    ToShade.toShade brightness ≤ ToShade.toShade other := by
  rw [UInt8.le_iff_toNat_le, toNat_toShade, toNat_toShade]
  exact min_le_min_right _ (Nat.floor_mono (by linarith))

theorem toShade_of_nonpos {brightness : ℚ} (nonpos : brightness ≤ 0) : ToShade.toShade brightness = 0 := by
  have none : ⌊brightness + 1 / 2⌋₊ = 0 := Nat.floor_eq_zero.2 (by linarith)
  rw [← UInt8.toNat_inj, toNat_toShade, none]
  rfl

theorem toShade_full : ToShade.toShade (255 : ℚ) = 255 := by
  decide +kernel

/-! ## Magnitudes -/

theorem IsWhole.isFinite_eq {float : Float} {number : ℤ} (whole : IsWhole float number) : float.isFinite = true := by
  change float.toModel.unpack.isFinite = true
  unfold IsWhole at whole
  generalize float.toModel.unpack = unpacked at whole
  cases whole <;> rfl

theorem IsWhole.isMagnitude {float : Float} {number : ℕ} (whole : IsWhole float number) : IsMagnitude float number := by
  have value : floatValue float = number := whole.floatValue_eq
  rw [← value]
  exact isMagnitude_floatValue whole.isFinite_eq (value.ge.trans' (Nat.cast_nonneg number))

theorem isMagnitude_toFloat (byte : UInt8) : IsMagnitude byte.toFloat byte.toNat :=
  (isWhole_toFloat byte).isMagnitude

theorem isMagnitude_full : IsMagnitude ((255 : ℕ) : Float) 255 := by
  have stored : ((255 : ℕ) : Float) = .ofModel (.pack (.ofInt .binary64 (255 : ℕ))) := by decide +kernel
  have whole : IsWhole ((255 : ℕ) : Float) (255 : ℕ) := by
    rw [stored]
    exact (represents_ofInt (by decide)).isWhole
  exact_mod_cast whole.isMagnitude

theorem isMagnitude_half : IsMagnitude 0.5 (1 / 2) := by
  have stored : (0.5 : Float) = .ofModel (.pack (.finite .positive (2 ^ 52) (-53) (by decide))) := by decide +kernel
  have value : (1 / 2 : ℚ) = (2 ^ 52 : ℕ) * 2 ^ (-53 : ℤ) := by norm_num
  rw [stored, value]
  refine (Magnitude.finite _ ⟨by decide, by decide, Or.inl le_rfl⟩).isMagnitude ?_
  rw [← value]
  norm_num

/-- Bits that are shifted out are cut off. -/
theorem mantissa_shiftRight (mantissa shift : ℕ) :
    ((⟨mantissa, false, false⟩ : ExtendedMantissa) >>> shift).mantissa = ⌊(mantissa : ℚ) / 2 ^ shift⌋₊ :=
  (locates_shiftRight (show Locates mantissa mantissa .exact from rfl) shift).floor_eq.symm

theorem roundToInt_eq (mantissa : ℕ) (exponent : ℤ) :
    roundToInt .positive mantissa exponent = ⌊(mantissa : ℚ) * 2 ^ exponent⌋₊ := by
  unfold roundToInt decreaseExponent shiftToExponent
  obtain ⟨shift, rfl | rfl⟩ := exponent.eq_nat_or_neg
  · have amount : ((shift : ℤ) - 0).toNat = shift := by omega
    have rest : (0 - ((shift : ℤ) - shift)).toNat = 0 := by omega
    have whole : (mantissa : ℚ) * 2 ^ (shift : ℤ) = (mantissa * 2 ^ shift : ℕ) := by
      push_cast
      rw [zpow_natCast]
    simp only [amount, rest, Nat.shiftLeft_eq]
    rw [whole, Nat.floor_natCast]
    rfl
  · have amount : (-(shift : ℤ) - 0).toNat = 0 := by omega
    have rest : (0 - (-(shift : ℤ) - (0 : ℕ))).toNat = shift := by omega
    have part : (mantissa : ℚ) * 2 ^ (-(shift : ℤ)) = mantissa / 2 ^ shift := by
      rw [zpow_neg, zpow_natCast, div_eq_mul_inv]
    simp only [amount, rest, Nat.shiftLeft_zero]
    rw [part, ← mantissa_shiftRight]
    rfl

theorem toNat_ofNatClamp (number : ℕ) : (UInt8.ofNatClamp number).toNat = min number 255 := by
  unfold UInt8.ofNatClamp
  split
  · next small =>
      rw [UInt8.toNat_ofNatLT]
      change number < 256 at small
      omega
  · next large =>
      rw [UInt8.toNat_ofNatLT]
      change ¬ number < 256 at large
      change 255 = _
      omega

/-- As a byte a magnitude has its whole part, or the largest byte if that is smaller. -/
theorem IsMagnitude.toNat_toUInt8 {float : Float} {number : ℚ} (magnitude : IsMagnitude float number) :
    float.toUInt8.toNat = min ⌊number⌋₊ 255 := by
  change float.toModel.unpack.toUInt8.toNat = _
  unfold IsMagnitude at magnitude
  generalize float.toModel.unpack = unpacked at magnitude
  unfold UnpackedFloat.toUInt8
  rw [toNat_ofNatClamp]
  cases magnitude with
  | zero sign =>
      rw [Nat.floor_zero]
      rfl
  | finite pos canonical => rw [UnpackedFloat.toInt, roundToInt_eq, Int.toNat_natCast]

theorem IsMagnitude.add_half {float : Float} {number : ℕ} (magnitude : IsMagnitude float number)
    (small : 2 * number + 1 < 2 ^ 53) : IsMagnitude (float + 0.5) (number + 1 / 2) := by
  have sum := rounded_add_half small
  have above : (number : ℚ) < (2 ^ 52 : ℕ) := Nat.cast_lt.2 (by omega)
  have less : rounded (number + 1 / 2) < 2 ^ 53 := by
    rw [sum]
    push_cast at above
    linarith
  have added := magnitude.add isMagnitude_half less
  rwa [sum] at added

/-- The shade of a magnitude is that of the number. -/
theorem IsMagnitude.nearestShade_eq {brightness : Float} {number : ℚ} (magnitude : IsMagnitude brightness number) :
    nearestShade brightness = ToShade.toShade number := by
  have whole := magnitude.toNat_toUInt8
  have half := (isMagnitude_toFloat brightness.toUInt8).add_half (by have := brightness.toUInt8.toNat_lt; omega)
  have low := Nat.floor_le magnitude.nonneg
  have high := Nat.lt_floor_add_one number
  have positive : 0 ≤ number + 1 / 2 := by linarith [magnitude.nonneg]
  have passes : brightness.toUInt8 < 255 ∧ brightness.toUInt8.toFloat + 0.5 ≤ brightness ↔
      brightness.toUInt8.toNat < 255 ∧ (brightness.toUInt8.toNat : ℚ) + 1 / 2 ≤ number :=
    and_congr UInt8.lt_iff_toNat_lt (half.le_iff magnitude)
  unfold nearestShade
  dsimp only
  rw [if_congr passes rfl rfl, ← UInt8.toNat_inj, toNat_toShade]
  rcases Nat.lt_or_ge ⌊number⌋₊ 255 with small | large
  · rw [min_eq_left small.le] at whole
    rw [whole]
    by_cases passed : (⌊number⌋₊ : ℚ) + 1 / 2 ≤ number
    · have next : ⌊number + 1 / 2⌋₊ = ⌊number⌋₊ + 1 := by
        rw [Nat.floor_eq_iff positive]
        push_cast
        exact ⟨by linarith, by linarith⟩
      have sum : (brightness.toUInt8 + 1).toNat = ⌊number⌋₊ + 1 := by
        rw [UInt8.toNat_add, whole, UInt8.toNat_one]
        exact Nat.mod_eq_of_lt (by omega)
      rw [if_pos ⟨small, passed⟩, next, sum, min_eq_left small]
    · have same : ⌊number + 1 / 2⌋₊ = ⌊number⌋₊ := by
        rw [Nat.floor_eq_iff positive]
        exact ⟨by linarith, by linarith⟩
      rw [if_neg (fun both => passed both.2), same, whole, min_eq_left small.le]
  · have more : 255 ≤ ⌊number + 1 / 2⌋₊ := large.trans (Nat.floor_mono (by linarith))
    rw [min_eq_right large] at whole
    rw [whole, if_neg (fun both => lt_irrefl _ both.1), whole, min_eq_right more]

/-! ## Numbers that are not positive -/

/-- The unpacked float is a zero, or negative and possibly infinite. -/
inductive AtMostZero : UnpackedFloat → Prop
  | zero (sign : Sign) : AtMostZero (.zero sign)
  | finite {mantissa : ℕ} {exponent : ℤ} (pos : 0 < mantissa) :
      AtMostZero (.finite .negative mantissa exponent pos)
  | infinity : AtMostZero (.infinity .negative)

theorem atMostZero_roundWithAccuracy (mantissa : ℕ) (exponent : ℤ) (accuracy : Accuracy) :
    AtMostZero (roundWithAccuracy .binary64 .negative mantissa exponent accuracy) := by
  unfold roundWithAccuracy
  dsimp only
  split
  · exact .zero _
  · exact .finite _

/-- Only the greatest exponent is that of infinities and of what is not a number. -/
theorem atMostZero_unpack_packComponents {biased : BitVec 11} (small : biased ≠ -1#11) (stored : BitVec 52) :
    AtMostZero (UnpackedFloat.unpack .binary64 (packComponents .binary64 .negative biased stored)) := by
  simp only [UnpackedFloat.unpack, unpackExponent_packComponents, unpackMantissa_packComponents,
    unpackSign_packComponents, Sign.ofBitVec_toBitVec]
  rw [if_neg small]
  split
  · split
    · exact .zero _
    · exact .finite _
  · exact .finite _

namespace AtMostZero

variable {first second : UnpackedFloat} {number : ℚ}

theorem div (below : AtMostZero first) (magnitude : Magnitude second number) (pos : 0 < number) :
    AtMostZero (first.div .binary64 second) := by
  cases magnitude with
  | zero sign => exact absurd pos (lt_irrefl 0)
  | finite pos' canonical =>
      cases below with
      | zero sign => exact .zero _
      | finite pos => exact atMostZero_roundWithAccuracy _ _ _
      | infinity => exact .infinity

theorem mul (below : AtMostZero first) (magnitude : Magnitude second number) (pos : 0 < number) :
    AtMostZero (first.mul .binary64 second) := by
  cases magnitude with
  | zero sign => exact absurd pos (lt_irrefl 0)
  | finite pos' canonical =>
      cases below with
      | zero sign => exact .zero _
      | finite pos => exact atMostZero_roundWithAccuracy _ _ _
      | infinity => exact .infinity

/-- A negative number that is too large becomes infinite when it is stored, and stays negative. -/
theorem unpack_pack (below : AtMostZero first) :
    AtMostZero (UnpackedFloat.unpack .binary64 (UnpackedFloat.pack .binary64 first)) := by
  cases below with
  | zero sign => cases sign <;> exact .zero _
  | infinity => exact .infinity
  | @finite mantissa exponent pos =>
      unfold UnpackedFloat.pack
      dsimp only
      split
      · exact .infinity
      · next few =>
          split
          · refine atMostZero_unpack_packComponents ?_ _
            generalize (exponent + _ + _ : ℤ).toNat = biased at few
            intro top
            have equal := congrArg BitVec.toNat top
            rw [BitVec.toNat_ofNat] at equal
            change biased % 2048 = 2047 at equal
            change ¬ 2048 ≤ biased + 1 at few
            omega
          · exact atMostZero_unpack_packComponents (by decide) _

theorem toUInt8_eq (below : AtMostZero first) : first.toUInt8 = 0 := by
  unfold UnpackedFloat.toUInt8
  cases below with
  | zero sign => rfl
  | infinity => rfl
  | @finite mantissa exponent pos =>
      have nonpos : roundToInt .negative mantissa exponent ≤ 0 := Int.neg_nonpos_of_nonneg (Int.natCast_nonneg _)
      rw [UnpackedFloat.toInt, Int.toNat_eq_zero.2 nonpos]
      rfl

theorem le_eq_false (below : AtMostZero first) (magnitude : Magnitude second number) (pos : 0 < number) :
    second.le first = false := by
  cases magnitude with
  | zero sign => exact absurd pos (lt_irrefl 0)
  | finite pos' canonical => cases below <;> rfl

end AtMostZero

/-- A float that is not positive has the shade zero. -/
theorem nearestShade_of_atMostZero {brightness : Float} (below : AtMostZero brightness.toModel.unpack) :
    nearestShade brightness = 0 := by
  have whole : brightness.toUInt8 = 0 := below.toUInt8_eq
  have half := (isMagnitude_toFloat 0).add_half (by decide)
  have above : ¬ (0 : UInt8).toFloat + 0.5 ≤ brightness := by
    intro le
    have apart := below.le_eq_false half (by positivity)
    exact Bool.false_ne_true (apart.symm.trans (of_decide_eq_true le))
  unfold nearestShade
  dsimp only
  rw [whole, if_neg (fun both => above both.2)]

/-! ## Shades of energies -/

theorem zero_lt_iff {energy : Float} :
    ((0 : ℕ) : Float) < energy ↔ (UnpackedFloat.zero .positive).lt energy.toModel.unpack = true := by
  have zero : ((0 : ℕ) : Float).toModel.unpack = .zero .positive := Represents.eq_ofInt isWhole_zero
  rw [← zero]
  exact ⟨of_decide_eq_true, decide_eq_true⟩

theorem isNaN_of_isFinite {energy : Float} (finite : energy.isFinite = true) : energy.isNaN = false := by
  change energy.toModel.unpack.isFinite = true at finite
  change energy.toModel.unpack.isNaN = false
  generalize energy.toModel.unpack = unpacked at *
  cases unpacked with
  | notANumber => contradiction
  | _ => rfl

theorem isMagnitude_of_pos {energy : Float} (finite : energy.isFinite = true) (pos : ((0 : ℕ) : Float) < energy) :
    IsMagnitude energy (floatValue energy) ∧ 0 < floatValue energy := by
  have positive : 0 < floatValue energy := by
    rw [zero_lt_iff] at pos
    change energy.toModel.unpack.isFinite = true at finite
    unfold floatValue
    generalize energy.toModel.unpack = unpacked at *
    cases unpacked with
    | notANumber => contradiction
    | infinity sign => contradiction
    | zero sign => contradiction
    | finite sign mantissa exponent mantissa_pos =>
        cases sign with
        | negative => contradiction
        | positive => exact mul_pos (Nat.cast_pos.2 mantissa_pos) (two_zpow_pos _)
  exact ⟨isMagnitude_floatValue finite positive.le, positive⟩

theorem atMostZero_of_not_pos {energy : Float} (finite : energy.isFinite = true)
    (not_pos : ¬ ((0 : ℕ) : Float) < energy) : AtMostZero energy.toModel.unpack := by
  rw [zero_lt_iff] at not_pos
  change energy.toModel.unpack.isFinite = true at finite
  generalize energy.toModel.unpack = unpacked at *
  cases unpacked with
  | notANumber => contradiction
  | infinity sign => contradiction
  | zero sign => exact .zero sign
  | finite sign mantissa exponent pos =>
      cases sign with
      | negative => exact .finite pos
      | positive => exact absurd rfl not_pos

theorem rounded_one : rounded 1 = 1 := by
  exact_mod_cast rounded_natCast (show 1 < 2 ^ 53 by decide)

/-- The brightness that an energy has where another is shown at full brightness, rounded after each operation. -/
def roundedBrightness (peak energy : ℚ) : ℚ :=
  rounded (rounded (energy / peak) * 255)

theorem roundedBrightness_mono {peak energy other : ℚ} (pos : 0 < peak) (le : energy ≤ other) :
    roundedBrightness peak energy ≤ roundedBrightness peak other := by
  refine rounded_mono (mul_le_mul_of_nonneg_right (rounded_mono ?_) (by norm_num))
  exact div_le_div_of_nonneg_right le pos.le

theorem roundedBrightness_self {peak : ℚ} (pos : 0 < peak) : roundedBrightness peak peak = 255 := by
  rw [roundedBrightness, div_self pos.ne', rounded_one, one_mul]
  exact_mod_cast rounded_natCast (show 255 < 2 ^ 53 by decide)

/-- Nothing that is not above the peak becomes too large on the way to its brightness. -/
theorem IsMagnitude.brightness {peak energy : Float} {number other : ℚ} (peak_magnitude : IsMagnitude peak number)
    (magnitude : IsMagnitude energy other) (pos : 0 < number) (le : other ≤ number) :
    IsMagnitude (energy / peak * ((255 : ℕ) : Float)) (roundedBrightness number other) := by
  have ratio := (rounded_mono ((div_le_one pos).2 le)).trans_eq rounded_one
  have most := (roundedBrightness_mono pos le).trans_eq (roundedBrightness_self pos)
  have quotient := magnitude.div peak_magnitude pos (ratio.trans_lt (by norm_num))
  exact quotient.mul isMagnitude_full (by norm_num) (most.trans_lt (by norm_num))

end SeamCarving

import Mathlib
import SeamCarving.Energy.Basic
import SeamCarving.Proofs.Energy.FloatOrder

/-!
# Floats that stand for integers

A float of 64 bits has a mantissa of 53, so it stands for every integer of smaller magnitude without being rounded:
`IsWhole` says that a float stands for an integer in this way. Main statements: as long as the result is small enough
too, sums, differences and squares of such floats stand for those of the integers (`IsWhole.add`, `IsWhole.sub`,
`IsWhole.mul_self`), and they compare as the integers do (`IsWhole.lt_iff`).
-/

namespace SeamCarving

open Float.Model UnpackedFloat

/-! ## Rounding what fits -/

theorem log2_lt_of_small {number : ℕ} (pos : 0 < number) (small : number < 2 ^ 53) : number.log2 < 53 :=
  (Nat.log2_lt (Nat.ne_of_gt pos)).2 small

theorem log2_mul_two_pow {number : ℕ} (pos : 0 < number) (shift : ℕ) :
    (number * 2 ^ shift).log2 = number.log2 + shift := by
  have nonzero : number * 2 ^ shift ≠ 0 := by positivity
  rw [Nat.log2_eq_iff nonzero, pow_add, pow_add, pow_add]
  have ⟨low, high⟩ := (Nat.log2_eq_iff (Nat.ne_of_gt pos)).1 rfl
  constructor
  · exact Nat.mul_le_mul_right _ low
  · calc number * 2 ^ shift
      _ < 2 ^ (number.log2 + 1) * 2 ^ shift := Nat.mul_lt_mul_of_pos_right high (by positivity)
      _ = _ := by ring

/-- Bits that are zero can be shifted out without loss. -/
theorem shiftRight_exact (mantissa shift : ℕ) :
    (⟨mantissa * 2 ^ shift, false, false⟩ : ExtendedMantissa) >>> shift = ⟨mantissa, false, false⟩ := by
  induction shift generalizing mantissa with
  | zero => simp [HShiftRight.hShiftRight, Nat.repeat]
  | succ shift ih =>
      have split : mantissa * 2 ^ (shift + 1) = mantissa * 2 * 2 ^ shift := by ring
      have inner := ih (mantissa * 2)
      rw [← split] at inner
      change ((⟨mantissa * 2 ^ (shift + 1), false, false⟩ : ExtendedMantissa) >>> shift).shiftRightOne = _
      rw [inner]
      simp [ExtendedMantissa.shiftRightOne]

theorem targetExponent_whole {number : ℕ} (pos : 0 < number) (small : number < 2 ^ 53) (shift : ℕ) :
    Format.targetExponent .binary64 (totalExponent (number * 2 ^ shift) (-shift)) = number.log2 - 52 := by
  have bits := log2_lt_of_small pos small
  rw [totalExponent, log2_mul_two_pow pos]
  change max (_ - 53 : ℤ) (-1074) = _
  push_cast
  omega

theorem shiftToTargetExponent_whole {number shift : ℕ} (pos : 0 < number) (small : number < 2 ^ 53)
    (long : 52 ≤ number.log2 + shift) :
    shiftToTargetExponent .binary64 (number * 2 ^ shift) (-shift) .exact =
      ((⟨number * 2 ^ (52 - number.log2), false, false⟩ : ExtendedMantissa), (number.log2 - 52 : ℤ)) := by
  have bits := log2_lt_of_small pos small
  have amount : ((number.log2 : ℤ) - 52 - -shift).toNat = number.log2 + shift - 52 := by omega
  have split : number * 2 ^ shift = number * 2 ^ (52 - number.log2) * 2 ^ (number.log2 + shift - 52) := by
    rw [mul_assoc, ← pow_add]
    congr 2
    omega
  unfold shiftToTargetExponent shiftToExponent
  rw [targetExponent_whole pos small]
  simp only [amount]
  rw [split]
  refine Prod.ext (shiftRight_exact _ _) ?_
  change -(shift : ℤ) + ((number.log2 + shift - 52 : ℕ) : ℤ) = _
  omega

/-- A small number is rounded to itself, with a mantissa that is full. -/
theorem roundWithAccuracy_whole (sign : Sign) {number shift : ℕ} (pos : 0 < number) (small : number < 2 ^ 53)
    (long : 52 ≤ number.log2 + shift) :
    roundWithAccuracy .binary64 sign (number * 2 ^ shift) (-shift) .exact =
      .finite sign (number * 2 ^ (52 - number.log2)) (number.log2 - 52) (by positivity) := by
  have bits := log2_lt_of_small pos small
  have exponent : (number.log2 : ℤ) - 52 = -((52 - number.log2 : ℕ) : ℤ) := by omega
  have again := shiftToTargetExponent_whole pos small (show 52 ≤ number.log2 + (52 - number.log2) by omega)
  have nonzero : number * 2 ^ (52 - number.log2) ≠ 0 := by positivity
  unfold roundWithAccuracy
  rw [shiftToTargetExponent_whole pos small long]
  simp only [ExtendedMantissa.roundedMantissa, ExtendedMantissa.accuracy, Accuracy.roundToNearestEven]
  simp only [exponent, again]
  rw [dif_neg nonzero]

theorem round_whole (sign : Sign) {number : ℕ} (pos : 0 < number) (small : number < 2 ^ 53) (shift : ℕ) :
    UnpackedFloat.round .binary64 sign (number * 2 ^ shift) (-shift) =
      .finite sign (number * 2 ^ (52 - number.log2)) (number.log2 - 52) (by positivity) := by
  have bits := log2_lt_of_small pos small
  have amount : (-(shift : ℤ) - (number.log2 - 52)).toNat = 52 - number.log2 - shift := by omega
  have exponent : -(shift : ℤ) - (52 - number.log2 - shift : ℕ) = -(shift + (52 - number.log2 - shift) : ℕ) := by
    omega
  unfold UnpackedFloat.round decreaseExponent
  rw [targetExponent_whole pos small]
  simp only [amount, Nat.shiftLeft_eq, mul_assoc, ← pow_add, exponent]
  exact roundWithAccuracy_whole sign pos small (by omega)

theorem normalize_of_pos {number : ℤ} (above : 0 < number) (exponent : ℤ) (zeroSign : Sign) :
    UnpackedFloat.normalize .binary64 number exponent zeroSign =
      UnpackedFloat.round .binary64 .positive number.toNat exponent := by
  rw [UnpackedFloat.normalize, compare_gt_iff_gt.2 above]

theorem normalize_of_neg {number : ℤ} (below : number < 0) (exponent : ℤ) (zeroSign : Sign) :
    UnpackedFloat.normalize .binary64 number exponent zeroSign =
      UnpackedFloat.round .binary64 .negative (-number).toNat exponent := by
  rw [UnpackedFloat.normalize, compare_lt_iff_lt.2 below]

theorem normalize_whole (sign : Sign) {number : ℕ} (pos : 0 < number) (small : number < 2 ^ 53) (shift : ℕ)
    (zeroSign : Sign) :
    UnpackedFloat.normalize .binary64 (sign.apply number * 2 ^ shift) (-shift) zeroSign =
      .finite sign (number * 2 ^ (52 - number.log2)) (number.log2 - 52) (by positivity) := by
  have above : (0 : ℤ) < (number * 2 ^ shift : ℕ) := by positivity
  have magnitude : ((number * 2 ^ shift : ℕ) : ℤ) = number * 2 ^ shift := by push_cast; rfl
  cases sign with
  | negative =>
      have value : Sign.negative.apply number * 2 ^ shift = -((number * 2 ^ shift : ℕ) : ℤ) := by
        rw [magnitude]
        exact neg_mul _ _
      rw [value, normalize_of_neg (Int.neg_neg_of_pos above), neg_neg, Int.toNat_natCast]
      exact round_whole .negative pos small shift
  | positive =>
      have value : Sign.positive.apply number * 2 ^ shift = ((number * 2 ^ shift : ℕ) : ℤ) := magnitude.symm
      rw [value, normalize_of_pos above, Int.toNat_natCast]
      exact round_whole .positive pos small shift

theorem ofInt_whole (sign : Sign) {number : ℕ} (pos : 0 < number) (small : number < 2 ^ 53) :
    ofInt .binary64 (sign.apply number) =
      .finite sign (number * 2 ^ (52 - number.log2)) (number.log2 - 52) (by positivity) := by
  have plain := normalize_whole sign pos small 0 .positive
  rwa [pow_zero, mul_one] at plain

/-- A number whose mantissa is full is stored as it is. -/
theorem unpack_pack_full (sign : Sign) {mantissa : ℕ} {exponent : ℤ} (pos : 0 < mantissa)
    (full : mantissa.log2 = 52) (low : -1074 ≤ exponent) (high : exponent ≤ 0) :
    UnpackedFloat.unpack .binary64 (UnpackedFloat.pack .binary64 (.finite sign mantissa exponent pos)) =
      .finite sign mantissa exponent pos := by
  -- the exponent is stored with a bias, and neither the least nor the greatest, which are for other kinds of floats
  obtain ⟨biased, biased_eq⟩ : ∃ biased : ℕ, exponent + 1075 = biased := ⟨(exponent + 1075).toNat, by omega⟩
  have stored : (exponent + (Format.exponentBias .binary64 : ℕ) + (52 : ℕ)).toNat = biased := by
    change (exponent + (1023 : ℤ) + 52).toNat = biased
    omega
  have few : ¬ 2 ^ 11 ≤ biased + 1 := by omega
  have normal : mantissa.log2 + 1 = Format.mantissaBits .binary64 := by
    rw [full]
    rfl
  have packed : UnpackedFloat.pack .binary64 (.finite sign mantissa exponent pos) =
      packComponents .binary64 sign (BitVec.ofNat 11 biased) (BitVec.ofNat 52 mantissa) := by
    unfold UnpackedFloat.pack
    simp only [stored, few, normal, ↓reduceIte]
  have ⟨low_mantissa, high_mantissa⟩ := (Nat.log2_eq_iff (Nat.ne_of_gt pos)).1 full
  have biased_toNat : (BitVec.ofNat 11 biased).toNat = biased := by
    rw [BitVec.toNat_ofNat, Nat.mod_eq_of_lt (by omega)]
  have not_top : BitVec.ofNat 11 biased ≠ -1#11 := by
    intro top
    have equal := congrArg BitVec.toNat top
    rw [biased_toNat] at equal
    change biased = 2047 at equal
    omega
  have not_bottom : BitVec.ofNat 11 biased ≠ 0#11 := by
    intro bottom
    have equal := congrArg BitVec.toNat bottom
    rw [biased_toNat] at equal
    change biased = 0 at equal
    omega
  -- the first bit of the mantissa is not stored
  have whole : (1#1 ++ BitVec.ofNat 52 mantissa).toNat = mantissa := by
    have rest : mantissa % 2 ^ 52 < 2 ^ 52 := Nat.mod_lt _ (by positivity)
    have joined := Nat.two_pow_add_eq_or_of_lt rest 1
    rw [BitVec.toNat_append, BitVec.toNat_ofNat, Nat.shiftLeft_eq, Nat.mul_comm]
    exact joined.symm.trans (by omega)
  rw [packed]
  unfold UnpackedFloat.unpack
  simp only [unpackExponent_packComponents, unpackMantissa_packComponents, unpackSign_packComponents,
    Sign.ofBitVec_toBitVec, not_top, not_bottom, ↓reduceIte]
  simp only [whole, biased_toNat]
  congr 1
  change (biased : ℤ) - (1023 + 52) = exponent
  omega

/-! ## Whole numbers -/

/-- The unpacked float stands for the integer. Zero is positive, and any other number fills the mantissa. -/
inductive Represents : UnpackedFloat → ℤ → Prop
  | zero : Represents (.zero .positive) 0
  | full (sign : Sign) {magnitude : ℕ} (pos : 0 < magnitude) (small : magnitude < 2 ^ 53) :
      Represents (.finite sign (magnitude * 2 ^ (52 - magnitude.log2)) (magnitude.log2 - 52) (by positivity))
        (sign.apply magnitude)

theorem represents_ofInt {number : ℤ} (small : number.natAbs < 2 ^ 53) :
    Represents (.ofInt .binary64 number) number := by
  rcases lt_trichotomy number 0 with below | rfl | above
  · have pos : 0 < number.natAbs := by omega
    have magnitude : Sign.negative.apply number.natAbs = number := by
      change -(number.natAbs : ℤ) = number
      omega
    have represents := Represents.full .negative pos small
    rwa [← ofInt_whole .negative pos small, magnitude] at represents
  · exact .zero
  · have pos : 0 < number.natAbs := by omega
    have magnitude : Sign.positive.apply number.natAbs = number := by
      change (number.natAbs : ℤ) = number
      omega
    have represents := Represents.full .positive pos small
    rwa [← ofInt_whole .positive pos small, magnitude] at represents

theorem min_exponent {first second : ℕ} (small : first < 53) (small' : second < 53) :
    min ((first : ℤ) - 52) (second - 52) = -(max (52 - first) (52 - second) : ℕ) := by
  omega

/-- Written with another exponent, a mantissa still stands for the same number. -/
theorem apply_decreaseExponent (sign : Sign) {number : ℕ} (pos : 0 < number) (small : number < 2 ^ 53) {shift : ℕ}
    (fine : 52 - number.log2 ≤ shift) :
    sign.apply (decreaseExponent (number * 2 ^ (52 - number.log2)) (number.log2 - 52) (-shift)).1 =
      sign.apply number * 2 ^ shift := by
  have bits := log2_lt_of_small pos small
  have amount : ((number.log2 : ℤ) - 52 - -shift).toNat = shift - (52 - number.log2) := by omega
  have total : 52 - number.log2 + (shift - (52 - number.log2)) = shift := by omega
  simp only [decreaseExponent, amount, Nat.shiftLeft_eq]
  rw [mul_assoc, ← pow_add, total]
  cases sign with
  | negative =>
      change -((number * 2 ^ shift : ℕ) : ℤ) = -(number : ℤ) * 2 ^ shift
      push_cast
      ring
  | positive =>
      change ((number * 2 ^ shift : ℕ) : ℤ) = (number : ℤ) * 2 ^ shift
      push_cast
      ring

/-- A number that is written with a negative exponent is normalized to itself. -/
theorem represents_normalize {number : ℤ} (fits : number.natAbs < 2 ^ 53) (shift : ℕ) :
    Represents (.normalize .binary64 (number * 2 ^ shift) (-shift) .positive) number := by
  obtain ⟨unpacked, represents⟩ : ∃ unpacked, Represents unpacked number := ⟨_, represents_ofInt fits⟩
  cases represents with
  | zero =>
      rw [zero_mul]
      exact .zero
  | full sign pos small =>
      rw [normalize_whole sign pos small]
      exact .full sign pos small

/-- Of two numbers the smaller one has a smaller exponent, or the same and a smaller mantissa. -/
theorem magnitude_lt {number other : ℕ} (pos : 0 < number) (less : number < other) :
    number.log2 < other.log2 ∨
      number.log2 = other.log2 ∧ number * 2 ^ (52 - number.log2) < other * 2 ^ (52 - other.log2) := by
  have bits : number.log2 ≤ other.log2 := by
    rw [Nat.le_log2 (by omega)]
    exact ((Nat.log2_eq_iff (Nat.ne_of_gt pos)).1 rfl).1.trans (Nat.le_of_lt less)
  rcases Nat.lt_or_eq_of_le bits with shorter | same
  · exact Or.inl shorter
  · refine Or.inr ⟨same, ?_⟩
    rw [same]
    exact Nat.mul_lt_mul_of_pos_right less (by positivity)

namespace Represents

variable {first second : UnpackedFloat} {number other : ℤ}

theorem small (represents : Represents first number) : number.natAbs < 2 ^ 53 := by
  cases represents with
  | zero => decide
  | full sign pos small =>
      cases sign with
      | negative => exact Nat.lt_of_le_of_lt (Nat.le_of_eq (Int.natAbs_neg _)) small
      | positive => exact small

theorem unpack_pack (represents : Represents first number) :
    UnpackedFloat.unpack .binary64 (UnpackedFloat.pack .binary64 first) = first := by
  cases represents with
  | zero => rfl
  | @full sign magnitude pos small =>
      have bits := log2_lt_of_small pos small
      have full : (magnitude * 2 ^ (52 - magnitude.log2)).log2 = 52 := by
        rw [log2_mul_two_pow pos]
        omega
      exact unpack_pack_full sign _ full (by omega) (by omega)

theorem add (represents : Represents first number) (represents' : Represents second other)
    (fits : (number + other).natAbs < 2 ^ 53) :
    Represents (first.add .binary64 second) (number + other) := by
  cases represents with
  | zero =>
      rw [zero_add]
      cases represents' with
      | zero => exact .zero
      | full sign pos small => exact .full sign pos small
  | full sign pos small =>
      cases represents' with
      | zero =>
          rw [add_zero]
          exact .full sign pos small
      | full sign' pos' small' =>
          simp only [UnpackedFloat.add, min_exponent (log2_lt_of_small pos small) (log2_lt_of_small pos' small')]
          rw [apply_decreaseExponent sign pos small (le_max_left _ _),
            apply_decreaseExponent sign' pos' small' (le_max_right _ _), ← add_mul]
          exact represents_normalize fits _

theorem sub (represents : Represents first number) (represents' : Represents second other)
    (fits : (number - other).natAbs < 2 ^ 53) :
    Represents (first.sub .binary64 second) (number - other) := by
  cases represents with
  | zero =>
      cases represents' with
      | zero => exact .zero
      | @full sign magnitude pos small =>
          have opposite : (0 : ℤ) - sign.apply magnitude = (-sign).apply magnitude := by
            cases sign with
            | negative => exact (zero_sub _).trans (neg_neg _)
            | positive => exact zero_sub _
          rw [opposite]
          exact .full (-sign) pos small
  | full sign pos small =>
      cases represents' with
      | zero =>
          rw [sub_zero]
          exact .full sign pos small
      | full sign' pos' small' =>
          simp only [UnpackedFloat.sub, min_exponent (log2_lt_of_small pos small) (log2_lt_of_small pos' small')]
          rw [apply_decreaseExponent sign pos small (le_max_left _ _),
            apply_decreaseExponent sign' pos' small' (le_max_right _ _), ← sub_mul]
          exact represents_normalize fits _

/-- Only squares are looked at here: zero times a negative number is negative zero. -/
theorem mul_self (represents : Represents first number) (fits : (number * number).natAbs < 2 ^ 53) :
    Represents (first.mul .binary64 first) (number * number) := by
  cases represents with
  | zero => exact .zero
  | @full sign magnitude pos small =>
      have square : sign.apply magnitude * sign.apply magnitude =
          Sign.positive.apply (magnitude * magnitude : ℕ) := by
        cases sign with
        | negative => exact (neg_mul_neg _ _).trans (Nat.cast_mul _ _).symm
        | positive => exact (Nat.cast_mul _ _).symm
      have signs : sign * sign = .positive := by cases sign <;> rfl
      have bits := log2_lt_of_small pos small
      have low := (Nat.log2_eq_iff (Nat.ne_of_gt pos)).1 rfl |>.1
      have long : 2 * magnitude.log2 ≤ (magnitude * magnitude).log2 := by
        rw [Nat.le_log2 (Nat.mul_ne_zero (Nat.ne_of_gt pos) (Nat.ne_of_gt pos)), two_mul, pow_add]
        exact Nat.mul_le_mul low low
      have mantissa : magnitude * 2 ^ (52 - magnitude.log2) * (magnitude * 2 ^ (52 - magnitude.log2)) =
          magnitude * magnitude * 2 ^ (2 * (52 - magnitude.log2)) := by
        rw [two_mul, pow_add]
        ring
      have exponent : (magnitude.log2 : ℤ) - 52 + (magnitude.log2 - 52) =
          -((2 * (52 - magnitude.log2) : ℕ) : ℤ) := by omega
      rw [square] at fits ⊢
      have rounded := roundWithAccuracy_whole .positive (Nat.mul_pos pos pos) fits
        (show 52 ≤ (magnitude * magnitude).log2 + 2 * (52 - magnitude.log2) by omega)
      simp only [UnpackedFloat.mul, signs, mantissa, exponent, rounded]
      exact .full .positive (Nat.mul_pos pos pos) fits

theorem eq_ofInt (represents : Represents first number) : first = .ofInt .binary64 number := by
  cases represents with
  | zero => rfl
  | full sign pos small => exact (ofInt_whole sign pos small).symm

theorem rank_lt_rank (represents : Represents first number) (represents' : Represents second other)
    (less : number < other) : unpackedRank first < unpackedRank second := by
  cases represents with
  | zero =>
      cases represents' with
      | zero => exact absurd less (lt_irrefl 0)
      | @full sign' magnitude' pos' small' =>
          cases sign' with
          | negative => exact absurd less (Int.not_lt.2 (Int.neg_nonpos_of_nonneg (Int.natCast_nonneg _)))
          | positive =>
              dsimp only [unpackedRank]
              simp [Prod.Lex.toLex_lt_toLex]
  | @full sign magnitude pos small =>
      cases represents' with
      | zero =>
          cases sign with
          | positive => exact absurd less (Int.not_lt.2 (Int.natCast_nonneg _))
          | negative =>
              dsimp only [unpackedRank]
              simp [Prod.Lex.toLex_lt_toLex]
      | @full sign' magnitude' pos' small' =>
          cases sign with
          | negative =>
              cases sign' with
              | negative =>
                  have smaller : magnitude' < magnitude := Int.ofNat_lt.1 (neg_lt_neg_iff.1 less)
                  have shorter := magnitude_lt pos' smaller
                  refine Prod.Lex.toLex_lt_toLex.2 (Or.inr ⟨rfl, Prod.Lex.toLex_lt_toLex.2 ?_⟩)
                  dsimp only
                  omega
              | positive =>
                  dsimp only [unpackedRank]
                  simp [Prod.Lex.toLex_lt_toLex]
          | positive =>
              cases sign' with
              | negative =>
                  have above : (0 : ℤ) ≤ magnitude := Int.natCast_nonneg _
                  have below : -(magnitude' : ℤ) ≤ 0 := Int.neg_nonpos_of_nonneg (Int.natCast_nonneg _)
                  exact absurd (less.trans_le below) (Int.not_lt.2 above)
              | positive =>
                  have smaller : magnitude < magnitude' := Int.ofNat_lt.1 less
                  have shorter := magnitude_lt pos smaller
                  refine Prod.Lex.toLex_lt_toLex.2 (Or.inr ⟨rfl, Prod.Lex.toLex_lt_toLex.2 ?_⟩)
                  dsimp only
                  omega

/-- Floats that stand for integers are ordered as the integers are. -/
theorem rank_lt_rank_iff (represents : Represents first number) (represents' : Represents second other) :
    unpackedRank first < unpackedRank second ↔ number < other := by
  refine ⟨?_, represents.rank_lt_rank represents'⟩
  intro less
  rcases lt_trichotomy number other with below | rfl | above
  · exact below
  · rw [represents.eq_ofInt, represents'.eq_ofInt] at less
    exact absurd less (lt_irrefl _)
  · exact absurd less (lt_asymm (represents'.rank_lt_rank represents above))

end Represents

/-! ## Floats -/

/-- The float stands for the integer. -/
def IsWhole (float : Float) (number : ℤ) : Prop :=
  Represents float.toModel.unpack number

/-- A float is stored without loss if it stands for an integer. -/
theorem Represents.isWhole {unpacked : UnpackedFloat} {number : ℤ} (represents : Represents unpacked number) :
    IsWhole (.ofModel (.pack unpacked)) number := by
  change Represents (UnpackedFloat.unpack .binary64 (UnpackedFloat.pack .binary64 unpacked)) number
  rwa [represents.unpack_pack]

theorem isWhole_toFloat (byte : UInt8) : IsWhole byte.toFloat byte.toNat := by
  have small : (byte.toNat : ℤ).natAbs < 2 ^ 53 := by
    have := byte.toNat_lt
    omega
  exact (represents_ofInt small).isWhole

theorem isWhole_zero : IsWhole ((0 : Nat) : Float) 0 := by
  have stored : ((0 : Nat) : Float) = .ofModel (.pack (.ofInt .binary64 0)) := by decide +kernel
  rw [stored]
  exact (represents_ofInt (by decide)).isWhole

theorem isWhole_borderEnergy : IsWhole borderEnergy 195075 := by
  have stored : (borderEnergy : Float) = .ofModel (.pack (.ofInt .binary64 195075)) := by decide +kernel
  rw [stored]
  exact (represents_ofInt (by decide)).isWhole

namespace IsWhole

variable {first second : Float} {number other : ℤ}

theorem small (whole : IsWhole first number) : number.natAbs < 2 ^ 53 :=
  Represents.small whole

theorem add (whole : IsWhole first number) (whole' : IsWhole second other) (fits : (number + other).natAbs < 2 ^ 53) :
    IsWhole (first + second) (number + other) :=
  (Represents.add whole whole' fits).isWhole

theorem sub (whole : IsWhole first number) (whole' : IsWhole second other) (fits : (number - other).natAbs < 2 ^ 53) :
    IsWhole (first - second) (number - other) :=
  (Represents.sub whole whole' fits).isWhole

theorem mul_self (whole : IsWhole first number) (fits : (number * number).natAbs < 2 ^ 53) :
    IsWhole (first * first) (number * number) :=
  (Represents.mul_self whole fits).isWhole

theorem isNaN_eq (whole : IsWhole first number) : first.isNaN = false := by
  change first.toModel.unpack.isNaN = false
  unfold IsWhole at whole
  generalize first.toModel.unpack = unpacked at *
  cases whole <;> rfl

theorem lt_iff (whole : IsWhole first number) (whole' : IsWhole second other) : first < second ↔ number < other := by
  rw [floatLt_iff_rank_lt whole.isNaN_eq whole'.isNaN_eq]
  exact Represents.rank_lt_rank_iff whole whole'

theorem floatValue_eq (whole : IsWhole first number) : floatValue first = number := by
  unfold IsWhole at whole
  unfold floatValue
  generalize first.toModel.unpack = unpacked at whole
  cases whole with
  | zero => simp
  | @full sign magnitude pos small =>
      have bits := log2_lt_of_small pos small
      have exponent : (magnitude.log2 : ℤ) - 52 = -((52 - magnitude.log2 : ℕ) : ℤ) := by omega
      have value : ((magnitude * 2 ^ (52 - magnitude.log2) : ℕ) : ℚ) * 2 ^ ((magnitude.log2 : ℤ) - 52) =
          magnitude := by
        rw [exponent, zpow_neg, zpow_natCast, Nat.cast_mul, Nat.cast_pow, Nat.cast_ofNat,
          mul_inv_cancel_right₀ (by positivity)]
      cases sign with
      | negative =>
          have opposite : ((-magnitude : ℤ) : ℚ) = -magnitude := by
            rw [Int.cast_neg, Int.cast_natCast]
          exact (congrArg Neg.neg value).trans opposite.symm
      | positive => exact value

end IsWhole

end SeamCarving

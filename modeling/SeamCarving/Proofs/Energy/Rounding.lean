import Mathlib
import SeamCarving.Proofs.Energy.WholeFloat

/-!
# Rounding to floats

The exact result of an operation on floats is a rational number, and the float nearest to it is taken in its place.
`rounded` says for which number this float stands, as long as that is neither negative nor too large for a float. Main
statements: rounding keeps the order (`rounded_mono`) and leaves alone what fits a mantissa (`rounded_eq_self`). In an
operation itself a mantissa comes with the accuracy that it has; `Locates` says which numbers are meant by both, and
`Locates.roundToNearestEven_eq` that they are rounded as the number is.
-/

namespace SeamCarving

open Float.Model UnpackedFloat

/-! ## The nearest natural number -/

/-- The natural number nearest to a number, of two the even one; zero for negative numbers. -/
def nearestEven (number : ℚ) : ℕ :=
  match compare number (⌊number⌋₊ + 1 / 2) with
  | .lt => ⌊number⌋₊
  | .eq => ⌊number⌋₊ + ⌊number⌋₊ % 2
  | .gt => ⌊number⌋₊ + 1

theorem floor_le_nearestEven (number : ℚ) : ⌊number⌋₊ ≤ nearestEven number := by
  unfold nearestEven
  split <;> omega

theorem nearestEven_le_floor_add_one (number : ℚ) : nearestEven number ≤ ⌊number⌋₊ + 1 := by
  unfold nearestEven
  split <;> omega

theorem nearestEven_mono {number other : ℚ} (le : number ≤ other) : nearestEven number ≤ nearestEven other := by
  rcases (Nat.floor_mono le).lt_or_eq with apart | same
  · calc nearestEven number
      _ ≤ ⌊number⌋₊ + 1 := nearestEven_le_floor_add_one number
      _ ≤ ⌊other⌋₊ := apart
      _ ≤ nearestEven other := floor_le_nearestEven other
  · -- with one whole part the halves decide, which are passed in the order of the numbers
    unfold nearestEven
    rw [same]
    rcases lt_trichotomy number (⌊other⌋₊ + 1 / 2) with below | half | above
    · rw [compare_lt_iff_lt.2 below]
      dsimp only
      split <;> omega
    · rw [compare_eq_iff_eq.2 half]
      rcases (half ▸ le).lt_or_eq with above | half'
      · rw [compare_gt_iff_gt.2 above]
        dsimp only
        omega
      · rw [compare_eq_iff_eq.2 half'.symm]
    · rw [compare_gt_iff_gt.2 above, compare_gt_iff_gt.2 (above.trans_le le)]

@[simp]
theorem nearestEven_natCast (number : ℕ) : nearestEven number = number := by
  have below : (number : ℚ) < number + 1 / 2 := by linarith
  rw [nearestEven, Nat.floor_natCast, compare_lt_iff_lt.2 below]

/-! ## The nearest float -/

/-- The exponent of the last bit that is kept of a number: 53 bits are kept, but none below the least exponent. -/
def lastExponent (number : ℚ) : ℤ :=
  max (Int.log 2 number - 52) (-1074)

/-- The number that a float stands for if it is nearest to the given one. -/
def rounded (number : ℚ) : ℚ :=
  nearestEven (number / 2 ^ lastExponent number) * 2 ^ lastExponent number

theorem two_zpow_pos (exponent : ℤ) : (0 : ℚ) < 2 ^ exponent :=
  zpow_pos two_pos exponent

theorem two_pow_log_le {number : ℚ} (pos : 0 < number) : (2 : ℚ) ^ Int.log 2 number ≤ number :=
  Int.zpow_log_le_self Nat.one_lt_two pos

theorem lt_two_pow_log (number : ℚ) : number < (2 : ℚ) ^ (Int.log 2 number + 1) :=
  Int.lt_zpow_succ_log_self Nat.one_lt_two number

theorem log_eq_of_bounds {number : ℚ} {exponent : ℤ} (low : (2 : ℚ) ^ exponent ≤ number)
    (high : number < (2 : ℚ) ^ (exponent + 1)) : Int.log 2 number = exponent := by
  have pos : 0 < number := (two_zpow_pos exponent).trans_le low
  have least : exponent ≤ Int.log 2 number := (Int.zpow_le_iff_le_log Nat.one_lt_two pos).1 low
  have most : Int.log 2 number < exponent + 1 := (Int.lt_zpow_iff_log_lt Nat.one_lt_two pos).1 high
  omega

theorem two_zpow_add (exponent exponent' : ℤ) : (2 : ℚ) ^ (exponent + exponent') = 2 ^ exponent * 2 ^ exponent' :=
  zpow_add₀ two_ne_zero exponent exponent'

theorem rounded_nonneg (number : ℚ) : 0 ≤ rounded number :=
  mul_nonneg (Nat.cast_nonneg _) (two_zpow_pos _).le

/-- What is kept of a number fills the mantissa at most. -/
theorem div_lastExponent_lt (number : ℚ) : number / 2 ^ lastExponent number < 2 ^ 53 := by
  rw [div_lt_iff₀ (two_zpow_pos _)]
  calc number
    _ < 2 ^ (Int.log 2 number + 1) := lt_two_pow_log number
    _ ≤ 2 ^ (53 + lastExponent number) := by
        refine zpow_le_zpow_right₀ one_le_two ?_
        unfold lastExponent
        omega
    _ = 2 ^ 53 * 2 ^ lastExponent number := two_zpow_add 53 _

/-- The mantissa is full unless the exponent is the least. -/
theorem le_div_lastExponent {number : ℚ} (pos : 0 < number) (normal : -1074 < lastExponent number) :
    2 ^ 52 ≤ number / 2 ^ lastExponent number := by
  rw [le_div_iff₀ (two_zpow_pos _)]
  calc (2 : ℚ) ^ 52 * 2 ^ lastExponent number
    _ = 2 ^ (52 + lastExponent number) := (two_zpow_add 52 _).symm
    _ = 2 ^ Int.log 2 number := by
        congr 1
        unfold lastExponent at normal ⊢
        omega
    _ ≤ number := two_pow_log_le pos

theorem nearestEven_div_le (number : ℚ) : nearestEven (number / 2 ^ lastExponent number) ≤ 2 ^ 53 := by
  have most : number / 2 ^ lastExponent number ≤ (2 ^ 53 : ℕ) := by
    push_cast
    exact (div_lastExponent_lt number).le
  exact (nearestEven_mono most).trans_eq (nearestEven_natCast _)

theorem le_nearestEven_div {number : ℚ} (pos : 0 < number) (normal : -1074 < lastExponent number) :
    2 ^ 52 ≤ nearestEven (number / 2 ^ lastExponent number) := by
  have least : ((2 ^ 52 : ℕ) : ℚ) ≤ number / 2 ^ lastExponent number := by
    push_cast
    exact le_div_lastExponent pos normal
  exact (nearestEven_natCast _).symm.trans_le (nearestEven_mono least)

theorem rounded_of_nonpos {number : ℚ} (nonpos : number ≤ 0) : rounded number = 0 := by
  have least : number / 2 ^ lastExponent number ≤ (0 : ℕ) := by
    rw [Nat.cast_zero]
    exact div_nonpos_of_nonpos_of_nonneg nonpos (two_zpow_pos _).le
  have none := (nearestEven_mono least).trans_eq (nearestEven_natCast 0)
  rw [rounded, Nat.le_zero.1 none, Nat.cast_zero, zero_mul]

theorem lastExponent_mono {number other : ℚ} (pos : 0 < number) (le : number ≤ other) :
    lastExponent number ≤ lastExponent other := by
  have logs : Int.log 2 number ≤ Int.log 2 other := Int.log_mono_right pos le
  unfold lastExponent
  omega

/-- Rounding keeps the order: numbers of one exponent are rounded alike, and between two of different exponents there is
    a power of two, which either of them stays beside. -/
theorem rounded_mono {number other : ℚ} (le : number ≤ other) : rounded number ≤ rounded other := by
  rcases le_or_gt number 0 with nonpos | pos
  · rw [rounded_of_nonpos nonpos]
    exact rounded_nonneg other
  · rcases (lastExponent_mono pos le).lt_or_eq with apart | same
    · have normal : -1074 < lastExponent other :=
        lt_of_le_of_lt (le_max_right _ _) apart
      calc rounded number
        _ ≤ ((2 ^ 53 : ℕ) : ℚ) * 2 ^ lastExponent number :=
            mul_le_mul_of_nonneg_right (Nat.cast_le.2 (nearestEven_div_le number)) (two_zpow_pos _).le
        _ = 2 ^ (53 + lastExponent number) := by
            rw [two_zpow_add]
            norm_num
        _ ≤ 2 ^ (52 + lastExponent other) := zpow_le_zpow_right₀ one_le_two (by omega)
        _ = ((2 ^ 52 : ℕ) : ℚ) * 2 ^ lastExponent other := by
            rw [two_zpow_add]
            norm_num
        _ ≤ rounded other :=
            mul_le_mul_of_nonneg_right (Nat.cast_le.2 (le_nearestEven_div (pos.trans_le le) normal)) (two_zpow_pos _).le
    · rw [rounded, rounded, same]
      refine mul_le_mul_of_nonneg_right (Nat.cast_le.2 (nearestEven_mono ?_)) (two_zpow_pos _).le
      exact div_le_div_of_nonneg_right le (two_zpow_pos _).le

/-- A number that fits a mantissa is not rounded. -/
theorem rounded_eq_self {mantissa : ℕ} {exponent : ℤ} (pos : 0 < mantissa) (small : mantissa < 2 ^ 53)
    (fine : -1074 ≤ exponent) : rounded (mantissa * 2 ^ exponent) = mantissa * 2 ^ exponent := by
  have below : (mantissa : ℚ) * 2 ^ exponent < 2 ^ (53 + exponent) := by
    rw [two_zpow_add]
    refine mul_lt_mul_of_pos_right ?_ (two_zpow_pos _)
    exact_mod_cast small
  have number_pos : (0 : ℚ) < mantissa * 2 ^ exponent := mul_pos (Nat.cast_pos.2 pos) (two_zpow_pos _)
  have log : Int.log 2 ((mantissa : ℚ) * 2 ^ exponent) < 53 + exponent :=
    (Int.lt_zpow_iff_log_lt Nat.one_lt_two number_pos).1 below
  obtain ⟨shift, shift_eq⟩ : ∃ shift : ℕ, exponent = shift + lastExponent (mantissa * 2 ^ exponent) := by
    refine ⟨(exponent - lastExponent (mantissa * 2 ^ exponent)).toNat, ?_⟩
    unfold lastExponent
    omega
  have whole : (mantissa : ℚ) * 2 ^ exponent / 2 ^ lastExponent (mantissa * 2 ^ exponent) =
      (mantissa * 2 ^ shift : ℕ) := by
    rw [div_eq_iff (two_zpow_pos _).ne']
    generalize lastExponent (mantissa * 2 ^ exponent) = last at shift_eq
    rw [shift_eq, two_zpow_add, zpow_natCast]
    push_cast
    ring
  rw [rounded, whole, nearestEven_natCast, ← whole, div_mul_cancel₀ _ (two_zpow_pos _).ne']

theorem rounded_natCast {number : ℕ} (small : number < 2 ^ 53) : rounded number = number := by
  rcases Nat.eq_zero_or_pos number with rfl | pos
  · exact rounded_of_nonpos (Nat.cast_zero (R := ℚ)).le
  · have plain := rounded_eq_self pos small (show -1074 ≤ (0 : ℤ) by decide)
    rwa [zpow_zero, mul_one] at plain

theorem rounded_add_half {number : ℕ} (small : 2 * number + 1 < 2 ^ 53) :
    rounded (number + 1 / 2) = number + 1 / 2 := by
  have halves : (number : ℚ) + 1 / 2 = (2 * number + 1 : ℕ) * 2 ^ (-1 : ℤ) := by
    rw [zpow_neg_one]
    push_cast
    ring
  rw [halves]
  exact rounded_eq_self (Nat.succ_pos _) small (by decide)

/-! ## Mantissas with what is left of them -/

/-- How a number lies between a mantissa and the next one. -/
def Locates (mantissa : ℕ) (number : ℚ) : Accuracy → Prop
  | .exact => number = mantissa
  | .inexact .lt => mantissa < number ∧ number < mantissa + 1 / 2
  | .inexact .eq => number = mantissa + 1 / 2
  | .inexact .gt => mantissa + 1 / 2 < number ∧ number < mantissa + 1

namespace Locates

variable {mantissa : ℕ} {number : ℚ} {accuracy : Accuracy}

theorem le (located : Locates mantissa number accuracy) : mantissa ≤ number := by
  rcases accuracy with _ | _ | _ | _ <;> simp only [Locates] at located <;> linarith

theorem lt_add_one (located : Locates mantissa number accuracy) : number < mantissa + 1 := by
  rcases accuracy with _ | _ | _ | _ <;> simp only [Locates] at located <;> linarith

theorem floor_eq (located : Locates mantissa number accuracy) : ⌊number⌋₊ = mantissa :=
  (Nat.floor_eq_iff (located.le.trans' (Nat.cast_nonneg _))).2 ⟨located.le, located.lt_add_one⟩

theorem roundToNearestEven_eq (located : Locates mantissa number accuracy) :
    accuracy.roundToNearestEven mantissa = nearestEven number := by
  rw [nearestEven, located.floor_eq]
  rcases accuracy with _ | _ | _ | _ <;> simp only [Locates] at located
  · rw [compare_lt_iff_lt.2 (by linarith)]
    rfl
  · rw [compare_lt_iff_lt.2 located.2]
    rfl
  · rw [compare_eq_iff_eq.2 located]
    rfl
  · rw [compare_gt_iff_gt.2 located.1]
    rfl

end Locates

theorem mantissa_ofMantissaAndAccuracy (mantissa : ℕ) (accuracy : Accuracy) :
    (ExtendedMantissa.ofMantissaAndAccuracy mantissa accuracy).mantissa = mantissa := by
  rcases accuracy with _ | _ | _ | _ <;> rfl

theorem accuracy_ofMantissaAndAccuracy (mantissa : ℕ) (accuracy : Accuracy) :
    (ExtendedMantissa.ofMantissaAndAccuracy mantissa accuracy).accuracy = accuracy := by
  rcases accuracy with _ | _ | _ | _ <;> rfl

/-- A bit that is shifted out decides on which side of the half what is left lies. -/
theorem locates_shiftRightOne {extended : ExtendedMantissa} {number : ℚ}
    (located : Locates extended.mantissa number extended.accuracy) :
    Locates extended.shiftRightOne.mantissa (number / 2) extended.shiftRightOne.accuracy := by
  obtain ⟨mantissa, round, sticky⟩ := extended
  have halves : (mantissa : ℚ) = 2 * (mantissa / 2 : ℕ) + (mantissa % 2 : ℕ) := by
    exact_mod_cast (Nat.div_add_mod mantissa 2).symm
  rcases Nat.mod_two_eq_zero_or_one mantissa with even | odd
  · rw [even, Nat.cast_zero] at halves
    cases round <;> cases sticky <;>
      simp only [Locates, ExtendedMantissa.accuracy, ExtendedMantissa.shiftRightOne, even, bne_self_eq_false,
        Bool.or_false, Bool.or_true] at located ⊢
    · linarith
    · exact ⟨by linarith, by linarith⟩
    · exact ⟨by linarith, by linarith⟩
    · exact ⟨by linarith, by linarith⟩
  · rw [odd, Nat.cast_one] at halves
    have last : (1 != 0) = true := rfl
    cases round <;> cases sticky <;>
      simp only [Locates, ExtendedMantissa.accuracy, ExtendedMantissa.shiftRightOne, odd, last, Bool.or_false,
        Bool.or_true] at located ⊢
    · linarith
    · exact ⟨by linarith, by linarith⟩
    · exact ⟨by linarith, by linarith⟩
    · exact ⟨by linarith, by linarith⟩

theorem locates_shiftRight {extended : ExtendedMantissa} {number : ℚ}
    (located : Locates extended.mantissa number extended.accuracy) (shift : ℕ) :
    Locates (extended >>> shift).mantissa (number / 2 ^ shift) (extended >>> shift).accuracy := by
  induction shift with
  | zero =>
      rw [pow_zero, div_one]
      exact located
  | succ shift ih =>
      rw [pow_succ, ← div_div]
      exact locates_shiftRightOne ih

/-- The part of a division that is left says how the quotient lies. -/
theorem locates_div {dividend divisor : ℕ} (pos : 0 < divisor) :
    Locates (dividend / divisor) (dividend / divisor) (accuracyOfFraction (dividend % divisor) divisor) := by
  have above : (0 : ℚ) < divisor := Nat.cast_pos.2 pos
  have split : (dividend : ℚ) / divisor = (dividend / divisor : ℕ) + (dividend % divisor : ℕ) / divisor := by
    rw [eq_comm, ← mul_left_inj' above.ne', add_mul, div_mul_cancel₀ _ above.ne', div_mul_cancel₀ _ above.ne', mul_comm]
    exact_mod_cast Nat.div_add_mod dividend divisor
  have less : (dividend % divisor : ℕ) < (divisor : ℚ) := Nat.cast_lt.2 (Nat.mod_lt dividend pos)
  rw [split]
  generalize dividend % divisor = rest at less ⊢
  unfold accuracyOfFraction
  split
  · next none => simp [Locates, none]
  · next some =>
      have rest_pos : (0 : ℚ) < rest := Nat.cast_pos.2 (Nat.pos_of_ne_zero some)
      have part_pos : (0 : ℚ) < rest / divisor := div_pos rest_pos above
      rcases lt_trichotomy (2 * rest) divisor with below | half | beyond
      · have part : (rest : ℚ) / divisor < 1 / 2 := by
          rw [div_lt_div_iff₀ above two_pos]
          exact_mod_cast (by omega : rest * 2 < 1 * divisor)
        rw [compare_lt_iff_lt.2 below]
        exact ⟨by linarith, by linarith⟩
      · have part : (rest : ℚ) / divisor = 1 / 2 := by
          rw [div_eq_div_iff above.ne' two_ne_zero]
          exact_mod_cast (by omega : rest * 2 = 1 * divisor)
        rw [compare_eq_iff_eq.2 half, part]
        rfl
      · have part : (1 : ℚ) / 2 < rest / divisor := by
          rw [div_lt_div_iff₀ two_pos above]
          exact_mod_cast (by omega : 1 * divisor < rest * 2)
        have whole : (rest : ℚ) / divisor < 1 := (div_lt_one above).2 less
        rw [compare_gt_iff_gt.2 beyond]
        exact ⟨by linarith, by linarith⟩

end SeamCarving

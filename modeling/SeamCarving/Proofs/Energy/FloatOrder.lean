import Mathlib.Algebra.Order.Ring.Rat
import Mathlib.Data.Prod.Lex
import Mathlib.Order.Compare

/-!
# The order and the value of floats

Floats that are numbers are ordered by a rank: first the sign and the kind, from negative infinity to positive
infinity with both zeros in the middle, then the exponent and then the mantissa, both turned around for negative
numbers. Main statement: two floats compare as their ranks do, as long as both are numbers
(`floatLt_iff_rank_lt`); so on numbers the comparison has all the laws of a linear order, although what is not a
number breaks them. A finite float also stands for a rational number, by which one can say that a sum of floats
is not rounded.
-/

namespace SeamCarving

open Float.Model

/-- The place of an unpacked float in the order of numbers. -/
def unpackedRank : UnpackedFloat → ℤ ×ₗ ℤ ×ₗ ℤ
  | .infinity .negative => toLex (-2, toLex (0, 0))
  | .finite .negative mantissa exponent _ => toLex (-1, toLex (-exponent, -mantissa))
  | .zero _ => toLex (0, toLex (0, 0))
  | .finite .positive mantissa exponent _ => toLex (1, toLex (exponent, mantissa))
  | .infinity .positive => toLex (2, toLex (0, 0))
  -- has no place among numbers and is put above them
  | .notANumber => toLex (3, toLex (0, 0))

/-- The place of a float in the order of numbers. -/
def floatRank (number : Float) : ℤ ×ₗ ℤ ×ₗ ℤ :=
  unpackedRank number.toModel.unpack

/-- The rational number that a finite float stands for. -/
def floatValue (number : Float) : ℚ :=
  match number.toModel.unpack with
  | .finite .negative mantissa exponent _ => -(mantissa * 2 ^ exponent)
  | .finite .positive mantissa exponent _ => mantissa * 2 ^ exponent
  | _ => 0

theorem magnitude_lt_iff (exponent exponent' : ℤ) (mantissa mantissa' : ℕ) :
    (compare exponent exponent').then (compare mantissa mantissa') = .lt ↔
      exponent < exponent' ∨ exponent = exponent' ∧ mantissa < mantissa' := by
  simp [Ordering.then_eq_lt, compare_lt_iff_lt]

theorem magnitude_gt_iff (exponent exponent' : ℤ) (mantissa mantissa' : ℕ) :
    (compare exponent exponent').then (compare mantissa mantissa') = .gt ↔
      exponent' < exponent ∨ exponent = exponent' ∧ mantissa' < mantissa := by
  simp [Ordering.then_eq_gt, compare_gt_iff_gt]

theorem unpackedLt_iff_rank_lt {first second : UnpackedFloat} (number : first ≠ .notANumber)
    (number' : second ≠ .notANumber) :
    first.lt second = true ↔ unpackedRank first < unpackedRank second := by
  cases first with
  | notANumber => contradiction
  | infinity sign =>
      cases second with
      | notANumber => contradiction
      | infinity sign' => cases sign <;> cases sign' <;> decide
      | zero sign' =>
          cases sign <;> dsimp only [UnpackedFloat.lt, UnpackedFloat.compare, unpackedRank] <;>
            simp [Prod.Lex.toLex_lt_toLex]
      | finite sign' mantissa' exponent' positive' =>
          cases sign <;> cases sign' <;>
            dsimp only [UnpackedFloat.lt, UnpackedFloat.compare, unpackedRank] <;>
            simp [Prod.Lex.toLex_lt_toLex]
  | zero sign =>
      cases second with
      | notANumber => contradiction
      | infinity sign' =>
          cases sign' <;> dsimp only [UnpackedFloat.lt, UnpackedFloat.compare, unpackedRank] <;>
            simp [Prod.Lex.toLex_lt_toLex]
      | zero sign' =>
          dsimp only [UnpackedFloat.lt, UnpackedFloat.compare, unpackedRank]
          simp
      | finite sign' mantissa' exponent' positive' =>
          cases sign' <;> dsimp only [UnpackedFloat.lt, UnpackedFloat.compare, unpackedRank] <;>
            simp [Prod.Lex.toLex_lt_toLex]
  | finite sign mantissa exponent positive =>
      cases second with
      | notANumber => contradiction
      | infinity sign' =>
          cases sign <;> cases sign' <;>
            dsimp only [UnpackedFloat.lt, UnpackedFloat.compare, unpackedRank] <;>
            simp [Prod.Lex.toLex_lt_toLex]
      | zero sign' =>
          cases sign <;> dsimp only [UnpackedFloat.lt, UnpackedFloat.compare, unpackedRank] <;>
            simp [Prod.Lex.toLex_lt_toLex]
      | finite sign' mantissa' exponent' positive' =>
          cases sign <;> cases sign' <;>
            dsimp only [UnpackedFloat.lt, UnpackedFloat.compare, unpackedRank] <;>
            simp [Prod.Lex.toLex_lt_toLex, magnitude_lt_iff, magnitude_gt_iff]

theorem unpack_ne_notANumber {number : Float} (sound : number.isNaN = false) :
    number.toModel.unpack ≠ .notANumber := by
  intro equal
  have odd : number.isNaN = number.toModel.unpack.isNaN := rfl
  rw [sound, equal] at odd
  contradiction

/-- Floats that are numbers compare as their ranks do. -/
theorem floatLt_iff_rank_lt {first second : Float} (number : first.isNaN = false)
    (number' : second.isNaN = false) : first < second ↔ floatRank first < floatRank second := by
  have unpacked : first < second ↔ first.toModel.unpack.lt second.toModel.unpack = true :=
    ⟨of_decide_eq_true, decide_eq_true⟩
  rw [unpacked, floatRank, floatRank]
  exact unpackedLt_iff_rank_lt (unpack_ne_notANumber number) (unpack_ne_notANumber number')

end SeamCarving

import Mathlib

/-!
# Laws of float arithmetic

Floats are rounded after each operation, so of the laws of arithmetic only those survive that change nothing before
the rounding. Main statements: addition commutes (`floatAdd_comm`), and the square of a difference does not depend
on which number is taken from which (`floatSub_mul_self_comm`). Both hold for all floats, for infinities and for what
is not a number as well. The second rests on rounding being the same on both sides of zero.
-/

namespace SeamCarving

open Float.Model

variable (format : Format)

theorem unpackedAdd_comm (first second : UnpackedFloat) : first.add format second = second.add format first := by
  cases first with
  | notANumber => cases second <;> rfl
  | infinity sign =>
      cases second with
      | infinity sign' => cases sign <;> cases sign' <;> rfl
      | _ => rfl
  | zero sign =>
      cases second with
      | zero sign' => cases sign <;> cases sign' <;> rfl
      | _ => rfl
  | finite sign mantissa exponent positive =>
      cases second with
      | finite sign' mantissa' exponent' positive' =>
          simp only [UnpackedFloat.add, min_comm exponent exponent', Int.add_comm]
      | _ => rfl

/-! ## Rounding on both sides of zero -/

theorem unpackedRoundWithAccuracy_abs (sign : UnpackedFloat.Sign) (mantissa : ℕ) (exponent : ℤ)
    (accuracy : UnpackedFloat.Accuracy) :
    (UnpackedFloat.roundWithAccuracy format sign mantissa exponent accuracy).abs =
      UnpackedFloat.roundWithAccuracy format .positive mantissa exponent accuracy := by
  unfold UnpackedFloat.roundWithAccuracy
  dsimp only
  split <;> rfl

theorem unpackedRound_abs (sign : UnpackedFloat.Sign) (mantissa : ℕ) (exponent : ℤ) :
    (UnpackedFloat.round format sign mantissa exponent).abs =
      UnpackedFloat.round format .positive mantissa exponent :=
  unpackedRoundWithAccuracy_abs format sign _ _ _

/-- A number and its negative are rounded to the same magnitude. -/
theorem unpackedNormalize_neg_abs (mantissa exponent : ℤ) (sign sign' : UnpackedFloat.Sign) :
    (UnpackedFloat.normalize format (-mantissa) exponent sign).abs =
      (UnpackedFloat.normalize format mantissa exponent sign').abs := by
  unfold UnpackedFloat.normalize
  rcases lt_trichotomy mantissa 0 with below | rfl | above
  · rw [compare_lt_iff_lt.2 below, compare_gt_iff_gt.2 (Int.neg_pos_of_neg below)]
    simp only [unpackedRound_abs]
  · rfl
  · rw [compare_gt_iff_gt.2 above, compare_lt_iff_lt.2 (Int.neg_neg_of_pos above), Int.neg_neg]
    simp only [unpackedRound_abs]

theorem unpackedSub_abs_comm (first second : UnpackedFloat) :
    (first.sub format second).abs = (second.sub format first).abs := by
  cases first with
  | notANumber => cases second <;> rfl
  | infinity sign =>
      cases second with
      | infinity sign' => cases sign <;> cases sign' <;> rfl
      | _ => rfl
  | zero sign =>
      cases second with
      | zero sign' => cases sign <;> cases sign' <;> rfl
      | _ => rfl
  | finite sign mantissa exponent positive =>
      cases second with
      | finite sign' mantissa' exponent' positive' =>
          simp only [UnpackedFloat.sub, min_comm exponent' exponent]
          rw [← Int.neg_sub]
          exact unpackedNormalize_neg_abs _ _ _ _ _
      | _ => rfl

/-! ## Storing on both sides of zero -/

/-- The sign has a bit of its own. -/
theorem unpack_packComponents_abs (sign : UnpackedFloat.Sign) (exponent : BitVec format.exponentBits)
    (mantissa : BitVec format.mantissaBitsWithoutImplicit) :
    (UnpackedFloat.unpack format (UnpackedFloat.packComponents format sign exponent mantissa)).abs =
      UnpackedFloat.unpack format (UnpackedFloat.packComponents format .positive exponent mantissa) := by
  simp only [UnpackedFloat.unpack, UnpackedFloat.unpackExponent_packComponents,
    UnpackedFloat.unpackMantissa_packComponents, UnpackedFloat.unpackSign_packComponents,
    UnpackedFloat.Sign.ofBitVec_toBitVec]
  split_ifs <;> rfl

theorem unpack_pack_abs (number : UnpackedFloat) :
    (UnpackedFloat.unpack format (UnpackedFloat.pack format number)).abs =
      UnpackedFloat.unpack format (UnpackedFloat.pack format number.abs) := by
  cases number with
  | notANumber =>
      rw [UnpackedFloat.pack, UnpackedFloat.unpack_packedNaN]
      exact UnpackedFloat.unpack_packedNaN.symm
  | infinity sign => exact unpack_packComponents_abs _ _ _ _
  | zero sign => exact unpack_packComponents_abs _ _ _ _
  | finite sign mantissa exponent positive =>
      simp only [UnpackedFloat.pack, UnpackedFloat.abs, UnpackedFloat.packedInfinity]
      split_ifs <;> exact unpack_packComponents_abs _ _ _ _

theorem unpackedMul_self (number : UnpackedFloat) :
    number.mul format number = number.abs.mul format number.abs := by
  cases number with
  | notANumber => rfl
  | infinity sign => cases sign <;> rfl
  | zero sign => cases sign <;> rfl
  | finite sign mantissa exponent positive => cases sign <;> rfl

/-! ## Floats -/

theorem floatAdd_comm (first second : Float) : first + second = second + first :=
  congrArg (fun sum => Float.ofModel (.pack sum))
    (unpackedAdd_comm .binary64 first.toModel.unpack second.toModel.unpack)

/-- A square does not depend on the sign. -/
theorem floatMul_self (number : Float) :
    number * number = .ofModel (.pack (number.toModel.unpack.abs.mul .binary64 number.toModel.unpack.abs)) :=
  congrArg (fun product => Float.ofModel (.pack product)) (unpackedMul_self .binary64 number.toModel.unpack)

theorem floatSub_mul_self_comm (first second : Float) :
    (first - second) * (first - second) = (second - first) * (second - first) := by
  have magnitude : (first - second).toModel.unpack.abs = (second - first).toModel.unpack.abs := by
    calc (first - second).toModel.unpack.abs
      _ = UnpackedFloat.unpack .binary64 (UnpackedFloat.pack .binary64
            (first.toModel.unpack.sub .binary64 second.toModel.unpack).abs) := unpack_pack_abs .binary64 _
      _ = UnpackedFloat.unpack .binary64 (UnpackedFloat.pack .binary64
            (second.toModel.unpack.sub .binary64 first.toModel.unpack).abs) := by rw [unpackedSub_abs_comm]
      _ = (second - first).toModel.unpack.abs := (unpack_pack_abs .binary64 _).symm
  rw [floatMul_self, floatMul_self, magnitude]

end SeamCarving

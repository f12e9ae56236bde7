import Mathlib
import SeamCarving.Proofs.Energy.Rounding

/-!
# Floats that stand for magnitudes

A finite float that is not negative stands for a rational number of which it is the only writing, up to the sign of
zero: `Magnitude` says that an unpacked float stands for a number in this way, and `IsMagnitude` says it of floats. Main
statements: sums, products and quotients of such floats stand for the exact results, rounded once (`IsMagnitude.add`,
`IsMagnitude.mul`, `IsMagnitude.div`), and they compare as the numbers do (`IsMagnitude.le_iff`). A zero may have either
sign, and a result has to be small enough, as one that is too large becomes infinite when it is stored.
-/

namespace SeamCarving

open Float.Model UnpackedFloat

/-! ## The one writing of a magnitude -/

/-- The mantissa is full, or else the exponent is the least. -/
structure Canonical (mantissa : ℕ) (exponent : ℤ) : Prop where
  small : mantissa < 2 ^ 53
  fine : -1074 ≤ exponent
  full : 2 ^ 52 ≤ mantissa ∨ exponent = -1074

/-- The unpacked float stands for the number, which is not negative, in its one writing. -/
inductive Magnitude : UnpackedFloat → ℚ → Prop
  | zero (sign : Sign) : Magnitude (.zero sign) 0
  | finite {mantissa : ℕ} {exponent : ℤ} (pos : 0 < mantissa) (canonical : Canonical mantissa exponent) :
      Magnitude (.finite .positive mantissa exponent pos) (mantissa * 2 ^ exponent)

theorem targetExponent_eq (mantissa : ℕ) (exponent : ℤ) :
    Format.targetExponent .binary64 (totalExponent mantissa exponent) =
      max (mantissa.log2 + exponent - 52) (-1074) := by
  rw [totalExponent]
  change max (_ - 53 : ℤ) (-1074) = _
  omega

/-- The number that a mantissa and what is left of it stand for is rounded at the exponent that they are shifted to. -/
theorem targetExponent_eq_lastExponent {mantissa : ℕ} {exponent : ℤ} {number : ℚ} {accuracy : Accuracy}
    (located : Locates mantissa number accuracy) (pos : 0 < number)
    (fine : exponent ≤ Format.targetExponent .binary64 (totalExponent mantissa exponent)) :
    Format.targetExponent .binary64 (totalExponent mantissa exponent) = lastExponent (number * 2 ^ exponent) := by
  rw [targetExponent_eq] at fine ⊢
  rcases Nat.eq_zero_or_pos mantissa with rfl | mantissa_pos
  · -- nothing is above the least exponent
    have below : number * 2 ^ exponent < 2 ^ exponent := by
      have less := located.lt_add_one
      rw [Nat.cast_zero, zero_add] at less
      exact mul_lt_of_lt_one_left (two_zpow_pos _) less
    have log := (Int.lt_zpow_iff_log_lt Nat.one_lt_two (mul_pos pos (two_zpow_pos exponent))).1 below
    rw [Nat.log2_zero] at fine ⊢
    unfold lastExponent
    omega
  · have ⟨low, high⟩ := (Nat.log2_eq_iff (Nat.ne_of_gt mantissa_pos)).1 rfl
    have log : Int.log 2 (number * 2 ^ exponent) = mantissa.log2 + exponent := by
      refine log_eq_of_bounds ?_ ?_
      · rw [two_zpow_add, zpow_natCast]
        refine mul_le_mul_of_nonneg_right ?_ (two_zpow_pos _).le
        exact le_trans (by exact_mod_cast low) located.le
      · rw [add_right_comm, two_zpow_add]
        refine mul_lt_mul_of_pos_right ?_ (two_zpow_pos _)
        exact located.lt_add_one.trans_le (by exact_mod_cast high)
    rw [lastExponent, log]

theorem shiftToTargetExponent_of_le {mantissa : ℕ} {exponent : ℤ}
    (wide : Format.targetExponent .binary64 (totalExponent mantissa exponent) ≤ exponent) :
    shiftToTargetExponent .binary64 mantissa exponent .exact = (⟨mantissa, false, false⟩, exponent) := by
  have amount := Int.toNat_eq_zero.2 (sub_nonpos.2 wide)
  unfold shiftToTargetExponent shiftToExponent
  simp only [amount]
  exact Prod.ext rfl (add_zero exponent)

/-- A mantissa that has become too large by being rounded up is shifted once more. -/
theorem shiftToTargetExponent_overfull {exponent : ℤ} (fine : -1074 ≤ exponent) :
    shiftToTargetExponent .binary64 (2 ^ 53) exponent .exact = (⟨2 ^ 52, false, false⟩, exponent + 1) := by
  have target : Format.targetExponent .binary64 (totalExponent (2 ^ 53) exponent) = exponent + 1 := by
    rw [targetExponent_eq, Nat.log2_two_pow]
    omega
  have amount : (exponent + 1 - exponent).toNat = 1 := by omega
  unfold shiftToTargetExponent shiftToExponent
  rw [target]
  simp only [amount]
  rfl

/-- After a mantissa has been rounded, no more than one shift is left until it is canonical. -/
theorem magnitude_of_shifted {kept : ℕ} {last : ℤ} (small : kept ≤ 2 ^ 53) (least : -1074 ≤ last)
    (full : -1074 < last → 2 ^ 52 ≤ kept) {result : ExtendedMantissa × ℤ}
    (shifted : shiftToTargetExponent .binary64 kept last .exact = result) :
    Magnitude (if none : result.1.mantissa = 0 then .zero .positive
      else .finite .positive result.1.mantissa result.2 (Nat.pos_of_ne_zero none)) (kept * 2 ^ last) := by
  rcases small.lt_or_eq with fits | rfl
  · have wide : Format.targetExponent .binary64 (totalExponent kept last) ≤ last := by
      rw [targetExponent_eq]
      rcases Nat.eq_zero_or_pos kept with rfl | kept_pos
      · rw [Nat.log2_zero]
        omega
      · have bits := log2_lt_of_small kept_pos fits
        omega
    have canonical : Canonical kept last := ⟨fits, least, by omega⟩
    rw [shiftToTargetExponent_of_le wide] at shifted
    subst shifted
    rcases Nat.eq_zero_or_pos kept with rfl | kept_pos
    · rw [dif_pos rfl, Nat.cast_zero, zero_mul]
      exact .zero .positive
    · rw [dif_neg kept_pos.ne']
      exact .finite kept_pos canonical
  · have value : ((2 ^ 53 : ℕ) : ℚ) * 2 ^ last = (2 ^ 52 : ℕ) * 2 ^ (last + 1) := by
      rw [two_zpow_add, zpow_one]
      push_cast
      ring
    have canonical : Canonical (2 ^ 52) (last + 1) := ⟨by decide, by omega, Or.inl le_rfl⟩
    have kept_pos : 0 < 2 ^ 52 := by decide
    rw [shiftToTargetExponent_overfull least] at shifted
    subst shifted
    rw [dif_neg kept_pos.ne', value]
    exact .finite kept_pos canonical

/-- What an inexact mantissa is rounded to stands for the rounded number. -/
theorem magnitude_roundWithAccuracy {mantissa : ℕ} {exponent : ℤ} {number : ℚ} {accuracy : Accuracy}
    (located : Locates mantissa number accuracy) (pos : 0 < number)
    (fine : exponent ≤ Format.targetExponent .binary64 (totalExponent mantissa exponent)) :
    Magnitude (roundWithAccuracy .binary64 .positive mantissa exponent accuracy) (rounded (number * 2 ^ exponent)) := by
  have target := targetExponent_eq_lastExponent located pos fine
  rw [target] at fine
  obtain ⟨shift, shift_eq⟩ := Int.le.dest fine
  have amount : (lastExponent (number * 2 ^ exponent) - exponent).toNat = shift := by omega
  have shifted : shiftToTargetExponent .binary64 mantissa exponent accuracy =
      (ExtendedMantissa.ofMantissaAndAccuracy mantissa accuracy >>> shift, lastExponent (number * 2 ^ exponent)) := by
    unfold shiftToTargetExponent shiftToExponent
    rw [target]
    simp only [amount, shift_eq]
  have nearest : (ExtendedMantissa.ofMantissaAndAccuracy mantissa accuracy >>> shift).roundedMantissa =
      nearestEven (number * 2 ^ exponent / 2 ^ lastExponent (number * 2 ^ exponent)) := by
    have start : Locates (ExtendedMantissa.ofMantissaAndAccuracy mantissa accuracy).mantissa number
        (ExtendedMantissa.ofMantissaAndAccuracy mantissa accuracy).accuracy := by
      rwa [mantissa_ofMantissaAndAccuracy, accuracy_ofMantissaAndAccuracy]
    have same : number * 2 ^ exponent / 2 ^ lastExponent (number * 2 ^ exponent) = number / 2 ^ shift := by
      rw [← shift_eq, two_zpow_add, zpow_natCast, mul_comm (2 ^ exponent : ℚ),
        mul_div_mul_right _ _ (two_zpow_pos exponent).ne']
    rw [same]
    exact (locates_shiftRight start shift).roundToNearestEven_eq
  unfold roundWithAccuracy rounded
  simp only [shifted, nearest]
  exact magnitude_of_shifted (nearestEven_div_le _) (le_max_right _ _)
    (le_nearestEven_div (mul_pos pos (two_zpow_pos exponent))) rfl

/-! ## Operations -/

/-- A number of a quotient's bits is known from those of its parts. -/
theorem log2_le_log2_div (dividend : ℕ) {divisor : ℕ} (pos : 0 < divisor) (pos' : 0 < dividend) :
    dividend.log2 ≤ (dividend / divisor).log2 + divisor.log2 + 1 := by
  have less : dividend < 2 ^ ((dividend / divisor).log2 + divisor.log2 + 2) := by
    calc dividend
      _ < (dividend / divisor + 1) * divisor := Nat.lt_mul_of_div_lt (Nat.lt_succ_self _) pos
      _ ≤ 2 ^ ((dividend / divisor).log2 + 1) * 2 ^ (divisor.log2 + 1) :=
          Nat.mul_le_mul Nat.lt_log2_self Nat.lt_log2_self.le
      _ = 2 ^ ((dividend / divisor).log2 + divisor.log2 + 2) := by ring
  exact Nat.lt_succ_iff.1 ((Nat.log2_lt pos'.ne').2 less)

/-- The division is carried far enough for its quotient to be rounded, and says how the exact quotient lies. -/
theorem locates_divCore {mantissa mantissa' : ℕ} (pos : 0 < mantissa) (pos' : 0 < mantissa') (exponent exponent' : ℤ) :
    let quotient := divCore .binary64 mantissa exponent mantissa' exponent'
    ∃ rest : ℚ, Locates quotient.1 rest quotient.2.2 ∧ 0 < rest ∧
      quotient.2.1 ≤ Format.targetExponent .binary64 (totalExponent quotient.1 quotient.2.1) ∧
      rest * 2 ^ quotient.2.1 = mantissa * 2 ^ exponent / (mantissa' * 2 ^ exponent') := by
  have least := min_le_right (exponent - exponent') (Format.targetExponent .binary64
    (totalExponent mantissa exponent - totalExponent mantissa' exponent'))
  obtain ⟨shift, shift_eq⟩ := Int.le.dest (min_le_left (exponent - exponent') (Format.targetExponent .binary64
    (totalExponent mantissa exponent - totalExponent mantissa' exponent')))
  simp only [divCore]
  generalize min (exponent - exponent') _ = last at least shift_eq ⊢
  have amount : (exponent - exponent' - last).toNat = shift := by omega
  have shifted_pos : 0 < mantissa * 2 ^ shift := by positivity
  rw [amount, Nat.shiftLeft_eq]
  refine ⟨(mantissa * 2 ^ shift : ℕ) / mantissa', locates_div pos', by positivity, ?_, ?_⟩
  · -- the quotient has as many bits as the total exponents promise, or one more
    have bits := log2_le_log2_div (mantissa * 2 ^ shift) pos' shifted_pos
    rw [log2_mul_two_pow pos] at bits
    rw [targetExponent_eq]
    change last ≤ max (totalExponent mantissa exponent - totalExponent mantissa' exponent' - 53 : ℤ) (-1074) at least
    unfold totalExponent at least
    omega
  · have split : exponent = last + shift + exponent' := by omega
    have nonzero := (two_zpow_pos exponent').ne'
    rw [split, two_zpow_add, two_zpow_add, zpow_natCast]
    push_cast
    field_simp

theorem Canonical.exponent_le_zero {mantissa : ℕ} {exponent : ℤ} (canonical : Canonical mantissa exponent)
    (small : (mantissa : ℚ) * 2 ^ exponent < 2 ^ 53) : exponent ≤ 0 := by
  by_contra! above
  have full : 2 ^ 52 ≤ mantissa := canonical.full.resolve_right (by omega)
  have large : (2 : ℚ) ^ 53 ≤ mantissa * 2 ^ exponent := by
    calc (2 : ℚ) ^ 53
      _ = 2 ^ 52 * 2 ^ (1 : ℤ) := by norm_num
      _ ≤ mantissa * 2 ^ exponent := by
          refine mul_le_mul (by exact_mod_cast full) ?_ (two_zpow_pos _).le (Nat.cast_nonneg _)
          exact zpow_le_zpow_right₀ one_le_two above
  exact absurd small large.not_gt

theorem Canonical.rounded_eq {mantissa : ℕ} {exponent : ℤ} (canonical : Canonical mantissa exponent)
    (pos : 0 < mantissa) : rounded (mantissa * 2 ^ exponent) = mantissa * 2 ^ exponent :=
  rounded_eq_self pos canonical.small canonical.fine

/-- Written with a smaller exponent, a mantissa still stands for the same number. -/
theorem decreaseExponent_eq (mantissa : ℕ) {exponent least : ℤ} (le : least ≤ exponent) :
    ((decreaseExponent mantissa exponent least).1 : ℚ) * 2 ^ least = mantissa * 2 ^ exponent := by
  obtain ⟨shift, rfl⟩ := Int.le.dest le
  have amount : (least + shift - least).toNat = shift := by omega
  simp only [decreaseExponent, amount, Nat.shiftLeft_eq]
  rw [two_zpow_add, zpow_natCast]
  push_cast
  ring

theorem magnitude_round {mantissa : ℕ} (pos : 0 < mantissa) (exponent : ℤ) :
    Magnitude (UnpackedFloat.round .binary64 .positive mantissa exponent) (rounded (mantissa * 2 ^ exponent)) := by
  simp only [UnpackedFloat.round, decreaseExponent, Nat.shiftLeft_eq]
  generalize target_eq : Format.targetExponent .binary64 (totalExponent mantissa exponent) = target
  generalize shift_eq : (exponent - target).toNat = shift
  have value : (mantissa : ℚ) * 2 ^ exponent = (mantissa * 2 ^ shift : ℕ) * 2 ^ (exponent - shift) := by
    have split : exponent = shift + (exponent - shift) := by omega
    conv_lhs => rw [split, two_zpow_add, zpow_natCast]
    push_cast
    ring
  have shifted_pos : 0 < mantissa * 2 ^ shift := by positivity
  have fine : exponent - shift ≤ Format.targetExponent .binary64
      (totalExponent (mantissa * 2 ^ shift) (exponent - shift)) := by
    rw [targetExponent_eq] at target_eq ⊢
    rw [log2_mul_two_pow pos]
    push_cast
    omega
  rw [value]
  exact magnitude_roundWithAccuracy (show Locates _ _ .exact from rfl) (Nat.cast_pos.2 shifted_pos) fine

namespace Magnitude

variable {first second : UnpackedFloat} {number other : ℚ}

theorem nonneg (magnitude : Magnitude first number) : 0 ≤ number := by
  cases magnitude with
  | zero sign => exact le_rfl
  | finite pos canonical => exact mul_nonneg (Nat.cast_nonneg _) (two_zpow_pos _).le

/-- A quotient is rounded once. -/
theorem div (magnitude : Magnitude first number) (magnitude' : Magnitude second other) (pos : 0 < other) :
    Magnitude (first.div .binary64 second) (rounded (number / other)) := by
  cases magnitude' with
  | zero sign' => exact absurd pos (lt_irrefl 0)
  | @finite mantissa' exponent' pos' canonical' =>
      cases magnitude with
      | zero sign =>
          rw [zero_div, rounded_of_nonpos le_rfl]
          exact .zero _
      | @finite mantissa exponent pos canonical =>
          obtain ⟨rest, located, rest_pos, fine, value⟩ := locates_divCore pos pos' exponent exponent'
          rw [← value]
          exact magnitude_roundWithAccuracy located rest_pos fine

/-- A product is rounded once. -/
theorem mul (magnitude : Magnitude first number) (magnitude' : Magnitude second other) (small : other < 2 ^ 53) :
    Magnitude (first.mul .binary64 second) (rounded (number * other)) := by
  cases magnitude' with
  | zero sign' =>
      rw [mul_zero, rounded_of_nonpos le_rfl]
      cases magnitude <;> exact .zero _
  | @finite mantissa' exponent' pos' canonical' =>
      cases magnitude with
      | zero sign =>
          rw [zero_mul, rounded_of_nonpos le_rfl]
          exact .zero _
      | @finite mantissa exponent pos canonical =>
          have value : (mantissa * 2 ^ exponent : ℚ) * (mantissa' * 2 ^ exponent') =
              (mantissa * mantissa' : ℕ) * 2 ^ (exponent + exponent') := by
            rw [two_zpow_add]
            push_cast
            ring
          have fine : exponent + exponent' ≤ Format.targetExponent .binary64
              (totalExponent (mantissa * mantissa') (exponent + exponent')) := by
            have low := canonical'.exponent_le_zero small
            rw [targetExponent_eq]
            -- with a full mantissa the product has more bits than are kept, and else it is below the least exponent
            rcases canonical.full with full | least
            · have bits : 52 ≤ (mantissa * mantissa').log2 :=
                (Nat.le_log2 (by positivity)).2 (full.trans (Nat.le_mul_of_pos_right _ pos'))
              omega
            · omega
          have signs : (Sign.positive * Sign.positive : Sign) = .positive := rfl
          have product_pos : (0 : ℚ) < (mantissa * mantissa' : ℕ) := by exact_mod_cast Nat.mul_pos pos pos'
          simp only [UnpackedFloat.mul, signs]
          rw [value]
          exact magnitude_roundWithAccuracy (show Locates _ _ .exact from rfl) product_pos fine

/-- A sum is rounded once. -/
theorem add (magnitude : Magnitude first number) (magnitude' : Magnitude second other) :
    Magnitude (first.add .binary64 second) (rounded (number + other)) := by
  cases magnitude with
  | zero sign =>
      rw [zero_add]
      cases magnitude' with
      | zero sign' =>
          rw [rounded_of_nonpos le_rfl]
          simp only [UnpackedFloat.add]
          split <;> exact .zero _
      | finite pos' canonical' =>
          rw [canonical'.rounded_eq pos']
          exact .finite pos' canonical'
  | @finite mantissa exponent pos canonical =>
      cases magnitude' with
      | zero sign' =>
          rw [add_zero, canonical.rounded_eq pos]
          exact .finite pos canonical
      | @finite mantissa' exponent' pos' canonical' =>
          have value := decreaseExponent_eq mantissa (min_le_left exponent exponent')
          have value' := decreaseExponent_eq mantissa' (min_le_right exponent exponent')
          rw [← value, ← value', ← add_mul]
          simp only [UnpackedFloat.add]
          have left_pos : 0 < (decreaseExponent mantissa exponent (min exponent exponent')).1 := by
            simp only [decreaseExponent, Nat.shiftLeft_eq]
            positivity
          generalize (decreaseExponent mantissa exponent (min exponent exponent')).1 = left at left_pos ⊢
          generalize (decreaseExponent mantissa' exponent' (min exponent exponent')).1 = right
          have sum : Sign.positive.apply left + Sign.positive.apply right = ((left + right : ℕ) : ℤ) :=
            (Nat.cast_add left right).symm
          have sum_pos : 0 < left + right := by omega
          rw [sum, normalize_of_pos (by exact_mod_cast sum_pos), Int.toNat_natCast, ← Nat.cast_add]
          exact magnitude_round sum_pos _

end Magnitude

/-! ## Storing -/

/-- A number whose exponent is the least and whose mantissa is not full is stored as it is, without the bit that full
    mantissas have in common. -/
theorem unpack_pack_least (sign : Sign) {mantissa : ℕ} (pos : 0 < mantissa) (small : mantissa < 2 ^ 52) :
    UnpackedFloat.unpack .binary64 (UnpackedFloat.pack .binary64 (.finite sign mantissa (-1074) pos)) =
      .finite sign mantissa (-1074) pos := by
  have kept : (BitVec.ofNat 52 mantissa).toNat = mantissa := by
    rw [BitVec.toNat_ofNat, Nat.mod_eq_of_lt small]
  have some : BitVec.ofNat 52 mantissa ≠ 0#52 := by
    intro none
    rw [none] at kept
    exact pos.ne kept
  have short : mantissa.log2 + 1 ≠ Format.mantissaBits .binary64 := by
    have bits : mantissa.log2 < 52 := (Nat.log2_lt pos.ne').2 small
    change mantissa.log2 + 1 ≠ 53
    omega
  have stored : (-1074 + (Format.exponentBias .binary64 : ℕ) + (52 : ℕ) : ℤ).toNat = 1 := by decide
  have packed : UnpackedFloat.pack .binary64 (.finite sign mantissa (-1074) pos) =
      packComponents .binary64 sign 0#11 (BitVec.ofNat 52 mantissa) := by
    unfold UnpackedFloat.pack
    have few : ¬ 2 ^ 11 ≤ 1 + 1 := by decide
    simp only [stored, few, short, ↓reduceIte]
  have not_top : 0#11 ≠ -1#11 := by decide
  rw [packed]
  unfold UnpackedFloat.unpack
  simp only [unpackExponent_packComponents, unpackMantissa_packComponents, unpackSign_packComponents,
    Sign.ofBitVec_toBitVec, not_top, some, ↓reduceIte, ↓reduceDIte, kept]
  rfl

/-- What is stored as a finite float is canonical. -/
theorem canonical_unpack {bits : BitVec 64} {sign : Sign} {mantissa : ℕ} {exponent : ℤ} {pos : 0 < mantissa}
    (unpacked : UnpackedFloat.unpack .binary64 bits = .finite sign mantissa exponent pos) :
    Canonical mantissa exponent := by
  have short : (@unpackMantissa .binary64 bits).toNat < 2 ^ 52 := BitVec.isLt _
  unfold UnpackedFloat.unpack at unpacked
  dsimp only at unpacked
  split_ifs at unpacked with top none bottom none
  · obtain ⟨-, rfl, rfl⟩ := UnpackedFloat.finite.inj unpacked
    have least : ((@unpackExponent .binary64 bits).toNat - (1023 + 52) + 1 : ℤ) = -1074 := by
      rw [bottom]
      rfl
    exact ⟨by omega, least.ge, Or.inr least⟩
  · obtain ⟨-, rfl, rfl⟩ := UnpackedFloat.finite.inj unpacked
    have joined : (1#1 ++ @unpackMantissa .binary64 bits).toNat = 2 ^ 52 + (@unpackMantissa .binary64 bits).toNat := by
      rw [BitVec.toNat_append, Nat.shiftLeft_eq, Nat.mul_comm]
      exact (Nat.two_pow_add_eq_or_of_lt short 1).symm
    have biased_pos : 0 < (@unpackExponent .binary64 bits).toNat := by
      refine Nat.pos_of_ne_zero fun zero => bottom ?_
      exact BitVec.eq_of_toNat_eq zero
    refine ⟨by omega, ?_, Or.inl (by omega)⟩
    change (-1074 : ℤ) ≤ (@unpackExponent .binary64 bits).toNat - (1023 + 52)
    omega

namespace Magnitude

variable {first second : UnpackedFloat} {number other : ℚ}

/-- A magnitude that is small enough is stored without loss. -/
theorem unpack_pack (magnitude : Magnitude first number) (small : number < 2 ^ 53) :
    UnpackedFloat.unpack .binary64 (UnpackedFloat.pack .binary64 first) = first := by
  cases magnitude with
  | zero sign => cases sign <;> rfl
  | @finite mantissa exponent pos canonical =>
      rcases Nat.lt_or_ge mantissa (2 ^ 52) with short | full
      · obtain rfl : exponent = -1074 := canonical.full.resolve_left (by omega)
        exact unpack_pack_least .positive pos short
      · have bits : mantissa.log2 = 52 := (Nat.log2_eq_iff pos.ne').2 ⟨full, canonical.small⟩
        exact unpack_pack_full .positive pos bits canonical.fine (canonical.exponent_le_zero small)

/-- The order of the writings is that of the magnitudes. -/
theorem lt_of_rank_lt (magnitude : Magnitude first number) (magnitude' : Magnitude second other)
    (less : unpackedRank first < unpackedRank second) : number < other := by
  cases magnitude with
  | zero sign =>
      cases magnitude' with
      | zero sign' => exact absurd less (lt_irrefl _)
      | finite pos' canonical' => exact mul_pos (Nat.cast_pos.2 pos') (two_zpow_pos _)
  | @finite mantissa exponent pos canonical =>
      cases magnitude' with
      | zero sign' =>
          dsimp only [unpackedRank] at less
          simp [Prod.Lex.toLex_lt_toLex] at less
      | @finite mantissa' exponent' pos' canonical' =>
          have order : exponent < exponent' ∨ exponent = exponent' ∧ mantissa < mantissa' := by
            simpa [unpackedRank, Prod.Lex.toLex_lt_toLex] using less
          rcases order with lower | ⟨rfl, smaller⟩
          · -- the greater exponent is not the least, so its mantissa is full and a power of two lies between both
            have full : 2 ^ 52 ≤ mantissa' := canonical'.full.resolve_right (by have := canonical.fine; omega)
            have fits := canonical.small
            calc (mantissa : ℚ) * 2 ^ exponent
              _ < 2 ^ 53 * 2 ^ exponent := mul_lt_mul_of_pos_right (by exact_mod_cast fits) (two_zpow_pos _)
              _ = 2 ^ 52 * 2 ^ (exponent + 1) := by
                  rw [two_zpow_add, zpow_one]
                  ring
              _ ≤ mantissa' * 2 ^ exponent' := by
                  refine mul_le_mul (by exact_mod_cast full) ?_ (two_zpow_pos _).le (Nat.cast_nonneg _)
                  exact zpow_le_zpow_right₀ one_le_two lower
          · exact mul_lt_mul_of_pos_right (Nat.cast_lt.2 smaller) (two_zpow_pos _)

theorem eq_of_rank_eq (magnitude : Magnitude first number) (magnitude' : Magnitude second other)
    (same : unpackedRank first = unpackedRank second) : number = other := by
  cases magnitude with
  | zero sign =>
      cases magnitude' with
      | zero sign' => rfl
      | finite pos' canonical' => simp [unpackedRank] at same
  | @finite mantissa exponent pos canonical =>
      cases magnitude' with
      | zero sign' => simp [unpackedRank] at same
      | @finite mantissa' exponent' pos' canonical' =>
          obtain ⟨rfl, rfl⟩ : exponent = exponent' ∧ mantissa = mantissa' := by simpa [unpackedRank] using same
          rfl

theorem rank_lt_rank_iff (magnitude : Magnitude first number) (magnitude' : Magnitude second other) :
    unpackedRank first < unpackedRank second ↔ number < other := by
  refine ⟨magnitude.lt_of_rank_lt magnitude', ?_⟩
  intro less
  rcases lt_trichotomy (unpackedRank first) (unpackedRank second) with below | same | above
  · exact below
  · exact absurd (magnitude.eq_of_rank_eq magnitude' same) less.ne
  · exact absurd (magnitude'.lt_of_rank_lt magnitude above) less.not_gt

theorem le_iff (magnitude : Magnitude first number) (magnitude' : Magnitude second other) :
    first.le second = true ↔ number ≤ other := by
  rw [← not_lt, ← magnitude'.rank_lt_rank_iff magnitude]
  cases magnitude with
  | zero sign =>
      cases magnitude' <;> dsimp only [UnpackedFloat.le, UnpackedFloat.compare, unpackedRank] <;>
        simp [Prod.Lex.toLex_lt_toLex]
  | @finite mantissa exponent pos canonical =>
      cases magnitude' with
      | zero sign' =>
          dsimp only [UnpackedFloat.le, UnpackedFloat.compare, unpackedRank]
          simp [Prod.Lex.toLex_lt_toLex]
      | @finite mantissa' exponent' pos' canonical' =>
          dsimp only [UnpackedFloat.le, UnpackedFloat.compare, unpackedRank]
          rw [Option.any_some, Ordering.isLE_iff_ne_gt, magnitude_gt_iff]
          simp [Prod.Lex.toLex_lt_toLex, eq_comm]

end Magnitude

/-! ## Floats -/

/-- The float stands for the number, which is not negative. -/
def IsMagnitude (float : Float) (number : ℚ) : Prop :=
  Magnitude float.toModel.unpack number

theorem Magnitude.isMagnitude {unpacked : UnpackedFloat} {number : ℚ} (magnitude : Magnitude unpacked number)
    (small : number < 2 ^ 53) : IsMagnitude (.ofModel (.pack unpacked)) number := by
  change Magnitude (UnpackedFloat.unpack .binary64 (UnpackedFloat.pack .binary64 unpacked)) number
  rwa [magnitude.unpack_pack small]

/-- A finite float stands for its value if that is not negative. -/
theorem isMagnitude_floatValue {float : Float} (finite : float.isFinite = true) (nonneg : 0 ≤ floatValue float) :
    IsMagnitude float (floatValue float) := by
  have canonical {sign mantissa exponent pos} :
      float.toModel.unpack = .finite sign mantissa exponent pos → Canonical mantissa exponent := canonical_unpack
  change float.toModel.unpack.isFinite = true at finite
  unfold IsMagnitude
  unfold floatValue at nonneg ⊢
  generalize float.toModel.unpack = unpacked at *
  cases unpacked with
  | notANumber => contradiction
  | infinity sign => contradiction
  | zero sign => exact .zero sign
  | finite sign mantissa exponent pos =>
      cases sign with
      | negative =>
          have positive : (0 : ℚ) < mantissa * 2 ^ exponent := mul_pos (Nat.cast_pos.2 pos) (two_zpow_pos _)
          exact absurd nonneg (neg_neg_of_pos positive).not_ge
      | positive => exact .finite pos (canonical rfl)

namespace IsMagnitude

variable {first second : Float} {number other : ℚ}

theorem nonneg (magnitude : IsMagnitude first number) : 0 ≤ number :=
  Magnitude.nonneg magnitude

theorem div (magnitude : IsMagnitude first number) (magnitude' : IsMagnitude second other) (pos : 0 < other)
    (small : rounded (number / other) < 2 ^ 53) : IsMagnitude (first / second) (rounded (number / other)) :=
  (Magnitude.div magnitude magnitude' pos).isMagnitude small

theorem mul (magnitude : IsMagnitude first number) (magnitude' : IsMagnitude second other) (small' : other < 2 ^ 53)
    (small : rounded (number * other) < 2 ^ 53) : IsMagnitude (first * second) (rounded (number * other)) :=
  (Magnitude.mul magnitude magnitude' small').isMagnitude small

theorem add (magnitude : IsMagnitude first number) (magnitude' : IsMagnitude second other)
    (small : rounded (number + other) < 2 ^ 53) : IsMagnitude (first + second) (rounded (number + other)) :=
  (Magnitude.add magnitude magnitude').isMagnitude small

theorem le_iff (magnitude : IsMagnitude first number) (magnitude' : IsMagnitude second other) :
    first ≤ second ↔ number ≤ other := by
  rw [← Magnitude.le_iff magnitude magnitude']
  exact ⟨of_decide_eq_true, decide_eq_true⟩

theorem rank_le_rank_iff (magnitude : IsMagnitude first number) (magnitude' : IsMagnitude second other) :
    floatRank first ≤ floatRank second ↔ number ≤ other := by
  rw [← not_lt, ← not_lt]
  exact not_congr (Magnitude.rank_lt_rank_iff magnitude' magnitude)

end IsMagnitude

end SeamCarving

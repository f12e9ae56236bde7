import Mathlib.Data.List.Induction
import SeamCarving.CommandLine.Run

/-!
# Sizes in words

The texts that the command understands as a size, and which size each of them is. Main statement: a text is read as a
size exactly if it is the decimal notation of a number below two to the power of 32, behind a plus sign or none and
any number of zeros, and then it is read as that number (`parseSize?_eq_some_iff`).
-/

namespace SeamCarving.CommandLine

/-- The text writes the number in decimal digits, after a plus sign or none and any number of zeros. -/
def Writes (text : String) (number : Nat) : Prop :=
  ∃ sign zeros, (sign = [] ∨ sign = ['+']) ∧
    text.toList = sign ++ (List.replicate zeros '0' ++ Nat.toDigits 10 number)

theorem digitChar_of_isDigit {letter : Char} (digit : letter.isDigit) :
    ∃ value, value < 10 ∧ value.digitChar = letter := by
  have range : 48 ≤ letter.toNat ∧ letter.toNat ≤ 57 := by
    simpa [Char.isDigit, UInt32.le_iff_toNat_le] using digit
  refine ⟨letter.toNat - 48, by omega, ?_⟩
  apply Char.toNat_inj.1
  rw [Nat.toNat_digitChar_of_lt_ten (by omega)]
  omega

theorem digitsValue_eq (digits : List Char) : digitsValue digits = Nat.ofDigitChars 10 digits 0 := by
  simp only [digitsValue, Nat.ofDigitChars_eq_foldl, Nat.mul_comm]

/-- Digits are the notation of their value behind zeros. The last digit comes last in the notation, so this goes from
    the left to the right. -/
theorem exists_zeros_toDigits {digits : List Char} (some_digit : digits ≠ [])
    (all_digits : ∀ letter ∈ digits, letter.isDigit) :
    ∃ zeros, digits = List.replicate zeros '0' ++ Nat.toDigits 10 (Nat.ofDigitChars 10 digits 0) := by
  induction digits using List.reverseRecOn with
  | nil => contradiction
  | append_singleton before last ih =>
      obtain ⟨value, small, rfl⟩ := digitChar_of_isDigit (all_digits last (by simp))
      rw [Nat.ofDigitChars_append, Nat.ofDigitChars_cons_digitChar_of_lt_ten small, Nat.ofDigitChars_nil]
      by_cases first : before = []
      · subst first
        exact ⟨0, by simp [Nat.toDigits_of_lt_base small]⟩
      · obtain ⟨zeros, before_eq⟩ := ih first fun letter member => all_digits letter (by simp [member])
        generalize Nat.ofDigitChars 10 before 0 = higher at before_eq ⊢
        rcases Nat.eq_zero_or_pos higher with rfl | positive
        · refine ⟨zeros + 1, ?_⟩
          rw [before_eq, Nat.toDigits_zero, Nat.mul_zero, Nat.zero_add, Nat.toDigits_of_lt_base small,
            List.replicate_succ']
        · refine ⟨zeros, ?_⟩
          rw [← Nat.toDigits_append_toDigits (by decide) positive small, Nat.toDigits_of_lt_base small, before_eq,
            List.append_assoc]

theorem value_of_zeros_toDigits (zeros number : Nat) :
    digitsValue (List.replicate zeros '0' ++ Nat.toDigits 10 number) = number := by
  rw [digitsValue_eq, Nat.ofDigitChars_append, Nat.ofDigitChars_replicate_zero, Nat.mul_zero,
    Nat.ofDigitChars_ten_toDigits]

theorem isDigit_of_mem_zeros_toDigits {zeros number : Nat} {letter : Char}
    (member : letter ∈ List.replicate zeros '0' ++ Nat.toDigits 10 number) : letter.isDigit := by
  rcases List.mem_append.1 member with zero | digit
  · rw [List.eq_of_mem_replicate zero]
    rfl
  · exact Nat.isDigit_of_mem_toDigits (by decide) (by decide) digit

/-- What is read from the letters behind the sign. -/
theorem readDigits_iff {digits : List Char} {size : Nat} :
    (if !digits.isEmpty ∧ digits.all Char.isDigit ∧ digitsValue digits < UInt32.size then
      some (digitsValue digits) else none) = some size ↔
    (∃ zeros, digits = List.replicate zeros '0' ++ Nat.toDigits 10 size) ∧ size < UInt32.size := by
  constructor
  · intro read
    obtain ⟨⟨some_digit, all_digits, small⟩, value_eq⟩ := Option.ite_none_right_eq_some.1 read
    rw [Option.some.injEq] at value_eq
    subst value_eq
    rw [digitsValue_eq] at small ⊢
    exact ⟨exists_zeros_toDigits (by simpa using some_digit) (List.all_eq_true.1 all_digits), small⟩
  · rintro ⟨⟨zeros, rfl⟩, small⟩
    rw [value_of_zeros_toDigits, if_pos]
    refine ⟨by simp, ?_, small⟩
    exact List.all_eq_true.2 fun letter member => isDigit_of_mem_zeros_toDigits member

/-- A text that is read as a size is the notation of the size, and the notation of every number that fits in 32 bits
    is read. -/
theorem parseSize?_eq_some_iff {text : String} {size : Nat} :
    parseSize? text = some size ↔ Writes text size ∧ size < UInt32.size := by
  refine readDigits_iff.trans (and_congr_left fun small => ?_)
  unfold Writes
  split
  · next rest signed =>
      constructor
      · rintro ⟨zeros, rfl⟩
        exact ⟨['+'], zeros, Or.inr rfl, signed⟩
      · rintro ⟨sign, zeros, rfl | rfl, text_eq⟩
        · -- a plus sign is no digit
          have member : '+' ∈ List.replicate zeros '0' ++ Nat.toDigits 10 size := by
            rw [← List.nil_append (_ ++ _), ← text_eq, signed]
            exact List.mem_cons_self
          have digit := isDigit_of_mem_zeros_toDigits member
          contradiction
        · rw [signed] at text_eq
          exact ⟨zeros, (List.cons.inj text_eq).2⟩
  · next plain =>
      constructor
      · rintro ⟨zeros, text_eq⟩
        exact ⟨[], zeros, Or.inl rfl, text_eq⟩
      · rintro ⟨sign, zeros, rfl | rfl, text_eq⟩
        · exact ⟨zeros, text_eq⟩
        · exact absurd text_eq (plain _)

example : parseSize? "+0012" = some 12 ∧ parseSize? "4294967296" = none ∧ parseSize? "1e3" = none := by
  decide

end SeamCarving.CommandLine

import Mathlib.Order.Bounds.Defs
import SeamCarving.Proofs.Seam.Removed

/-!
# Why a removal is refused

A removal looks at the size of the picture, at the number of entries, at each entry by itself and at each pair of
neighbouring entries, in this order, and the first offence that it meets decides the error. Main statement: a
removal fails with exactly the error of the first offence, and succeeds if there is none
(`View.removeSeam_eq_error_iff_refuses`).
-/

namespace SeamCarving

section

variable {Offends Named : Nat → Prop}

theorem exists_isLeast_of_zero (offends : Offends 0) :
    (∃ line, IsLeast {line | Offends line} line ∧ Named line) ↔ Named 0 := by
  constructor
  · rintro ⟨line, least, named⟩
    obtain rfl : line = 0 := Nat.le_zero.1 (least.2 offends)
    exact named
  · intro named
    exact ⟨0, ⟨offends, fun other _ => Nat.zero_le other⟩, named⟩

/-- The first of the lines that offend is found behind the line zero if that does not. -/
theorem exists_isLeast_succ_iff (sound : ¬ Offends 0) :
    (∃ line, IsLeast {line | Offends line} line ∧ Named line) ↔
      ∃ line, IsLeast {line | Offends (line + 1)} line ∧ Named (line + 1) := by
  constructor
  · rintro ⟨line, ⟨offends, least⟩, named⟩
    obtain ⟨line, rfl⟩ : ∃ before, line = before + 1 :=
      Nat.exists_eq_succ_of_ne_zero fun zero => sound (zero ▸ offends)
    refine ⟨line, ⟨offends, ?_⟩, named⟩
    intro other later
    exact Nat.le_of_succ_le_succ (least later)
  · rintro ⟨line, ⟨offends, least⟩, named⟩
    refine ⟨line + 1, ⟨offends, ?_⟩, named⟩
    intro other later
    obtain ⟨other, rfl⟩ : ∃ before, other = before + 1 :=
      Nat.exists_eq_succ_of_ne_zero fun zero => sound (zero ▸ later)
    exact Nat.succ_le_succ (least later)

end

namespace Seam

/-- The entry at `line` is no place of a line of `length` places. -/
def StraysAt (seam : Seam) (length line : Nat) : Prop :=
  ∃ entry, seam[line]? = some entry ∧ length ≤ entry

/-- The entries at `line` and at the line after it differ by more than one. -/
def LeapsAt (seam : Seam) (line : Nat) : Prop :=
  ∃ here next, seam[line]? = some here ∧ seam[line + 1]? = some next ∧ ¬ Adjacent here next

theorem straysAt_zero_iff {entry length : Nat} {rest : Seam} :
    StraysAt (entry :: rest) length 0 ↔ length ≤ entry := by
  simp [StraysAt]

theorem leapsAt_zero_iff {here next : Nat} {rest : Seam} :
    LeapsAt (here :: next :: rest) 0 ↔ ¬ Adjacent here next := by
  simp [LeapsAt]

/-- The first entry that is no place of its line is reported, with its line. -/
theorem outside?_eq_some_iff {length first : Nat} {seam : Seam} {malformation : Malformation} :
    outside? length first seam = some malformation ↔
      ∃ line, IsLeast {line | seam.StraysAt length line} line ∧
        ∃ entry, seam[line]? = some entry ∧ malformation = .outside entry (first + line) length := by
  induction seam generalizing first with
  | nil => simp [outside?]
  | cons entry rest ih =>
      rw [outside?]
      split
      · next far =>
          rw [exists_isLeast_of_zero (straysAt_zero_iff.2 far)]
          simp [eq_comm]
      · next near =>
          have behind : ∀ line, first + 1 + line = first + (line + 1) := fun line => by omega
          rw [ih, exists_isLeast_succ_iff (mt straysAt_zero_iff.1 near)]
          simp only [behind]
          exact Iff.rfl

/-- The first two neighbouring entries that are too far apart are reported, with the line of the first of them. -/
theorem jump?_eq_some_iff {first : Nat} {seam : Seam} {malformation : Malformation} :
    jump? first seam = some malformation ↔
      ∃ line, IsLeast {line | seam.LeapsAt line} line ∧
        ∃ here next, seam[line]? = some here ∧ seam[line + 1]? = some next ∧
          malformation = .jump here next (first + line) := by
  fun_induction jump? first seam with
  | case1 first here next rest leap =>
      have apart : ¬ Adjacent here next := by
        unfold Adjacent
        omega
      rw [exists_isLeast_of_zero (leapsAt_zero_iff.2 apart)]
      simp [eq_comm]
  | case2 first here next rest step ih =>
      have near : Adjacent here next := by
        unfold Adjacent
        omega
      have behind : ∀ line, first + 1 + line = first + (line + 1) := fun line => by omega
      rw [ih, exists_isLeast_succ_iff fun leap => leapsAt_zero_iff.1 leap near]
      simp only [behind]
      exact Iff.rfl
  | case3 seam first short =>
      simp only [reduceCtorEq, false_iff]
      rintro ⟨line, -, above, below, -, after, -⟩
      rcases seam with _ | ⟨here, _ | ⟨next, rest⟩⟩
      · contradiction
      · simp at after
      · exact absurd rfl (short here next rest)

/-- A seam is connected if no entry leaps to the next one. -/
theorem isChain_iff_not_leapsAt {seam : Seam} : seam.IsChain Adjacent ↔ ∀ line, ¬ seam.LeapsAt line := by
  rw [List.isChain_iff_getElem]
  constructor
  · rintro connected line ⟨here, next, atLine, after, leap⟩
    obtain ⟨_, rfl⟩ := List.getElem?_eq_some_iff.1 atLine
    obtain ⟨inside, rfl⟩ := List.getElem?_eq_some_iff.1 after
    exact leap (connected line inside)
  · intro sound line inside
    by_contra leap
    exact sound line ⟨_, _, List.getElem?_eq_getElem (by omega), List.getElem?_eq_getElem inside, leap⟩

/-- The difference of two machine words of 32 bits, absent if it would fall below zero. -/
def wordDifference? (word other : UInt32) : Option UInt32 :=
  if other ≤ word then some (word - other) else none

/-- How far two entries are apart: the one that is not larger is taken from the other. -/
def wordDistance? (here next : UInt32) : Option UInt32 :=
  if next < here then wordDifference? here next else wordDifference? next here

theorem wordDifference?_of_le {word other : UInt32} (le : other ≤ word) :
    ∃ apart, wordDifference? word other = some apart ∧ apart.toNat + other.toNat = word.toNat := by
  have below := UInt32.le_iff_toNat_le.1 le
  refine ⟨word - other, if_pos le, ?_⟩
  rw [UInt32.toNat_sub_of_le _ _ le]
  omega

theorem wordDifference?_one {word : UInt32} (pos : 0 < word.toNat) :
    ∃ before, wordDifference? word 1 = some before ∧ before.toNat + 1 = word.toNat :=
  wordDifference?_of_le (UInt32.le_iff_toNat_le.2 pos)

/-- The distance of two entries never falls below zero, and it is more than one exactly if they are not
    adjacent. -/
theorem exists_wordDistance? (here next : UInt32) :
    ∃ apart, wordDistance? here next = some apart ∧
      apart.toNat = ((here.toNat : Int) - next.toNat).natAbs ∧ (1 < apart ↔ ¬ Adjacent here.toNat next.toNat) := by
  unfold wordDistance?
  split
  · next less =>
      obtain ⟨apart, found, sum⟩ := wordDifference?_of_le (UInt32.le_of_lt less)
      refine ⟨apart, found, by omega, ?_⟩
      rw [UInt32.lt_iff_toNat_lt, Adjacent, UInt32.toNat_one]
      omega
  · next least =>
      obtain ⟨apart, found, sum⟩ := wordDifference?_of_le (UInt32.not_lt.1 least)
      refine ⟨apart, found, by omega, ?_⟩
      rw [UInt32.lt_iff_toNat_lt, Adjacent, UInt32.toNat_one]
      omega

end Seam

namespace View

variable {π : Type}

/-- The removal of a seam is refused with this error: the one of the first check that the seam or the picture does
    not pass. Of the entries that do not pass a check, the first one counts. -/
inductive Refuses (view : View π) (axis : Axis) (seam : Seam) : CarveError → Prop
  /-- There is no line that could give up a place and keep one. -/
  | degenerate (narrow : (view.along axis).width < 2) :
      Refuses view axis seam (.degenerateImage view.width view.height)
  /-- There are not as many entries as lines. -/
  | entryCount (wide : 2 ≤ (view.along axis).width) (differs : seam.length ≠ (view.along axis).height) :
      Refuses view axis seam
        (.malformedSeam s!"{seam.length} entries for {(view.along axis).height} lines")
  /-- An entry is no place of its line. -/
  | outside {line entry : Nat} (wide : 2 ≤ (view.along axis).width)
      (counted : seam.length = (view.along axis).height)
      (first : IsLeast {line | seam.StraysAt (view.along axis).width line} line)
      (here : seam[line]? = some entry) :
      Refuses view axis seam
        (.malformedSeam s!"index {entry} at line {line} is outside 0..{(view.along axis).width}")
  /-- An entry and the next one differ by more than one. -/
  | jump {line here next : Nat} (wide : 2 ≤ (view.along axis).width)
      (counted : seam.length = (view.along axis).height)
      (within : ∀ entry ∈ seam, entry < (view.along axis).width)
      (first : IsLeast {line | seam.LeapsAt line} line) (above : seam[line]? = some here)
      (below : seam[line + 1]? = some next) :
      Refuses view axis seam
        (.malformedSeam s!"jumps from {here} to {next} between lines {line} and {line + 1}")

variable {view : View π} {axis : Axis} {seam : Seam}

theorem refuses_of_malformation {malformation : Malformation} (wide : 2 ≤ (view.along axis).width)
    (found : seam.malformation? (view.along axis).height (view.along axis).width = some malformation) :
    view.Refuses axis seam (.malformedSeam malformation.reason) := by
  unfold Seam.malformation? at found
  split at found
  · next differs =>
      obtain rfl := Option.some.inj found
      exact .entryCount wide differs
  · next counted =>
      have counted := Decidable.of_not_not counted
      rcases Option.or_eq_some_iff.1 found with strays | ⟨inside, leaps⟩
      · obtain ⟨line, first, entry, here, rfl⟩ := Seam.outside?_eq_some_iff.1 strays
        rw [Nat.zero_add]
        exact .outside wide counted first here
      · obtain ⟨line, first, here, next, above, below, rfl⟩ := Seam.jump?_eq_some_iff.1 leaps
        rw [Nat.zero_add]
        exact .jump wide counted ((Seam.outside?_eq_none_iff seam _ 0).1 inside) first above below

/-- What is refused with an error fails with this error. -/
theorem Refuses.removeSeam_eq {error : CarveError} (refuses : view.Refuses axis seam error) :
    view.removeSeam axis seam = .error error := by
  cases refuses with
  | degenerate narrow => exact removeSeam_of_narrow narrow
  | entryCount wide differs =>
      have found : seam.malformation? (view.along axis).height (view.along axis).width =
          some (.entryCount seam.length (view.along axis).height) := by
        rw [Seam.malformation?, if_pos differs]
      exact removeSeam_of_malformed wide found
  | @outside line entry wide counted first here =>
      have strays : Seam.outside? (view.along axis).width 0 seam = some (.outside entry line _) :=
        Seam.outside?_eq_some_iff.2 ⟨line, first, entry, here, by rw [Nat.zero_add]⟩
      have found : seam.malformation? (view.along axis).height (view.along axis).width =
          some (.outside entry line (view.along axis).width) := by
        rw [Seam.malformation?, if_neg (not_not.2 counted), strays, Option.some_or]
      exact removeSeam_of_malformed wide found
  | @jump line here next wide counted within first above below =>
      have inside := (Seam.outside?_eq_none_iff seam _ 0).2 within
      have leaps : Seam.jump? 0 seam = some (.jump here next line) :=
        Seam.jump?_eq_some_iff.2 ⟨line, first, here, next, above, below, by rw [Nat.zero_add]⟩
      have found : seam.malformation? (view.along axis).height (view.along axis).width =
          some (.jump here next line) := by
        rw [Seam.malformation?, if_neg (not_not.2 counted), inside, leaps, Option.none_or]
      exact removeSeam_of_malformed wide found

/-- A removal fails for nothing but a first offence. -/
theorem refuses_of_removeSeam {error : CarveError} (failed : view.removeSeam axis seam = .error error) :
    view.Refuses axis seam error := by
  rcases view.removeSeam_cases axis seam with narrow | ⟨malformation, wide, found⟩ | ⟨image, -, -, succeeded, -⟩
  · rw [removeSeam_of_narrow narrow] at failed
    cases failed
    exact .degenerate narrow
  · rw [removeSeam_of_malformed wide found] at failed
    cases failed
    exact refuses_of_malformation wide found
  · rw [succeeded] at failed
    contradiction

theorem removeSeam_ne_error_iff :
    (∀ error, view.removeSeam axis seam ≠ .error error) ↔
      2 ≤ (view.along axis).width ∧ seam.length = (view.along axis).height ∧
        (∀ entry ∈ seam, entry < (view.along axis).width) ∧ ∀ line, ¬ seam.LeapsAt line := by
  constructor
  · intro sound
    rcases view.removeSeam_cases axis seam with narrow | ⟨malformation, wide, found⟩ | ⟨image, wide, fits, -, -⟩
    · exact absurd (removeSeam_of_narrow narrow) (sound _)
    · exact absurd (removeSeam_of_malformed wide found) (sound _)
    · exact ⟨wide, fits.length_eq, fits.lt_length, Seam.isChain_iff_not_leapsAt.1 fits.isChain⟩
  · rintro ⟨wide, counted, within, connected⟩ error failed
    obtain ⟨image, succeeded, -⟩ := view.exists_removeSeam axis wide
      ⟨counted, within, Seam.isChain_iff_not_leapsAt.2 connected⟩
    rw [succeeded] at failed
    contradiction

/-- A removal fails exactly with the error of the first offence, and it succeeds exactly if there is none: if lines
    have two places or more, the seam has an entry for each line, each entry is a place of its line and none leaps
    to the next. Whether an entry leaps can be told by the distance of the two entries as machine words, for all
    machine words. -/
theorem removeSeam_eq_error_iff_refuses (view : View π) (axis : Axis) (seam : Seam) :
    (∀ error, view.removeSeam axis seam = .error error ↔ view.Refuses axis seam error) ∧
    ((∀ error, view.removeSeam axis seam ≠ .error error) ↔
      2 ≤ (view.along axis).width ∧ seam.length = (view.along axis).height ∧
        (∀ entry ∈ seam, entry < (view.along axis).width) ∧ ∀ line, ¬ seam.LeapsAt line) ∧
    (∀ here next : UInt32, ∃ apart, Seam.wordDistance? here next = some apart ∧
      apart.toNat = ((here.toNat : Int) - next.toNat).natAbs ∧
      (1 < apart ↔ ¬ Seam.Adjacent here.toNat next.toNat)) :=
  ⟨fun _ => ⟨refuses_of_removeSeam, Refuses.removeSeam_eq⟩, removeSeam_ne_error_iff, Seam.exists_wordDistance?⟩

/-- The entry that is no place of its line is reported, not the earlier leap to it. -/
example : (Image.block (0 : Int) 1).view.removeSeam .vertical [0, 2, 9, 4] =
    .error (.malformedSeam "index 9 at line 2 is outside 0..4") := by
  rfl

end View

end SeamCarving

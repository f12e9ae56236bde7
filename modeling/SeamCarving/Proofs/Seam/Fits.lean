import Mathlib.Data.List.Chain
import SeamCarving.Seam.Removal

/-!
# Seams that fit

A seam fits so many lines of a length if it has one entry for each line, every entry is a place of its line,
and the entries of neighbouring lines differ by one at most. Main statement: the check that is made before a
removal lets through exactly the seams that fit (`malformation?_eq_none_iff`).
-/

namespace SeamCarving.Seam

/-- The entries of neighbouring lines are at most one place apart. -/
def Adjacent (here next : Nat) : Prop :=
  next ≤ here + 1 ∧ here ≤ next + 1

instance (here next : Nat) : Decidable (Adjacent here next) :=
  inferInstanceAs (Decidable (_ ∧ _))

/-- The seam names one place in each of `lines` lines of `length` places and never leaps. -/
structure Fits (seam : Seam) (lines length : Nat) : Prop where
  length_eq : seam.length = lines
  lt_length : ∀ entry ∈ seam, entry < length
  isChain : seam.IsChain Adjacent

theorem Fits.exists_entry {seam : Seam} {lines length line : Nat} (fits : seam.Fits lines length)
    (inside : line < lines) : ∃ gap, seam[line]? = some gap ∧ gap < length := by
  rw [← fits.length_eq] at inside
  exact ⟨seam[line], List.getElem?_eq_getElem inside, fits.lt_length _ (List.getElem_mem inside)⟩

theorem Fits.inside_of_entry {seam : Seam} {lines length line gap : Nat} (fits : seam.Fits lines length)
    (entry : seam[line]? = some gap) : line < lines ∧ gap < length := by
  obtain ⟨inside, -⟩ := List.getElem?_eq_some_iff.1 entry
  exact ⟨fits.length_eq ▸ inside, fits.lt_length gap (List.mem_of_getElem? entry)⟩

theorem Fits.adjacent {seam : Seam} {lines length line here next : Nat} (fits : seam.Fits lines length)
    (above : seam[line]? = some here) (below : seam[line + 1]? = some next) : Adjacent here next := by
  obtain ⟨within, rfl⟩ := List.getElem?_eq_some_iff.1 above
  obtain ⟨inside, rfl⟩ := List.getElem?_eq_some_iff.1 below
  exact fits.isChain.getElem line inside

/-- A seam that stays on one place fits. -/
theorem fits_replicate {lines length place : Nat} (inside : place < length) :
    Fits (List.replicate lines place) lines length := by
  constructor
  · exact List.length_replicate
  · intro entry member
    rw [List.eq_of_mem_replicate member]
    exact inside
  · exact List.isChain_replicate_of_rel lines ⟨by omega, by omega⟩

theorem outside?_eq_none_iff (seam : Seam) (length line : Nat) :
    outside? length line seam = none ↔ ∀ entry ∈ seam, entry < length := by
  induction seam generalizing line with
  | nil => simp [outside?]
  | cons entry rest ih =>
      rw [outside?]
      split
      · next far =>
          constructor
          · intro found
            contradiction
          · intro within
            have near := within entry List.mem_cons_self
            omega
      · next near => simp [ih, Nat.lt_of_not_le near]

theorem jump?_eq_none_iff (seam : Seam) (line : Nat) :
    jump? line seam = none ↔ seam.IsChain Adjacent := by
  fun_induction jump? line seam with
  | case1 line here next rest leap =>
      simp only [reduceCtorEq, List.isChain_cons_cons, Adjacent, false_iff, not_and]
      intro near
      omega
  | case2 line here next rest step ih =>
      have near : Adjacent here next := by
        unfold Adjacent
        omega
      simp [ih, List.isChain_cons_cons, near]
  | case3 seam line short =>
      match seam with
      | [] => simp
      | [entry] => simp
      | here :: next :: rest => exact absurd rfl (short here next rest)

/-- The check before a removal finds nothing wrong with exactly the seams that fit. -/
theorem malformation?_eq_none_iff {seam : Seam} {lines length : Nat} :
    seam.malformation? lines length = none ↔ seam.Fits lines length := by
  unfold malformation?
  by_cases counted : seam.length = lines
  · simp only [counted, ne_eq, not_true_eq_false, ↓reduceIte, Option.or_eq_none_iff,
      outside?_eq_none_iff, jump?_eq_none_iff]
    constructor
    · intro sound
      exact ⟨counted, sound.1, sound.2⟩
    · intro fits
      exact ⟨fits.lt_length, fits.isChain⟩
  · simp only [ne_eq, counted, not_false_eq_true, ↓reduceIte, reduceCtorEq, false_iff]
    intro fits
    exact counted fits.length_eq

end SeamCarving.Seam

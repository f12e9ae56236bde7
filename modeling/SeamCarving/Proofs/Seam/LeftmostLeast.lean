import Mathlib.Data.Nat.Init
import Mathlib.Order.Lattice

/-!
# The leftmost of the least entries of a row

A search from left to right that moves on to strictly smaller entries only. Nothing is asked of how the entries
compare; where they do as in a linear order, the search ends at the leftmost of the least ones. Main statements: rows
that compare alike are searched alike (`leftmostLeast_eq_of_lt_iff`), and what the search ends at in a row that is
ordered (`isLeftmostLeast_leftmostLeast`).
-/

namespace SeamCarving

variable {ε : Type} [LT ε]

/-- The column of the least entry of a row, and of the leftmost one if there are several. -/
structure IsLeftmostLeast (row : Nat → ε) (width column : Nat) : Prop where
  lt_width : column < width
  not_lt : ∀ x, x < width → ¬ row x < row column
  lt_of_before : ∀ x, x < column → row column < row x

variable [DecidableLT ε]

/-- The column of the lesser of two entries of a row: the best one so far unless the other is strictly less. -/
def lesser (row : Nat → ε) (best x : Nat) : Nat :=
  if row x < row best then x else best

/-- The column at which a search from left to right ends that moves on to strictly smaller entries only. -/
def leftmostLeast (row : Nat → ε) (width : Nat) : Nat :=
  (List.range width).foldl (lesser row) 0

section

variable (row : Nat → ε)

theorem lesser_lt {width best x : Nat} (inside : best < width) (hx : x < width) : lesser row best x < width := by
  unfold lesser
  split <;> assumption

theorem leftmostLeast_succ (width : Nat) :
    leftmostLeast row (width + 1) = lesser row (leftmostLeast row width) width := by
  rw [leftmostLeast, List.range_succ, List.foldl_append]
  rfl

theorem leftmostLeast_lt {width : Nat} (wide : 0 < width) : leftmostLeast row width < width := by
  induction width, wide using Nat.le_induction with
  | base => exact lesser_lt row Nat.one_pos Nat.one_pos
  | succ width wide ih =>
      rw [leftmostLeast_succ]
      exact lesser_lt row (by omega) (Nat.lt_succ_self width)

end

/-- Entries that compare alike lead to the same search, whatever they are. -/
theorem leftmostLeast_eq_of_lt_iff {δ : Type} [LT δ] [DecidableLT δ] {row : Nat → ε} {row' : Nat → δ} {width : Nat}
    (ordered : ∀ x x', x < width → x' < width → (row x < row x' ↔ row' x < row' x')) :
    leftmostLeast row width = leftmostLeast row' width := by
  induction width with
  | zero => rfl
  | succ width ih =>
      have former : leftmostLeast row width = leftmostLeast row' width :=
        ih fun x x' hx hx' => ordered x x' (by omega) (by omega)
      have near : leftmostLeast row width < width + 1 := by
        rcases Nat.eq_zero_or_pos width with rfl | wide
        · exact Nat.one_pos
        · exact Nat.lt_succ_of_lt (leftmostLeast_lt row wide)
      have last := ordered width (leftmostLeast row width) (Nat.lt_succ_self width) near
      rw [leftmostLeast_succ, leftmostLeast_succ, ← former]
      simp only [lesser, last]

theorem leftmostLeast_congr {row row' : Nat → ε} {width : Nat}
    (same : ∀ x, x < width → row x = row' x) : leftmostLeast row width = leftmostLeast row' width := by
  refine leftmostLeast_eq_of_lt_iff ?_
  intro x x' hx hx'
  rw [same x hx, same x' hx']

/-- In a row whose entries are all the same the search does not move. -/
theorem leftmostLeast_eq_zero [Std.Irrefl (· < · : ε → ε → Prop)] {row : Nat → ε} {width : Nat} {level : ε}
    (even : ∀ x, x < width → row x = level) : leftmostLeast row width = 0 := by
  induction width with
  | zero => rfl
  | succ width ih =>
      rw [leftmostLeast_succ, ih fun x hx => even x (by omega), lesser, even width (by omega), even 0 (by omega),
        if_neg (Std.Irrefl.irrefl level)]

section

variable {ρ : Type} [LinearOrder ρ] {row : Nat → ε} {width best : Nat} (rank : ε → ρ)

/-- A search that has come to the leftmost of the least entries of a row still has it when the row is one entry
    longer and this entry was looked at too. -/
theorem IsLeftmostLeast.step (found : IsLeftmostLeast row width best)
    (ranked : ∀ x x', x < width + 1 → x' < width + 1 → (row x < row x' ↔ rank (row x) < rank (row x'))) :
    IsLeftmostLeast row (width + 1) (lesser row best width) := by
  obtain ⟨inside, least, leftmost⟩ := found
  by_cases cheaper : row width < row best
  · have lower := (ranked width best (by omega) (by omega)).1 cheaper
    have below : ∀ x, x < width → row width < row x := by
      intro x hx
      have ordered : rank (row best) ≤ rank (row x) :=
        le_of_not_gt (mt (ranked x best (by omega) (by omega)).2 (least x hx))
      exact (ranked width x (by omega) (by omega)).2 (lt_of_lt_of_le lower ordered)
    rw [lesser, if_pos cheaper]
    refine ⟨by omega, ?_, below⟩
    intro x hx
    rw [ranked x width hx (by omega)]
    rcases Nat.lt_succ_iff_lt_or_eq.1 hx with older | rfl
    · exact lt_asymm ((ranked width x (by omega) hx).1 (below x older))
    · exact lt_irrefl _
  · rw [lesser, if_neg cheaper]
    refine ⟨by omega, ?_, leftmost⟩
    intro x hx
    rcases Nat.lt_succ_iff_lt_or_eq.1 hx with older | rfl
    · exact least x older
    · exact cheaper

/-- If the entries of a row compare as the members of a linear order do, the search ends at the leftmost of the
    least ones. -/
theorem isLeftmostLeast_leftmostLeast (wide : 0 < width)
    (ranked : ∀ x x', x < width → x' < width → (row x < row x' ↔ rank (row x) < rank (row x'))) :
    IsLeftmostLeast row width (leftmostLeast row width) := by
  induction width, wide using Nat.le_induction with
  | base =>
      have single : leftmostLeast row 1 = 0 := by
        have inside := leftmostLeast_lt row Nat.one_pos
        omega
      rw [single]
      refine ⟨Nat.one_pos, ?_, fun x before => absurd before (Nat.not_lt_zero x)⟩
      intro x hx
      obtain rfl : x = 0 := by omega
      exact mt (ranked 0 0 hx hx).1 (lt_irrefl _)
  | succ width wide ih =>
      have found := ih fun x x' hx hx' => ranked x x' (by omega) (by omega)
      rw [leftmostLeast_succ]
      exact found.step rank ranked

end

end SeamCarving

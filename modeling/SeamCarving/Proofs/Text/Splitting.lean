import Mathlib.Data.String.Basic

/-!
# Texts that are split at a letter

A text is split from its start to its end, by the places of its letters in the storage. Main statement: split at a
single letter, the text falls into the pieces into which the list of its letters falls (`splitOn_singleton`).
-/

namespace SeamCarving.Text

open String

/-- What is split off from a place on, where `before` has been split already and `piece` is the start of the piece
    at the place. -/
theorem splitOnAux_eq (separator : Char) (before piece rest : List Char) (pieces : List String) :
    (ofList (before ++ piece ++ rest)).splitOnAux (ofList [separator]) ⟨utf8Len before⟩
        ⟨utf8Len before + utf8Len piece⟩ 0 pieces =
      pieces.reverse ++ (List.splitOnPPrepend (· == separator) rest piece.reverse).map ofList := by
  induction rest generalizing before piece pieces with
  | nil =>
      have ended := (atEnd_of_valid (before ++ piece) []).2 rfl
      have last := extract_of_valid before piece []
      rw [utf8Len_append] at ended
      rw [splitOnAux, if_pos ended, last]
      simp
  | cons letter rest ih =>
      have inside := mt (atEnd_of_valid (before ++ piece) (letter :: rest)).1 (List.cons_ne_nil letter rest)
      have here := get_of_valid (before ++ piece) (letter :: rest)
      have after := next_of_valid (before ++ piece) letter rest
      have whole := extract_of_valid before piece (letter :: rest)
      have first : (0 : Pos.Raw).get (ofList [separator]) = separator := get_of_valid [] [separator]
      have past : (0 : Pos.Raw).next (ofList [separator]) = ⟨utf8Len [separator]⟩ := next_of_valid [] separator []
      have done : Pos.Raw.atEnd (ofList [separator]) ⟨utf8Len [separator]⟩ := (atEnd_of_valid [separator] []).2 rfl
      rw [utf8Len_append] at inside here after
      rw [splitOnAux, if_neg inside, here, first, after, past]
      by_cases same : letter = separator
      · subst same
        have back : (⟨utf8Len before + utf8Len piece + letter.utf8Size⟩ : Pos.Raw).unoffsetBy
            ⟨utf8Len [letter]⟩ = ⟨utf8Len before + utf8Len piece⟩ := by
          simp [Pos.Raw.unoffsetBy]
        have others := ih (before ++ piece ++ [letter]) [] (ofList piece :: pieces)
        rw [List.headD_cons, if_pos (beq_self_eq_true letter), if_pos done, back, whole]
        simpa [List.splitOnPPrepend_cons_eq_if, Nat.add_assoc] using others
      · have others := ih before (piece ++ [letter]) pieces
        have stays : (⟨utf8Len before + utf8Len piece⟩ : Pos.Raw).unoffsetBy 0 = ⟨utf8Len before + utf8Len piece⟩ := by
          simp [Pos.Raw.unoffsetBy]
        rw [List.headD_cons, if_neg (by simpa using same), stays, after]
        simpa [List.splitOnPPrepend_cons_eq_if, same, Nat.add_assoc] using others

/-- A text falls into pieces at a letter as the list of its letters does. -/
theorem splitOn_singleton (text : String) (separator : Char) :
    text.splitOn (ofList [separator]) = (text.toList.splitOn separator).map ofList := by
  have named : ¬ (ofList [separator] == "") = true := by
    simp
  have pieces := splitOnAux_eq separator [] [] text.toList []
  rw [splitOn, if_neg named]
  simpa [List.splitOn] using pieces

end SeamCarving.Text

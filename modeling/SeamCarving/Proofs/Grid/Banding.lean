import Mathlib.Logic.Basic
import SeamCarving.Grid.Bands

/-!
# Pieces of a storage

A storage that is cut into pieces can be painted piece by piece, where an entry is known by its piece and by its place
in the piece. Main statements: where each piece begins and how long it is (`getElem?_pieces`), and that painting
paints each entry by the quotient and the remainder of its position and the length of the pieces
(`flatten_mapIdx_pieces`), so it makes no difference how the storage has been cut.
-/

namespace SeamCarving

variable {α β : Type}

/-- Piece `index` begins where so many pieces before it end, and is as long as the entries allow. -/
theorem getElem?_pieces {length : Nat} (pos : 0 < length) (entries : List α) (index : Nat) :
    (pieces length entries)[index]? =
      if index * length < entries.length then some ((entries.drop (index * length)).take length) else none := by
  fun_induction pieces length entries generalizing index with
  | case1 => simp
  | case2 entry rest ih =>
      obtain ⟨shorter, rfl⟩ := Nat.exists_eq_add_one.2 pos
      cases index with
      | zero => simp
      | succ index =>
          have start : (index + 1) * (shorter + 1) = shorter + index * (shorter + 1) + 1 := by
            rw [Nat.succ_mul]
            omega
          rw [List.getElem?_cons_succ, ih index, Nat.add_sub_cancel, List.drop_drop, start, List.drop_succ_cons]
          refine if_congr ?_ rfl rfl
          rw [List.length_drop, List.length_cons]
          omega

theorem lt_length_pieces_iff {length : Nat} (pos : 0 < length) {entries : List α} {index : Nat} :
    index < (pieces length entries).length ↔ index * length < entries.length := by
  rw [← Nat.not_le, ← List.getElem?_eq_none_iff, getElem?_pieces pos]
  split <;> simp [*]

/-- A storage with other entries is cut in the same places. -/
theorem pieces_map (f : α → β) (length : Nat) (entries : List α) :
    pieces length (entries.map f) = (pieces length entries).map (List.map f) := by
  fun_induction pieces length entries with
  | case1 => simp [pieces]
  | case2 entry rest ih => simp [pieces, ← ih]

/-- Every piece but the last is full, and the last one has an entry and is no longer. -/
theorem length_of_getElem?_pieces {length index : Nat} (pos : 0 < length) {entries piece : List α}
    (here : (pieces length entries)[index]? = some piece) :
    (index + 1 < (pieces length entries).length → piece.length = length) ∧ 0 < piece.length ∧
      piece.length ≤ length := by
  rw [getElem?_pieces pos] at here
  split at here
  · next inside =>
      obtain rfl := Option.some.inj here
      rw [List.length_take, List.length_drop]
      refine ⟨?_, by omega, by omega⟩
      intro followed
      have begun := (lt_length_pieces_iff pos).1 followed
      rw [Nat.succ_mul] at begun
      omega
  · contradiction

/-- Entries of pieces that are painted by their piece and their place in it are painted by their position. -/
theorem flatten_mapIdx_pieces (paint : Nat → Nat → α → β) {length : Nat} (pos : 0 < length) (entries : List α) :
    ((pieces length entries).mapIdx fun piece cells => cells.mapIdx (paint piece)).flatten =
      entries.mapIdx fun position => paint (position / length) (position % length) := by
  fun_induction pieces length entries generalizing paint with
  | case1 => rfl
  | case2 entry rest ih =>
      -- the pieces after the first are painted as if they came first, with their numbers one less
      have later := ih fun piece => paint (piece + 1)
      have first : entry :: rest.take (length - 1) = (entry :: rest).take length := by
        obtain ⟨shorter, rfl⟩ := Nat.exists_eq_add_one.2 pos
        rfl
      have others : rest.drop (length - 1) = (entry :: rest).drop length := by
        obtain ⟨shorter, rfl⟩ := Nat.exists_eq_add_one.2 pos
        rfl
      rw [List.mapIdx_cons, List.flatten_cons, later, first, others]
      generalize entry :: rest = entries
      conv => rhs; rw [← List.take_append_drop length entries, List.mapIdx_append]
      congr 1
      · refine List.ext_getElem (by simp) ?_
        intro position inside _
        have early : position < length := by
          rw [List.length_mapIdx, List.length_take] at inside
          omega
        simp [Nat.div_eq_of_lt early, Nat.mod_eq_of_lt early]
      · refine List.ext_getElem (by simp) ?_
        intro position inside _
        have whole : (entries.take length).length = length := by
          rw [List.length_mapIdx, List.length_drop] at inside
          rw [List.length_take]
          omega
        simp [whole, Nat.add_div_right position pos]

theorem Grid.getElem?_mapBands (grid : Grid α) (rows : Nat) (paint : Nat → Nat → α → α) (place : Nat) :
    (grid.mapBands rows paint).cells[place]? =
      grid.cells[place]?.map (paint (place / grid.bandLength rows) (place % grid.bandLength rows)) := by
  rw [mapBands, List.getElem?_toArray, bands, flatten_mapIdx_pieces paint (grid.bandLength_pos rows),
    List.getElem?_mapIdx, Array.getElem?_toList]

end SeamCarving

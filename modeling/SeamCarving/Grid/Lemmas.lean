import SeamCarving.Grid.Basic

/-!
# Reading and writing cells

What a grid answers after it has been made or written to. Main statements: within the bounds of a filled grid
every cell can be read and written (`exists_cell?`, `exists_setCell?`), a write changes that one cell
(`cell?_setCell?`) and neither the sizes nor the size of the storage.
-/

namespace SeamCarving.Grid

variable {α : Type}

/-- Two places within the columns that address one storage cell are the same. -/
theorem index_inj {width x y i j : Nat} (hx : x < width) (hi : i < width)
    (same : j * width + i = y * width + x) : i = x ∧ j = y := by
  have columns : i = x := by
    have rests := congrArg (· % width) same
    simpa only [index_mod j hi, index_mod y hx] using rests
  subst columns
  have rows : j * width = y * width := by omega
  exact ⟨rfl, Nat.eq_of_mul_eq_mul_right (Nat.zero_lt_of_lt hi) rows⟩

theorem get?_ofFn {width height x y : Nat} (value : Nat → Nat → α) (hx : x < width)
    (hy : y < height) : (ofFn width height value).get? x y = some (value x y) := by
  have inside : y * width + x < width * height := index_lt hx hy
  simp [get?, index, ofFn, inside, index_mod y hx, index_div y hx]

/-- A grid made from a function reads back as the function within its bounds. -/
theorem cell?_ofFn (width height x y : Nat) (value : Nat → Nat → α) :
    (ofFn width height value).cell? x y =
      if x < width ∧ y < height then some (value x y) else none := by
  by_cases bounds : x < width ∧ y < height
  · have read := get?_ofFn value bounds.1 bounds.2
    simp only [cell?]
    simp only [ofFn] at read ⊢
    simp [bounds, read]
  · simp only [cell?]
    simp only [ofFn]
    simp [bounds]

theorem cell?_map {β : Type} (f : α → β) (grid : Grid α) (x y : Nat) :
    (grid.map f).cell? x y = (grid.cell? x y).map f := by
  by_cases inside : x < grid.width ∧ y < grid.height
  · simp [cell?, get?, index, map, inside]
  · simp [cell?, map, inside]

theorem setCell?_map {β : Type} (f : α → β) (grid : Grid α) (x y : Nat) (value : α) :
    (grid.map f).setCell? x y (f value) = (grid.setCell? x y value).map (Grid.map f) := by
  by_cases bounds : x < grid.width ∧ y < grid.height
  · by_cases inside : y * grid.width + x < grid.cells.size
    · simp [setCell?, set?, setStored?, index, map, bounds, inside]
    · simp [setCell?, set?, setStored?, index, map, bounds, inside]
  · simp [setCell?, map, bounds]

/-- Every cell within the bounds can be read if the storage holds as many cells as there are within them. -/
theorem exists_cell?_of_stored {grid : Grid α} (stored : grid.width * grid.height ≤ grid.cells.size) {x y : Nat}
    (hx : x < grid.width) (hy : y < grid.height) : ∃ value, grid.cell? x y = some value := by
  have inside : grid.index x y < grid.cells.size := Nat.lt_of_lt_of_le (index_lt hx hy) stored
  exact ⟨grid.cells[grid.index x y], by simp [cell?, get?, hx, hy, inside]⟩

/-- Every cell within the bounds of a filled grid can be read. -/
theorem exists_cell? {grid : Grid α} (filled : grid.WellFormed) {x y : Nat} (hx : x < grid.width)
    (hy : y < grid.height) : ∃ value, grid.cell? x y = some value :=
  exists_cell?_of_stored (Nat.le_of_eq filled.symm) hx hy

/-- The last cell within the bounds is the one that is missing first. -/
theorem cell?_eq_none_of_short {grid : Grid α} (wide : 0 < grid.width) (high : 0 < grid.height)
    (short : grid.cells.size < grid.width * grid.height) :
    grid.cell? (grid.width - 1) (grid.height - 1) = none := by
  have last : grid.index (grid.width - 1) (grid.height - 1) + 1 = grid.width * grid.height := by
    obtain ⟨height, high⟩ := Nat.exists_eq_add_one.2 high
    rw [index, high, Nat.mul_succ, Nat.mul_comm, Nat.add_sub_cancel]
    omega
  rw [cell?, get?, Array.getElem?_eq_none (by omega)]
  exact ite_self none

/-- Every cell within the bounds of a filled grid can be written. -/
theorem exists_setCell? {grid : Grid α} (filled : grid.WellFormed) {x y : Nat} (value : α)
    (hx : x < grid.width) (hy : y < grid.height) :
    ∃ next, grid.setCell? x y value = some next := by
  have inside : grid.index x y < grid.cells.size := by
    rw [filled]
    exact index_lt hx hy
  simp [setCell?, set?, setStored?, hx, hy, inside]

section

variable {grid next : Grid α} {x y : Nat} {value : α}

/-- A write within the bounds names the place and leaves all but the one cell. -/
theorem setCell?_eq_some_iff :
    grid.setCell? x y value = some next ↔
      (x < grid.width ∧ y < grid.height) ∧ ∃ inside : grid.index x y < grid.cells.size,
        next = { grid with cells := grid.cells.set (grid.index x y) value inside } := by
  unfold setCell? set? setStored?
  split
  · next bounds =>
      split
      · next inside => simp [bounds, inside, eq_comm]
      · next outside => simp [outside]
  · next bounds => simp [bounds]

theorem width_setCell? (written : grid.setCell? x y value = some next) :
    next.width = grid.width := by
  obtain ⟨-, -, rfl⟩ := setCell?_eq_some_iff.1 written
  rfl

theorem height_setCell? (written : grid.setCell? x y value = some next) :
    next.height = grid.height := by
  obtain ⟨-, -, rfl⟩ := setCell?_eq_some_iff.1 written
  rfl

theorem WellFormed.setCell? (filled : grid.WellFormed)
    (written : grid.setCell? x y value = some next) : next.WellFormed := by
  obtain ⟨-, -, rfl⟩ := setCell?_eq_some_iff.1 written
  simpa [WellFormed] using filled

/-- After a write the written cell holds the new value and every other cell what it held. -/
theorem cell?_setCell? (written : grid.setCell? x y value = some next) (i j : Nat) :
    next.cell? i j = if i = x ∧ j = y then some value else grid.cell? i j := by
  obtain ⟨⟨hx, hy⟩, inside, rfl⟩ := setCell?_eq_some_iff.1 written
  by_cases here : i = x ∧ j = y
  · obtain ⟨rfl, rfl⟩ := here
    simp [cell?, get?, index, hx, hy]
  · simp only [here, ↓reduceIte]
    unfold cell?
    by_cases bounds : i < grid.width ∧ j < grid.height
    · have apart : grid.index x y ≠ grid.index i j := by
        intro same
        exact here (index_inj hx bounds.1 (by simpa [index] using same.symm))
      simp only [bounds, and_self, ↓reduceIte]
      simp only [get?, index] at apart ⊢
      exact Array.getElem?_set_ne _ apart
    · simp [bounds]

end

end SeamCarving.Grid

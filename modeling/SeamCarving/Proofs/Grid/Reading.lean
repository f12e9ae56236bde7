import SeamCarving.Grid.Lemmas

/-!
# Grids that read as a function

A grid reads as a function if every cell within the given sizes holds what the function says of its place.
Statements about a table that is written to cell by cell are made through the function that it reads as. Main
statement: a write within the sizes succeeds and changes the function at its one place
(`Reads.exists_setCell?`).
-/

namespace SeamCarving.Grid

variable {α : Type}

/-- The grid has the given sizes, and within them its cells hold the values of `value`. -/
structure Reads (grid : Grid α) (width height : Nat) (value : Nat → Nat → α) : Prop where
  width_eq : grid.width = width
  height_eq : grid.height = height
  cell?_eq : ∀ x y, x < width → y < height → grid.cell? x y = some (value x y)

theorem reads_ofFn (width height : Nat) (value : Nat → Nat → α) :
    (ofFn width height value).Reads width height value := by
  refine ⟨rfl, rfl, ?_⟩
  intro x y hx hy
  rw [cell?_ofFn, if_pos ⟨hx, hy⟩]

theorem reads_replicate (width height : Nat) (value : α) :
    (replicate width height value).Reads width height fun _ _ => value := by
  refine ⟨rfl, rfl, ?_⟩
  intro x y hx hy
  simp [cell?, get?, index, replicate, hx, hy, index_lt hx hy]

theorem mem_of_cell? {grid : Grid α} {x y : Nat} {cell : α} (found : grid.cell? x y = some cell) :
    cell ∈ grid.cells := by
  unfold cell? at found
  split at found
  · exact Array.mem_of_getElem? found
  · contradiction

/-- Every stored cell of a filled grid is within its bounds. -/
theorem exists_cell?_of_mem {grid : Grid α} (filled : grid.WellFormed) {cell : α} (member : cell ∈ grid.cells) :
    ∃ x y, grid.cell? x y = some cell := by
  obtain ⟨position, inside, found⟩ := Array.mem_iff_getElem.1 member
  have bound : position < grid.width * grid.height := filled ▸ inside
  have wide : 0 < grid.width := Nat.pos_of_mul_pos_right (Nat.zero_lt_of_lt bound)
  have hx : position % grid.width < grid.width := Nat.mod_lt position wide
  have hy : position / grid.width < grid.height := Nat.div_lt_of_lt_mul bound
  have here : grid.index (position % grid.width) (position / grid.width) = position := by
    rw [index, Nat.mul_comm, Nat.div_add_mod]
  refine ⟨position % grid.width, position / grid.width, ?_⟩
  rw [cell?, if_pos ⟨hx, hy⟩, get?, here, Array.getElem?_eq_getElem inside, found]

/-- A grid whose cells are asked for is the grid of the answers if there is an answer for each cell. -/
theorem ofFnM_eq_pure {m : Type → Type} [Monad m] [LawfulMonad m] {width height : Nat} {ask : Nat → Nat → m α}
    {answer : Nat → Nat → α} (answers : ∀ x y, x < width → y < height → ask x y = pure (answer x y)) :
    ofFnM width height ask = pure (ofFn width height answer) := by
  have same : (fun index : Fin (width * height) => ask (index % width) (index / width)) =
      fun index : Fin (width * height) => pure (answer (index % width) (index / width)) := by
    funext index
    have wide : 0 < width := Nat.pos_of_mul_pos_right (Nat.zero_lt_of_lt index.isLt)
    exact answers _ _ (Nat.mod_lt _ wide) (Nat.div_lt_of_lt_mul index.isLt)
  rw [ofFnM, same, Array.ofFnM_pure, pure_bind]
  rfl

namespace Reads

variable {grid : Grid α} {width height : Nat} {value other : Nat → Nat → α}

theorem congr (reads : grid.Reads width height value)
    (same : ∀ x y, x < width → y < height → value x y = other x y) :
    grid.Reads width height other := by
  refine ⟨reads.width_eq, reads.height_eq, ?_⟩
  intro x y hx hy
  rw [reads.cell?_eq x y hx hy, same x y hx hy]

/-- A cell that can be read can be written, and nothing else changes. -/
theorem exists_setCell? (reads : grid.Reads width height value) {x y : Nat} (entry : α)
    (hx : x < width) (hy : y < height) :
    ∃ next, grid.setCell? x y entry = some next ∧
      next.Reads width height fun i j => if i = x ∧ j = y then entry else value i j := by
  have bounds : x < grid.width ∧ y < grid.height := by
    rw [reads.width_eq, reads.height_eq]
    exact ⟨hx, hy⟩
  have stored : grid.index x y < grid.cells.size := by
    have found := reads.cell?_eq x y hx hy
    rw [cell?, if_pos bounds, get?, Array.getElem?_eq_some_iff] at found
    exact found.1
  obtain ⟨next, written⟩ : ∃ next, grid.setCell? x y entry = some next :=
    ⟨_, setCell?_eq_some_iff.2 ⟨bounds, stored, rfl⟩⟩
  refine ⟨next, written, ?_, ?_, ?_⟩
  · rw [width_setCell? written, reads.width_eq]
  · rw [height_setCell? written, reads.height_eq]
  · intro i j hi hj
    rw [cell?_setCell? written, reads.cell?_eq i j hi hj]
    split <;> rfl

end Reads

end SeamCarving.Grid

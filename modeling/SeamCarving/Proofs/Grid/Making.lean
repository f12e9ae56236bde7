import SeamCarving.Proofs.Grid.Address
import SeamCarving.Proofs.Grid.Reading

/-!
# How grids are made

A grid is made blank, from cells that are there, or by asking for each of its cells. Questions may keep a state from
one to the next, so what a cell holds may depend on how many have been asked before. Main statements: the questions are
asked row by row, as by two nested loops (`ofFnM_eq_pushRows`), and the one about a cell has as many before it as the
address of the cell says (`exists_asked`).
-/

namespace SeamCarving.Grid

variable {α : Type}

/-! ## Two nested loops -/

section

variable {m : Type → Type} [Monad m]

/-- Asks for the cells of a row, and puts each answer behind the cells that are there. -/
def pushRow (width y : Nat) (ask : Nat → Nat → m α) (cells : Array α) : m (Array α) :=
  (List.range width).foldlM (fun cells x => cells.push <$> ask x y) cells

/-- Asks for the cells of all rows, one row after another. -/
def pushRows (width height : Nat) (ask : Nat → Nat → m α) : m (Array α) :=
  (List.range height).foldlM (fun cells y => pushRow width y ask cells) #[]

variable [LawfulMonad m]

theorem foldlM_range_congr {β : Type} {length : Nat} {step other : β → Nat → m β}
    (same : ∀ state position, position < length → step state position = other state position) (start : β) :
    (List.range length).foldlM step start = (List.range length).foldlM other start := by
  induction length with
  | zero => rfl
  | succ length ih =>
      have before := ih fun state position inside => same state position (Nat.lt_succ_of_lt inside)
      simp only [List.range_succ, List.foldlM_append, before, List.foldlM_cons, List.foldlM_nil,
        same _ length (Nat.lt_succ_self length)]

/-- An array whose entries are asked for is filled from its front. -/
theorem ofFnM_eq_foldlM (length : Nat) (question : Nat → m α) :
    Array.ofFnM (fun index : Fin length => question index) =
      (List.range length).foldlM (fun cells position => cells.push <$> question position) #[] := by
  induction length with
  | zero => rw [Array.ofFnM_zero, List.range_zero, List.foldlM_nil]
  | succ length ih =>
      rw [Array.ofFnM_succ, List.range_succ, List.foldlM_append, ← ih]
      simp only [Fin.val_castSucc, Fin.val_last, List.foldlM_cons, List.foldlM_nil, bind_pure, map_eq_pure_bind]

/-- The cells of a row are those at the positions that come after the rows before it. -/
theorem pushRow_eq_foldlM (width y : Nat) (ask : Nat → Nat → m α) (cells : Array α) :
    pushRow width y ask cells =
      ((List.range width).map (width * y + ·)).foldlM
        (fun cells position => cells.push <$> ask (position % width) (position / width)) cells := by
  rw [pushRow, List.foldlM_map]
  refine foldlM_range_congr ?_ cells
  intro cells x hx
  rw [Nat.mul_comm width y, index_mod y hx, index_div y hx]

theorem pushRows_eq_foldlM (width height : Nat) (ask : Nat → Nat → m α) :
    pushRows width height ask =
      (List.range (width * height)).foldlM
        (fun cells position => cells.push <$> ask (position % width) (position / width)) #[] := by
  induction height with
  | zero => rfl
  | succ height ih =>
      rw [pushRows, List.range_succ, List.foldlM_append, ← pushRows, ih, Nat.mul_succ, List.range_add,
        List.foldlM_append]
      simp only [List.foldlM_cons, List.foldlM_nil, bind_pure, pushRow_eq_foldlM]

/-- A grid whose cells are asked for is filled row by row. -/
theorem ofFnM_eq_pushRows (width height : Nat) (ask : Nat → Nat → m α) :
    ofFnM width height ask = return ⟨width, height, ← pushRows width height ask⟩ := by
  rw [ofFnM, pushRows_eq_foldlM, ← ofFnM_eq_foldlM]

end

/-! ## Questions that keep a state -/

section

variable {σ : Type}

/-- The state that is left when so many questions have been asked, the first of them in state `start`. -/
def stateAfter (question : Nat → StateM σ α) (start : σ) : Nat → σ
  | 0 => start
  | count + 1 => ((question count).run (stateAfter question start count)).2

/-- The answer to the question that has so many before it. -/
def answerAt (question : Nat → StateM σ α) (start : σ) (count : Nat) : α :=
  ((question count).run (stateAfter question start count)).1

theorem run_ofFnM (question : Nat → StateM σ α) (start : σ) (length : Nat) :
    (Array.ofFnM fun index : Fin length => question index).run start =
      (.ofFn fun index : Fin length => answerAt question start index, stateAfter question start length) := by
  induction length with
  | zero =>
      rw [Array.ofFnM_zero, Array.ofFn_zero]
      rfl
  | succ length ih =>
      rw [Array.ofFnM_succ, StateT.run_bind, Array.ofFn_succ]
      simp only [Fin.val_castSucc, Fin.val_last, ih]
      rfl

/-- The grid has been made by one question for each cell, the first of them in state `start`: a cell that has so many
    cells before it is asked for in the state that so many questions have left, and holds the answer. -/
structure AskedFor (ask : Nat → Nat → StateM σ α) (start stop : σ) (state : Nat → σ) (grid : Grid α) : Prop where
  start_eq : state 0 = start
  stop_eq : state (grid.width * grid.height) = stop
  holds : ∀ x y, x < grid.width → y < grid.height → ∃ value,
    (ask x y).run (state (y * grid.width + x)) = (value, state (y * grid.width + x + 1)) ∧
      grid.get? x y = some value

theorem exists_asked (width height : Nat) (ask : Nat → Nat → StateM σ α) (start : σ) :
    ∃ (grid : Grid α) (stop : σ) (state : Nat → σ), (ofFnM width height ask).run start = (grid, stop) ∧
      (grid.width = width ∧ grid.height = height ∧ grid.WellFormed) ∧ AskedFor ask start stop state grid := by
  let question : Nat → StateM σ α := fun position => ask (position % width) (position / width)
  refine ⟨⟨width, height, .ofFn fun index : Fin (width * height) => answerAt question start index⟩,
    stateAfter question start (width * height), stateAfter question start, ?_, ⟨rfl, rfl, ?_⟩, rfl, rfl, ?_⟩
  · rw [ofFnM, StateT.run_bind, run_ofFnM question]
    rfl
  · rw [WellFormed, Array.size_ofFn]
  · intro x y hx hy
    refine ⟨answerAt question start (y * width + x), ?_, ?_⟩
    · change (ask x y).run _ = ((question (y * width + x)).run _)
      simp only [question, index_mod y hx, index_div y hx]
    · simp [get?, index, index_lt hx hy]

end

/-! ## Grids as they are made -/

/-- The grid is one that can be made. -/
inductive Made : Grid α → Prop
  /-- With the same value in every cell. -/
  | blank (width height : Nat) (value : α) : Made (replicate width height value)
  /-- From cells that are there. -/
  | wrapped {width height : Nat} {cells : Array α} {grid : Grid α} (fills : ofCells width height cells = .ok grid) :
      Made grid
  /-- By asking for its cells, where each question may change the state in which the next one is asked. -/
  | asked {σ : Type} {width height : Nat} {ask : Nat → Nat → StateM σ α} {start : σ} :
      Made ((ofFnM width height ask).run start).1

theorem Made.wellFormed {grid : Grid α} (made : grid.Made) : grid.WellFormed := by
  cases made with
  | blank width height value => exact wellFormed_replicate width height value
  | @wrapped width height cells grid fills =>
      rw [ofCells] at fills
      split at fills
      · next filled =>
          cases fills
          exact filled
      · contradiction
  | @asked σ width height ask start =>
      obtain ⟨grid, stop, state, run_eq, ⟨-, -, filled⟩, -⟩ := exists_asked width height ask start
      rwa [run_eq]

end SeamCarving.Grid

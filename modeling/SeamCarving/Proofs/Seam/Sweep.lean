import Mathlib.Logic.Relation
import SeamCarving.Proofs.Grid.Writing
import SeamCarving.Proofs.Seam.Fits

/-!
# Sweeps over stored tables

A search for a seam can be seen as a sweep over two tables, one access after another, where the place of an access may
depend on what has been read before. The storage only refuses addresses past its end, so nothing but the sweep itself
keeps it within a table, and a column past the end of a row would reach the row that follows. Main statements: a sweep
is safe if its parts are (`Sweep.Safe.bind`, `Sweep.safe_foldlM`), and a safe sweep makes accesses to places of the
tables only (`Sweep.Safe.of_reaches`, `Sweep.Safe.done_or_steps`) until it is over (`Sweep.Safe.exists_done`).
-/

namespace SeamCarving

/-- The tables of a search as they are stored: path costs, and parents that are machine words. -/
structure Tables (ε : Type) where
  cost : Grid ε
  parent : Grid UInt32

/-- A computation on two tables that are changed in place, one access after another. -/
inductive Sweep (ε α : Type) where
  | done (result : α)
  /-- Arithmetic has left the machine words. -/
  | fault
  | readCost (x y : UInt32) (next : ε → Sweep ε α)
  | readParent (x y : UInt32) (next : UInt32 → Sweep ε α)
  | writeCost (x y : UInt32) (value : ε) (next : Sweep ε α)
  | writeParent (x y : UInt32) (value : UInt32) (next : Sweep ε α)

namespace Sweep

variable {ε α β : Type}

/-- Goes on with the result of `first`. -/
def andThen (first : Sweep ε α) (next : α → Sweep ε β) : Sweep ε β :=
  match first with
  | done result => next result
  | fault => fault
  | readCost x y later => readCost x y fun value => (later value).andThen next
  | readParent x y later => readParent x y fun value => (later value).andThen next
  | writeCost x y value later => writeCost x y value (later.andThen next)
  | writeParent x y value later => writeParent x y value (later.andThen next)

instance : Monad (Sweep ε) where
  pure := done
  bind := andThen

/-- The result of arithmetic, which is absent if it would leave the machine words. -/
def checked : Option α → Sweep ε α
  | some result => done result
  | none => fault

/-- The place of the next access. -/
def place? : Sweep ε α → Option (UInt32 × UInt32)
  | done _ | fault => none
  | readCost x y _ | readParent x y _ | writeCost x y _ _ | writeParent x y _ _ => some (x, y)

/-- Makes the next access, which asks for no more than that the storage reaches as far as the address. -/
def step? : Sweep ε α × Tables ε → Option (Sweep ε α × Tables ε)
  | (done _, _) | (fault, _) => none
  | (readCost x y next, tables) => do
      let value ← tables.cost.wordGet? x y
      return (next value, tables)
  | (readParent x y next, tables) => do
      let value ← tables.parent.wordGet? x y
      return (next value, tables)
  | (writeCost x y value next, tables) => do
      let cost ← tables.cost.wordSet? x y value
      return (next, { tables with cost })
  | (writeParent x y value next, tables) => do
      let parent ← tables.parent.wordSet? x y value
      return (next, { tables with parent })

/-- What a sweep and its tables become by any number of accesses. -/
abbrev Reaches : Sweep ε α × Tables ε → Sweep ε α × Tables ε → Prop :=
  Relation.ReflTransGen fun before after => step? before = some after

@[simp] theorem checked_some_bind (result : α) (next : α → Sweep ε β) :
    (checked (some result) >>= next) = next result :=
  rfl

theorem place?_bind {first : Sweep ε α} {place : UInt32 × UInt32} (next : α → Sweep ε β)
    (asks : first.place? = some place) : (first >>= next).place? = some place := by
  cases first with
  | done | fault => contradiction
  | readCost | readParent | writeCost | writeParent => exact asks

theorem step?_bind {first later : Sweep ε α} {tables now : Tables ε} (next : α → Sweep ε β)
    (made : step? (first, tables) = some (later, now)) :
    step? (first >>= next, tables) = some (later >>= next, now) := by
  cases first with
  | done | fault => contradiction
  | readCost | readParent | writeCost | writeParent =>
      obtain ⟨_, answered, same⟩ := Option.bind_eq_some_iff.1 made
      obtain ⟨rfl, rfl⟩ := Prod.mk.inj (Option.some.inj same)
      exact Option.bind_eq_some_iff.2 ⟨_, answered, rfl⟩

end Sweep

/-! ## Tables -/

/-- The grid has the given sizes and is filled. -/
structure Grid.Sized {α : Type} (grid : Grid α) (width height : Nat) : Prop where
  filled : grid.WellFormed
  width_eq : grid.width = width
  height_eq : grid.height = height

section

variable {α : Type} {grid : Grid α} {width height : Nat} (sized : grid.Sized width height)
  (wide : width < UInt32.size) {x y : UInt32} (hx : x.toNat < width) (hy : y.toNat < height)
include sized wide hx hy

/-- Within the sizes an access by address alone reads the cell of the place. -/
theorem Grid.Sized.exists_wordGet? :
    ∃ value, grid.wordGet? x y = some value ∧ grid.cell? x.toNat y.toNat = some value := by
  obtain ⟨filled, rfl, rfl⟩ := sized
  obtain ⟨value, found⟩ := exists_cell? filled hx hy
  refine ⟨value, ?_, found⟩
  rw [wordGet?_eq wide, ← cell?_of_inside hx hy, found]

/-- Within the sizes an access by address alone writes to the cell of the place. -/
theorem Grid.Sized.exists_wordSet? (value : α) :
    ∃ next, grid.wordSet? x y value = some next ∧ grid.setCell? x.toNat y.toNat value = some next ∧
      next.Sized width height := by
  obtain ⟨filled, rfl, rfl⟩ := sized
  obtain ⟨next, written⟩ := exists_setCell? filled value hx hy
  refine ⟨next, ?_, written, filled.setCell? written, width_setCell? written, height_setCell? written⟩
  rw [wordSet?_eq wide, ← written]
  exact (if_pos ⟨hx, hy⟩).symm

end

/-- The tables have the given sizes, and all parents that are stored are columns next to the ones of their cells. -/
structure Tables.Sound {ε : Type} (tables : Tables ε) (width height : Nat) : Prop where
  cost : tables.cost.Sized width height
  parent : tables.parent.Sized width height
  next : ∀ x y parent, tables.parent.cell? x y = some parent → parent.toNat < width ∧ Seam.Adjacent parent.toNat x

namespace Sweep

variable {ε α β : Type} {width height : Nat}

/-- The sweep comes to its end without a fault, all its accesses are to places within the sizes, and the tables are
    sound all the time. -/
inductive Safe (width height : Nat) (Ends : α → Tables ε → Prop) : Sweep ε α → Tables ε → Prop
  | done {result : α} {tables : Tables ε} (sound : tables.Sound width height) (ends : Ends result tables) :
      Safe width height Ends (done result) tables
  | step {sweep next : Sweep ε α} {tables now : Tables ε} {x y : UInt32} (sound : tables.Sound width height)
      (asks : sweep.place? = some (x, y)) (hx : x.toNat < width) (hy : y.toNat < height)
      (made : step? (sweep, tables) = some (next, now)) (later : Safe width height Ends next now) :
      Safe width height Ends sweep tables

variable {Ends : α → Tables ε → Prop} {Then : β → Tables ε → Prop} {sweep : Sweep ε α} {tables : Tables ε}

theorem Safe.sound (safe : sweep.Safe width height Ends tables) : tables.Sound width height := by
  cases safe <;> assumption

theorem Safe.bind {next : α → Sweep ε β} (safe : sweep.Safe width height Ends tables)
    (later : ∀ result now, now.Sound width height → Ends result now → (next result).Safe width height Then now) :
    (sweep >>= next).Safe width height Then tables := by
  induction safe with
  | done sound ends => exact later _ _ sound ends
  | step sound asks hx hy made _ ih => exact .step sound (place?_bind next asks) hx hy (step?_bind next made) ih

theorem Safe.of_step {after : Sweep ε α × Tables ε} (safe : sweep.Safe width height Ends tables)
    (made : step? (sweep, tables) = some after) : after.1.Safe width height Ends after.2 := by
  cases safe with
  | done => contradiction
  | step _ _ _ _ same later =>
      obtain rfl := Option.some.inj (same.symm.trans made)
      exact later

/-- A safe sweep stays safe whatever accesses it has made. -/
theorem Safe.of_reaches {before after : Sweep ε α × Tables ε} (safe : before.1.Safe width height Ends before.2)
    (reached : Reaches before after) : after.1.Safe width height Ends after.2 := by
  induction reached with
  | refl => exact safe
  | tail _ made ih => exact ih.of_step made

/-- A safe sweep is at its end, or its next access is made at a place within the sizes. -/
theorem Safe.done_or_steps (safe : sweep.Safe width height Ends tables) :
    (∃ result, sweep = .done result) ∨
      ∃ x y next, sweep.place? = some (x, y) ∧ (x.toNat < width ∧ y.toNat < height) ∧
        step? (sweep, tables) = some next := by
  cases safe with
  | @done result => exact .inl ⟨result, rfl⟩
  | step _ asks hx hy made _ => exact .inr ⟨_, _, _, asks, ⟨hx, hy⟩, made⟩

theorem Safe.mono {Later : α → Tables ε → Prop} (safe : sweep.Safe width height Ends tables)
    (implies : ∀ result now, now.Sound width height → Ends result now → Later result now) :
    sweep.Safe width height Later tables := by
  induction safe with
  | done sound ends => exact .done sound (implies _ _ sound ends)
  | step sound asks hx hy made _ ih => exact .step sound asks hx hy made ih

/-- A safe sweep comes to its end. -/
theorem Safe.exists_done (safe : sweep.Safe width height Ends tables) :
    ∃ result now, Reaches (sweep, tables) (.done result, now) ∧ Ends result now := by
  induction safe with
  | @done result tables _ ends => exact ⟨result, tables, .refl, ends⟩
  | step _ _ _ _ made _ ih =>
      obtain ⟨result, now, reached, ends⟩ := ih
      exact ⟨result, now, .head made reached, ends⟩

/-! ## Single accesses -/

/-- Reads a cost. -/
def costAt (x y : UInt32) : Sweep ε ε :=
  readCost x y done

/-- Reads the column of a parent. -/
def parentAt (x y : UInt32) : Sweep ε UInt32 :=
  readParent x y done

/-- Replaces a cost. -/
def setCost (x y : UInt32) (value : ε) : Sweep ε Unit :=
  writeCost x y value (done ())

/-- Replaces the column of a parent. -/
def setParent (x y : UInt32) (parent : UInt32) : Sweep ε Unit :=
  writeParent x y parent (done ())

section

variable {x y : UInt32} (sound : tables.Sound width height) (wide : width < UInt32.size)
  (hx : x.toNat < width) (hy : y.toNat < height)
include sound wide hx hy

theorem safe_costAt :
    (costAt x y).Safe width height
      (fun value now => tables.cost.cell? x.toNat y.toNat = some value ∧ tables = now) tables := by
  obtain ⟨value, read, found⟩ := sound.cost.exists_wordGet? wide hx hy
  have made : step? (costAt x y, tables) = some (done value, tables) := by
    rw [costAt, step?, read]
    rfl
  exact .step sound rfl hx hy made (.done sound ⟨found, rfl⟩)

theorem safe_parentAt :
    (parentAt x y).Safe width height
      (fun parent now => tables.parent.cell? x.toNat y.toNat = some parent ∧ tables = now) tables := by
  obtain ⟨parent, read, found⟩ := sound.parent.exists_wordGet? wide hx hy
  have made : step? (parentAt x y, tables) = some (done parent, tables) := by
    rw [parentAt, step?, read]
    rfl
  exact .step sound rfl hx hy made (.done sound ⟨found, rfl⟩)

theorem safe_setCost (value : ε) :
    (setCost x y value).Safe width height
      (fun _ now => ∃ cost, tables.cost.setCell? x.toNat y.toNat value = some cost ∧ now = { tables with cost })
      tables := by
  obtain ⟨cost, written, changed, sized⟩ := sound.cost.exists_wordSet? wide hx hy value
  have made : step? (setCost x y value, tables) = some (done (), { tables with cost }) := by
    rw [setCost, step?, written]
    rfl
  exact .step sound rfl hx hy made (.done { sound with cost := sized } ⟨cost, changed, rfl⟩)

theorem safe_setParent {parent : UInt32} (inside : parent.toNat < width)
    (adjacent : Seam.Adjacent parent.toNat x.toNat) :
    (setParent x y parent).Safe width height
      (fun _ now => ∃ parents, tables.parent.setCell? x.toNat y.toNat parent = some parents ∧
        now = { tables with parent := parents }) tables := by
  obtain ⟨parents, written, changed, sized⟩ := sound.parent.exists_wordSet? wide hx hy parent
  have made : step? (setParent x y parent, tables) = some (done (), { tables with parent := parents }) := by
    rw [setParent, step?, written]
    rfl
  have next : ∀ i j other, parents.cell? i j = some other → other.toNat < width ∧ Seam.Adjacent other.toNat i := by
    intro i j other stored
    rw [Grid.cell?_setCell? changed] at stored
    split at stored
    · next here =>
        obtain ⟨rfl, -⟩ := here
        obtain rfl := Option.some.inj stored
        exact ⟨inside, adjacent⟩
    · exact sound.next i j other stored
  exact .step sound rfl hx hy made (.done ⟨sound.cost, sized, next⟩ ⟨parents, changed, rfl⟩)

end

/-! ## Loops -/

/-- The words from `first` on that come before `stop`. -/
def words (first stop : Nat) : List UInt32 :=
  (List.range' first (stop - first)).map .ofNat

/-- A loop is safe if each round keeps its invariant. -/
theorem safe_foldlM {σ : Type} {round : σ → UInt32 → Sweep ε σ} (Kept : Nat → σ → Tables ε → Prop) {first stop : Nat}
    (ordered : first ≤ stop) (bound : stop ≤ UInt32.size)
    (keeps : ∀ (word : UInt32) state now, first ≤ word.toNat → word.toNat < stop → now.Sound width height →
      Kept word.toNat state now → (round state word).Safe width height (Kept (word.toNat + 1)) now)
    {state : σ} (sound : tables.Sound width height) (start : Kept first state tables) :
    ((words first stop).foldlM round state).Safe width height (Kept stop) tables := by
  obtain ⟨count, stop_eq⟩ := Nat.exists_eq_add_of_le ordered
  have count_eq : stop - first = count := by omega
  rw [words, count_eq]
  clear ordered count_eq
  induction count generalizing first state tables with
  | zero =>
      obtain rfl : stop = first := stop_eq
      exact .done sound start
  | succ count ih =>
      have first_eq : (UInt32.ofNat first).toNat = first := UInt32.toNat_ofNat_of_lt' (by omega)
      have here := keeps (.ofNat first) state tables
      rw [first_eq] at here
      rw [List.range'_succ, List.map_cons, List.foldlM_cons]
      refine (here (Nat.le_refl first) (by omega) sound start).bind ?_
      intro next now sound' kept
      refine ih ?_ sound' kept (by omega)
      intro word state now after before
      exact keeps word state now (Nat.le_of_succ_le after) before

end Sweep

end SeamCarving

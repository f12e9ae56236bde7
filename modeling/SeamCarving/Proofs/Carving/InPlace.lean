import SeamCarving.Proofs.Carving.Removals

/-!
# A carver that is changed in place

Operations on a carver can be seen as programs that read and write it step by step, where a failure keeps all that
has been written before. Cuts that are made one after another in this way leave an image that is cut in part when
one of them fails; a carving makes them on a copy, so that the carver itself has either all of them or none. Main
statement: in place every operation comes to its outcome and leaves the carver that `perform` says, and whatever
operations come before, one that is refused has changed nothing (`perform_atomic`).
-/

namespace SeamCarving.Carver

/-- A program on a carver that is changed in place. What it has written stays written when it fails. -/
abbrev InPlace (π : Type) := EStateM CarveError (Carver π)

variable {π ε : Type} [Coloured π ε] [Add ε] [Sub ε] [Mul ε] [NatCast ε] [LT ε] [DecidableLT ε]

namespace InPlace

/-- Looks for the seam along an axis. -/
def find (axis : Axis) : InPlace π Seam := do
  let carver ← get
  ofExcept (carver.image.view.findSeam carver.rule axis).outcome

/-- Puts the image without the seam in the place of the image. -/
def remove {π : Type} (axis : Axis) (seam : Seam) : InPlace π Unit := do
  let carver ← get
  let image ← ofExcept (carver.image.view.removeSeam axis seam)
  set { carver with image := image }

/-- Removes the seam that is found along an axis. -/
def cut (axis : Axis) : InPlace π Unit := do
  let seam ← find axis
  remove axis seam

/-- Makes the cuts one after another. -/
def cutAll (cuts : List Cut) : InPlace π Unit :=
  cuts.forM fun next => cut next.axis

/-- Makes the cuts of a carving on a copy of the carver, and takes over the image of the copy at the end. -/
def carve (width height : Nat) : InPlace π Unit := do
  let carver ← get
  if carver.image.width < width ∨ carver.image.height < height then
    throw (.upscale carver.image.width carver.image.height width height)
  else
    let schedule : Schedule := { columns := carver.image.width - width, rows := carver.image.height - height }
    match (cutAll schedule.toList).run carver with
    | .ok _ copy => set { carver with image := copy.image }
    | .error error _ => throw error

/-- What a carver is asked to do, as a program that answers the seam if it was to find one. -/
def operate : Command → InPlace π (Option Seam)
  | .find axis => do
      let seam ← find axis
      return some seam
  | .remove axis (some seam) => do
      remove axis seam
      return none
  | .remove axis none => do
      cut axis
      return none
  | .carve width height => do
      carve width height
      return none

/-- What a program comes to: an outcome, and the carver as it is left. -/
def ending {π α : Type} (outcome : Except CarveError α) (carver : Carver π) :
    EStateM.Result CarveError (Carver π) α :=
  match outcome with
  | .ok result => .ok result carver
  | .error error => .error error carver

theorem run_ofExcept {π α : Type} (outcome : Except CarveError α) (carver : Carver π) :
    (ofExcept outcome : InPlace π α).run carver = ending outcome carver := by
  cases outcome <;> rfl

theorem run_find (carver : Carver π) (axis : Axis) :
    (find axis).run carver = ending (carver.image.view.findSeam carver.rule axis).outcome carver :=
  run_ofExcept _ carver

/-- A removal writes to the carver when all of it has succeeded. -/
theorem run_remove {π : Type} (carver : Carver π) (axis : Axis) (seam : Seam) :
    (remove axis seam).run carver =
      match carver.image.view.removeSeam axis seam with
      | .ok image => .ok () { carver with image := image }
      | .error error => .error error carver := by
  have answered := run_ofExcept (carver.image.view.removeSeam axis seam) carver
  simp only [remove, EStateM.run_bind, EStateM.run_get, answered]
  cases carver.image.view.removeSeam axis seam <;> rfl

theorem run_cut (carver : Carver π) (axis : Axis) :
    (cut axis).run carver =
      match (carver.image.cut carver.rule axis).outcome with
      | .ok image => .ok () { carver with image := image }
      | .error error => .error error carver := by
  rcases carver.image.cutTo_or_small carver.rule axis with ⟨smaller, made⟩ | small
  · rw [Image.cut_of_cutTo made, cut, EStateM.run_bind, run_find,
      carver.image.view.findSeam_of_large carver.rule axis made.large]
    simp only [ending, run_remove, made.removeSeam_eq]
  · rw [Image.cut_of_small small, cut, EStateM.run_bind, run_find,
      carver.image.view.findSeam_of_small carver.rule axis small]
    rfl

/-- Cuts that are made one after another leave an image that the seams found until then are removed from, also
    when one of them fails. -/
theorem exists_run_cutAll (rule : LeftEdgeRule) (image : Image π) (cuts : List Cut) :
    ∃ current, image.removeAll (Event.removals (cuts.foldlM (Image.step rule) image).events) = .ok current ∧
      (cutAll cuts).run ⟨image, rule⟩ =
        ending ((cuts.foldlM (Image.step rule) image).outcome.map fun _ => ()) ⟨current, rule⟩ ∧
      ∀ result, (cuts.foldlM (Image.step rule) image).outcome = .ok result → result = current := by
  induction cuts generalizing image with
  | nil => exact ⟨image, rfl, rfl, fun result same => (Except.ok.inj same).symm⟩
  | cons next cuts ih =>
      have unrolled : (cutAll (next :: cuts)).run ⟨image, rule⟩ =
          (cut next.axis >>= fun _ => cutAll cuts).run ⟨image, rule⟩ := rfl
      rcases image.cutTo_or_small rule next.axis with ⟨smaller, made⟩ | small
      · obtain ⟨current, removed, run_eq, last⟩ := ih smaller
        rw [List.foldlM_cons, Image.step_of_cutTo made, Traced.ok_bind]
        refine ⟨current, ?_, ?_, last⟩
        · exact Image.removeAll_cons_eq_ok_iff.2 ⟨smaller, made.removeSeam_eq, removed⟩
        · rw [unrolled, EStateM.run_bind, run_cut, Image.cut_of_cutTo made]
          exact run_eq
      · rw [List.foldlM_cons, Image.step_of_small small, Traced.fail_bind]
        refine ⟨image, rfl, ?_, ?_⟩
        · rw [unrolled, EStateM.run_bind, run_cut, Image.cut_of_small small]
          rfl
        · intro result same
          contradiction

theorem run_carve (carver : Carver π) (width height : Nat) :
    (carve width height).run carver =
      match (carver.image.carve carver.rule width height).outcome with
      | .ok image => .ok () { carver with image := image }
      | .error error => .error error carver := by
  simp only [carve, EStateM.run_bind, EStateM.run_get]
  by_cases larger : carver.image.width < width ∨ carver.image.height < height
  · rw [if_pos larger, Image.carve_of_larger carver.rule larger]
    rfl
  · rw [if_neg larger, Image.carve_of_fits carver.rule larger, Image.cutAll_eq_foldlM]
    obtain ⟨copy, -, run_eq, last⟩ := exists_run_cutAll carver.rule carver.image
      (Schedule.toList { columns := carver.image.width - width, rows := carver.image.height - height })
    rw [run_eq]
    cases ended : (List.foldlM (Image.step carver.rule) carver.image (Schedule.toList
      { columns := carver.image.width - width, rows := carver.image.height - height })).outcome with
    | ok image =>
        rw [last image ended]
        rfl
    | error error => rfl

/-- In place an operation comes to the outcome of its course, and leaves the carver that is held after it. -/
theorem run_operate (carver : Carver π) (command : Command) :
    (operate command).run carver =
      ending ((carver.course command).outcome.map Result.seam) (carver.perform command) := by
  cases command with
  | find axis =>
      rw [operate, EStateM.run_bind, run_find, perform, course_find]
      cases (carver.image.view.findSeam carver.rule axis).outcome <;> rfl
  | remove axis given =>
      cases given with
      | some seam =>
          rw [operate, EStateM.run_bind, run_remove, perform, course_remove]
          cases carver.image.view.removeSeam axis seam <;> rfl
      | none =>
          rw [operate, EStateM.run_bind, run_cut, perform, course_remove_found]
          cases (carver.image.cut carver.rule axis).outcome <;> rfl
  | carve width height =>
      rw [operate, EStateM.run_bind, run_carve, perform, course_carve]
      cases (carver.image.carve carver.rule width height).outcome <;> rfl

end InPlace

theorem perform_find (carver : Carver π) (axis : Axis) : carver.perform (.find axis) = carver := by
  rw [perform, course_find]
  cases (carver.image.view.findSeam carver.rule axis).outcome <;> rfl

theorem rule_perform (carver : Carver π) (command : Command) : (carver.perform command).rule = carver.rule := by
  unfold perform
  split <;> rfl

theorem rule_performAll (carver : Carver π) (commands : List Command) :
    (carver.performAll commands).rule = carver.rule := by
  induction commands generalizing carver with
  | nil => rfl
  | cons command commands ih => exact (ih (carver.perform command)).trans (carver.rule_perform command)

/-- Operations are all or nothing: whatever came before, an operation that is refused leaves the image, with all its
    pixels, and the rule as they were, and so does one that only looks for a seam. That holds of the operations as
    programs that change the carver in place. Whatever is asked of a carver, its rule stays, its image never gets
    wider or higher, and a size that is not zero does not become zero. -/
theorem perform_atomic (carver : Carver π) (before after : List Command) :
    let current := carver.performAll before
    let later := current.performAll after
    (∀ command,
      (InPlace.operate command).run current =
        (match (current.course command).outcome with
          | .ok done => .ok done.seam (current.perform command)
          | .error error => .error error (current.perform command)) ∧
      (∀ error, (current.course command).outcome = .error error → current.perform command = current)) ∧
    (∀ axis, current.perform (.find axis) = current) ∧
    later.rule = current.rule ∧
    (later.image.width ≤ current.image.width ∧ later.image.height ≤ current.image.height) ∧
    (0 < current.image.width → 0 < later.image.width) ∧
    (0 < current.image.height → 0 < later.image.height) := by
  intro current later
  obtain ⟨⟨width_eq, height_eq⟩, wide, high⟩ := Image.size_of_removeAll (current.removeAll_takenAll after)
  refine ⟨?_, current.perform_find, current.rule_performAll after, ⟨?_, ?_⟩, wide, high⟩
  · intro command
    constructor
    · rw [InPlace.run_operate]
      cases (current.course command).outcome <;> rfl
    · intro error failed
      exact perform_of_error failed
  · exact Nat.le_of_add_right_le (Nat.le_of_eq width_eq)
  · exact Nat.le_of_add_right_le (Nat.le_of_eq height_eq)

end SeamCarving.Carver

import SeamCarving.Proofs.Carving.Run

/-!
# What a carver has removed

Whatever a carver is asked to do, its image changes by the removal of seams alone. `taken` lists the seams that an
operation has removed: one that is refused or only looks for a seam has removed none, and a carving has removed as
many as it made cuts. Main statement: the carver's image after any operations is what is left of the first one when
the seams that were taken are removed from it one after another (`removeAll_takenAll`).
-/

namespace SeamCarving

theorem Except.map_eq_ok_iff {α β ε : Type} {outcome : Except ε α} {f : α → β} {result : β} :
    outcome.map f = .ok result ↔ ∃ found, outcome = .ok found ∧ f found = result := by
  cases outcome <;> simp [Except.map]

section

variable {π : Type} {image smaller result : Image π} {axis : Axis} {seam : Seam}
  {removals more : List (Axis × Seam)}

theorem Image.removeAll_append :
    image.removeAll (removals ++ more) = image.removeAll removals >>= fun left => left.removeAll more :=
  List.foldlM_append

theorem Image.removeAll_cons_eq_ok_iff :
    image.removeAll ((axis, seam) :: removals) = .ok result ↔
      ∃ smaller, image.view.removeSeam axis seam = .ok smaller ∧ smaller.removeAll removals = .ok result := by
  simp only [Image.removeAll, List.foldlM_cons]
  cases image.view.removeSeam axis seam with
  | ok smaller =>
      constructor
      · intro removed
        exact ⟨smaller, rfl, removed⟩
      · rintro ⟨left, same, removed⟩
        cases same
        exact removed
  | error error =>
      constructor
      · intro removed
        contradiction
      · rintro ⟨left, same, -⟩
        contradiction

/-- Each removal takes one line off one of the sizes, and never the last one. -/
theorem Image.size_of_removeAll (removed : image.removeAll removals = .ok result) :
    (result.width + (removals.map Prod.fst).count .vertical = image.width ∧
      result.height + (removals.map Prod.fst).count .horizontal = image.height) ∧
    (0 < image.width → 0 < result.width) ∧ (0 < image.height → 0 < result.height) := by
  induction removals generalizing image with
  | nil =>
      cases removed
      simp
  | cons removal removals ih =>
      obtain ⟨axis, seam⟩ := removal
      obtain ⟨smaller, first, others⟩ := Image.removeAll_cons_eq_ok_iff.1 removed
      have left := ih others
      have wide := (View.fits_of_removeSeam first).1
      have done := View.removed_of_removeSeam first
      simp only [List.map_cons]
      cases axis with
      | vertical =>
          have size := done.size_vertical
          rw [View.along_vertical] at wide
          simp only [Image.width_view, Image.height_view] at size wide
          rw [List.count_cons_self, List.count_cons_of_ne (by decide)]
          omega
      | horizontal =>
          have size := done.size_horizontal
          rw [View.along_horizontal, View.width_transpose] at wide
          simp only [Image.width_view, Image.height_view] at size wide
          rw [List.count_cons_self, List.count_cons_of_ne (by decide)]
          omega

end

/-- Taking out the seam that is found is the removal that is reported. -/
theorem Image.removeAll_of_cut {π ε : Type} [Coloured π ε] [Add ε] [Sub ε] [Mul ε] [NatCast ε] [LT ε]
    [DecidableLT ε] {image smaller : Image π} {rule : LeftEdgeRule} {axis : Axis}
    (succeeded : (image.cut rule axis).outcome = .ok smaller) :
    image.removeAll (Event.removals (image.cut rule axis).events) = .ok smaller := by
  rcases image.cutTo_or_small rule axis with ⟨left, made⟩ | small
  · rw [cut_of_cutTo made] at succeeded ⊢
    cases succeeded
    exact removeAll_cons_eq_ok_iff.2 ⟨smaller, made.removeSeam_eq, rfl⟩
  · rw [cut_of_small small] at succeeded
    contradiction

namespace Carver

variable {π ε : Type} [Coloured π ε] [Add ε] [Sub ε] [Mul ε] [NatCast ε] [LT ε] [DecidableLT ε]

/-- The seams that an operation takes out of an image if it succeeds, each with its axis and in order: the given
    one, or those that it reports to have found on the way. -/
def Command.removals (command : Command) (events : List Event) : List (Axis × Seam) :=
  match command with
  | .find _ => []
  | .remove axis (some seam) => [(axis, seam)]
  | .remove _ none => Event.removals events
  | .carve .. => Event.removals events

/-- The seams that an operation takes out of the carver's image: none if it is refused. -/
def taken (carver : Carver π) (command : Command) : List (Axis × Seam) :=
  match (carver.course command).outcome with
  | .ok _ => command.removals (carver.course command).events
  | .error _ => []

/-- The seams that the operations take out of the carver's image, one operation after another. -/
def takenAll (carver : Carver π) : List Command → List (Axis × Seam)
  | [] => []
  | command :: commands => carver.taken command ++ (carver.perform command).takenAll commands

section

variable {carver : Carver π} {command : Command} {done : Result π} {error : CarveError}

theorem perform_of_ok (succeeded : (carver.course command).outcome = .ok done) :
    carver.perform command = { carver with image := done.image } := by
  rw [perform, succeeded]

theorem perform_of_error (failed : (carver.course command).outcome = .error error) :
    carver.perform command = carver := by
  rw [perform, failed]

theorem taken_of_ok (succeeded : (carver.course command).outcome = .ok done) :
    carver.taken command = command.removals (carver.course command).events := by
  rw [taken, succeeded]

theorem taken_of_error (failed : (carver.course command).outcome = .error error) :
    carver.taken command = [] := by
  rw [taken, failed]

theorem course_find (carver : Carver π) (axis : Axis) :
    carver.course (.find axis) =
      ⟨(carver.image.view.findSeam carver.rule axis).events,
        (carver.image.view.findSeam carver.rule axis).outcome.map fun seam => ⟨carver.image, some seam⟩⟩ :=
  Traced.bind_pure _ _

theorem course_remove (carver : Carver π) (axis : Axis) (seam : Seam) :
    carver.course (.remove axis (some seam)) =
      ⟨[], (carver.image.view.removeSeam axis seam).map fun image => ⟨image, none⟩⟩ :=
  Traced.bind_pure _ _

theorem course_remove_found (carver : Carver π) (axis : Axis) :
    carver.course (.remove axis none) =
      ⟨(carver.image.cut carver.rule axis).events,
        (carver.image.cut carver.rule axis).outcome.map fun image => ⟨image, none⟩⟩ :=
  Traced.bind_pure _ _

/-- What an operation leaves is what is left when the seams that it takes are removed. -/
theorem removeAll_taken (carver : Carver π) (command : Command) :
    carver.image.removeAll (carver.taken command) = .ok (carver.perform command).image := by
  cases ended : (carver.course command).outcome with
  | error error =>
      rw [perform_of_error ended, taken_of_error ended]
      rfl
  | ok done =>
      rw [perform_of_ok ended, taken_of_ok ended]
      cases command with
      | find axis =>
          rw [course_find] at ended
          obtain ⟨seam, -, rfl⟩ := Except.map_eq_ok_iff.1 ended
          rfl
      | remove axis given =>
          cases given with
          | some seam =>
              rw [course_remove] at ended
              obtain ⟨image, removed, rfl⟩ := Except.map_eq_ok_iff.1 ended
              exact Image.removeAll_cons_eq_ok_iff.2 ⟨image, removed, rfl⟩
          | none =>
              rw [course_remove_found] at ended ⊢
              obtain ⟨image, cut, rfl⟩ := Except.map_eq_ok_iff.1 ended
              exact Image.removeAll_of_cut cut
      | carve width height =>
          rw [course_carve] at ended ⊢
          obtain ⟨image, carved, rfl⟩ := Except.map_eq_ok_iff.1 ended
          obtain ⟨-, turn, carved⟩ := carved_of_carve carved
          exact carved.removeAll_eq

/-- What any operations leave is what is left when all the seams that they take are removed. -/
theorem removeAll_takenAll (carver : Carver π) (commands : List Command) :
    carver.image.removeAll (carver.takenAll commands) = .ok (carver.performAll commands).image := by
  induction commands generalizing carver with
  | nil => rfl
  | cons command commands ih =>
      rw [takenAll, Image.removeAll_append, carver.removeAll_taken command]
      exact ih (carver.perform command)

end

end Carver

end SeamCarving

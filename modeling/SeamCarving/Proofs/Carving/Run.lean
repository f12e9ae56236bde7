import SeamCarving.Proofs.Carving.Finding

/-!
# Runs of a carving

A carving is a sequence of cuts, each of them the removal of the seam that is found in the image as it then is.
`Carved` relates an image and a schedule to every image and rest of the schedule that such cuts lead to, with
the events on the way. Main statements: a carving makes cuts until the schedule is done or an image is too small
for the next one (`cutAll_run`), and what it removed one after another from the first image leaves the last
(`Carved.removeAll_eq`).
-/

namespace SeamCarving

theorem Schedule.next?_cases {schedule rest : Schedule} {cut : Cut}
    (present : schedule.next? = some (cut, rest)) :
    (cut.axis = .vertical ∧ rest.columns + 1 = schedule.columns ∧ rest.rows = schedule.rows) ∨
      (cut.axis = .horizontal ∧ rest.columns = schedule.columns ∧ rest.rows + 1 = schedule.rows) := by
  unfold next? at present
  split at present
  · simp at present
  all_goals
    simp only [Option.some.injEq, Prod.mk.injEq] at present
    obtain ⟨rfl, rfl⟩ := present
    simp

theorem Schedule.exists_eq_of_next?_eq_none {schedule : Schedule} (absent : schedule.next? = none) :
    ∃ turn, schedule = ⟨0, 0, turn⟩ := by
  obtain ⟨columns, rows, turn⟩ := schedule
  have done := next?_eq_none_iff.1 absent
  simp only [size] at done
  obtain rfl : columns = 0 := by omega
  obtain rfl : rows = 0 := by omega
  exact ⟨turn, rfl⟩

section

variable {α β : Type}

@[simp] theorem Traced.ok_bind (events : List Event) (result : α) (next : α → Traced β) :
    ((⟨events, .ok result⟩ : Traced α) >>= next) =
      ⟨events ++ (next result).events, (next result).outcome⟩ :=
  rfl

@[simp] theorem Traced.fail_bind (error : CarveError) (next : α → Traced β) :
    ((.fail error : Traced α) >>= next) = .fail error :=
  rfl

theorem Traced.bind_pure (first : Traced α) (result : α → β) :
    (first >>= fun found => pure (result found)) = ⟨first.events, first.outcome.map result⟩ := by
  obtain ⟨events, outcome⟩ := first
  cases outcome with
  | ok found => simp [Except.map]
  | error error => rfl

end

/-- The axis and the seam of a removal, if the event is the finding of one. -/
def Event.removal? : Event → Option (Axis × Seam)
  | .found axis seam => some (axis, seam)
  | .cut .. => none

/-- The seams that were found, each with its axis, in order. -/
def Event.removals (events : List Event) : List (Axis × Seam) :=
  events.filterMap removal?

/-- The image that is left when seams are taken out one after another. -/
def Image.removeAll {π : Type} (image : Image π) (removals : List (Axis × Seam)) :
    Except CarveError (Image π) :=
  removals.foldlM (fun image removal => image.view.removeSeam removal.1 removal.2) image

variable {π ε : Type} [Coloured π ε] [Add ε] [Sub ε] [Mul ε] [NatCast ε] [LT ε] [DecidableLT ε]

namespace Image

/-- The image is large enough for a seam, and `smaller` is left when the seam along the axis is taken out. -/
structure CutTo (rule : LeftEdgeRule) (axis : Axis) (image smaller : Image π) : Prop where
  large : 3 ≤ image.width ∧ 3 ≤ image.height
  removeSeam_eq : image.view.removeSeam axis (image.view.seamAlong rule axis) = .ok smaller

variable {rule : LeftEdgeRule} {axis : Axis} {image smaller : Image π}

/-- An image that is too small is the only obstacle to a cut. -/
theorem cutTo_or_small (image : Image π) (rule : LeftEdgeRule) (axis : Axis) :
    (∃ smaller, image.CutTo rule axis smaller) ∨ ¬ (3 ≤ image.width ∧ 3 ≤ image.height) := by
  by_cases large : 3 ≤ image.width ∧ 3 ≤ image.height
  · obtain ⟨-, smaller, removed, -⟩ := image.view.exists_removeSeam_seamAlong rule axis large
    exact Or.inl ⟨smaller, large, removed⟩
  · exact Or.inr large

theorem CutTo.removed (made : image.CutTo rule axis smaller) :
    image.view.Removed axis (image.view.seamAlong rule axis) smaller := by
  obtain ⟨-, left, removeSeam_eq, removed⟩ :=
    image.view.exists_removeSeam_seamAlong rule axis made.large
  rw [made.removeSeam_eq, Except.ok.injEq] at removeSeam_eq
  rw [removeSeam_eq]
  exact removed

theorem CutTo.size_vertical (made : image.CutTo rule .vertical smaller) :
    smaller.width + 1 = image.width ∧ smaller.height = image.height := by
  have large := made.large
  have size := made.removed.size_vertical
  rw [width_view, height_view] at size
  omega

theorem CutTo.size_horizontal (made : image.CutTo rule .horizontal smaller) :
    smaller.width = image.width ∧ smaller.height + 1 = image.height := by
  have large := made.large
  have size := made.removed.size_horizontal
  rw [width_view, height_view] at size
  omega

theorem CutTo.size_eq {schedule rest : Schedule} {cut : Cut} (made : image.CutTo rule cut.axis smaller)
    (present : schedule.next? = some (cut, rest)) :
    smaller.width + schedule.columns = image.width + rest.columns ∧
      smaller.height + schedule.rows = image.height + rest.rows := by
  rcases Schedule.next?_cases present with ⟨axis, columns, rows⟩ | ⟨axis, columns, rows⟩
  · rw [axis] at made
    have size := made.size_vertical
    omega
  · rw [axis] at made
    have size := made.size_horizontal
    omega

theorem cut_of_cutTo (made : image.CutTo rule axis smaller) :
    image.cut rule axis = ⟨[.found axis (image.view.seamAlong rule axis)], .ok smaller⟩ := by
  rw [cut, image.view.findSeam_of_large rule axis made.large, Traced.ok_bind, made.removeSeam_eq]
  rfl

theorem cut_of_small (small : ¬ (3 ≤ image.width ∧ 3 ≤ image.height)) :
    image.cut rule axis =
      .fail (.degenerateImage (image.view.along axis).width (image.view.along axis).height) := by
  rw [cut, image.view.findSeam_of_small rule axis small, Traced.fail_bind]

theorem step_of_cutTo {cut : Cut} (made : image.CutTo rule cut.axis smaller) :
    image.step rule cut =
      ⟨[.found cut.axis (image.view.seamAlong rule cut.axis),
        .cut cut.phase smaller.width smaller.height], .ok smaller⟩ := by
  rw [step, cut_of_cutTo made, Traced.ok_bind]
  rfl

theorem step_of_small {cut : Cut} (small : ¬ (3 ≤ image.width ∧ 3 ≤ image.height)) :
    image.step rule cut =
      .fail (.degenerateImage (image.view.along cut.axis).width (image.view.along cut.axis).height) := by
  rw [step, cut_of_small small, Traced.fail_bind]

end Image

/-- Cuts of the schedule, each of the seam that is found in the image as the cuts before it have left it, lead
    from the first image and schedule to the last and report the events. -/
inductive Carved (rule : LeftEdgeRule) : Image π → Schedule → List Event → Image π → Schedule → Prop
  /-- No cut has been made. -/
  | start (image : Image π) (schedule : Schedule) : Carved rule image schedule [] image schedule
  /-- The next cut of the schedule is made, and others after it. -/
  | cut {image smaller current : Image π} {schedule rest left : Schedule} {cut : Cut}
      {events : List Event} (present : schedule.next? = some (cut, rest))
      (made : image.CutTo rule cut.axis smaller) (others : Carved rule smaller rest events current left) :
      Carved rule image schedule
        (.found cut.axis (image.view.seamAlong rule cut.axis) ::
          .cut cut.phase smaller.width smaller.height :: events)
        current left

/-- How a carving comes to an end. -/
inductive Image.Stops (current : Image π) (left : Schedule) : Except CarveError (Image π) → Prop
  /-- No cut is left. -/
  | finished (absent : left.next? = none) : Stops current left (.ok current)
  /-- The image is too small for the cut that is next. -/
  | stuck {cut : Cut} {rest : Schedule} (present : left.next? = some (cut, rest))
      (small : ¬ (3 ≤ current.width ∧ 3 ≤ current.height)) :
      Stops current left (.error (.degenerateImage (current.view.along cut.axis).width
        (current.view.along cut.axis).height))

/-- A carving makes cuts until none is left or the image is too small, and reports no others. -/
theorem cutAll_run (rule : LeftEdgeRule) (image : Image π) (schedule : Schedule) :
    ∃ current left, Carved rule image schedule (image.cutAll rule schedule).events current left ∧
      current.Stops left (image.cutAll rule schedule).outcome := by
  fun_induction Image.cutAll rule image schedule with
  | case1 image schedule absent => exact ⟨image, schedule, .start image schedule, .finished absent⟩
  | case2 image schedule cut rest present ih =>
      rcases image.cutTo_or_small rule cut.axis with ⟨smaller, made⟩ | small
      · obtain ⟨current, left, others, stops⟩ := ih smaller
        rw [Image.step_of_cutTo made, Traced.ok_bind]
        exact ⟨current, left, .cut present made others, stops⟩
      · rw [Image.step_of_small small, Traced.fail_bind]
        exact ⟨image, schedule, .start image schedule, .stuck present small⟩

theorem carved_of_cutAll {rule : LeftEdgeRule} {image result : Image π} {schedule : Schedule}
    (succeeded : (image.cutAll rule schedule).outcome = .ok result) :
    ∃ turn, Carved rule image schedule (image.cutAll rule schedule).events result ⟨0, 0, turn⟩ := by
  obtain ⟨current, left, carved, stops⟩ := cutAll_run rule image schedule
  rw [succeeded] at stops
  cases stops with
  | finished absent =>
      obtain ⟨turn, rfl⟩ := Schedule.exists_eq_of_next?_eq_none absent
      exact ⟨turn, carved⟩

theorem Image.carve_of_larger {image : Image π} {width height : Nat} (rule : LeftEdgeRule)
    (larger : image.width < width ∨ image.height < height) :
    image.carve rule width height = .fail (.upscale image.width image.height width height) := by
  rw [carve, if_pos larger]

theorem Image.carve_of_fits {image : Image π} {width height : Nat} (rule : LeftEdgeRule)
    (fits : ¬ (image.width < width ∨ image.height < height)) :
    image.carve rule width height =
      image.cutAll rule { columns := image.width - width, rows := image.height - height } := by
  rw [carve, if_neg fits]

/-- A carving to a size that succeeds cuts off the columns and rows beyond that size. -/
theorem carved_of_carve {rule : LeftEdgeRule} {image result : Image π} {width height : Nat}
    (succeeded : (image.carve rule width height).outcome = .ok result) :
    (width ≤ image.width ∧ height ≤ image.height) ∧
      ∃ turn, Carved rule image { columns := image.width - width, rows := image.height - height }
        (image.carve rule width height).events result ⟨0, 0, turn⟩ := by
  by_cases larger : image.width < width ∨ image.height < height
  · rw [Image.carve_of_larger rule larger] at succeeded
    contradiction
  · rw [Image.carve_of_fits rule larger] at succeeded ⊢
    exact ⟨by omega, carved_of_cutAll succeeded⟩

theorem Carver.course_carve (carver : Carver π) (width height : Nat) :
    carver.course (.carve width height) =
      ⟨(carver.image.carve carver.rule width height).events,
        (carver.image.carve carver.rule width height).outcome.map fun image => ⟨image, none⟩⟩ :=
  Traced.bind_pure _ _

section

variable {carver : Carver π} {width height : Nat}

theorem Carver.course_of_carve {result : Image π}
    (succeeded : (carver.image.carve carver.rule width height).outcome = .ok result) :
    (carver.course (.carve width height)).outcome = .ok ⟨result, none⟩ := by
  rw [course_carve, succeeded]
  rfl

theorem Carver.carve_of_course {done : Carver.Result π}
    (succeeded : (carver.course (.carve width height)).outcome = .ok done) :
    (carver.image.carve carver.rule width height).outcome = .ok done.image := by
  cases ended : (carver.image.carve carver.rule width height).outcome with
  | ok result =>
      rw [course_of_carve ended] at succeeded
      cases succeeded
      rfl
  | error error =>
      rw [course_carve, ended] at succeeded
      contradiction

end

namespace Carved

variable {rule : LeftEdgeRule} {image current : Image π} {schedule left : Schedule} {events : List Event}

theorem size_eq (carved : Carved rule image schedule events current left) :
    current.width + schedule.columns = image.width + left.columns ∧
      current.height + schedule.rows = image.height + left.rows := by
  induction carved with
  | start image schedule => exact ⟨rfl, rfl⟩
  | cut present made others ih =>
      have size := made.size_eq present
      omega

theorem count_removals (carved : Carved rule image schedule events current left) :
    ((Event.removals events).map Prod.fst).count .vertical + left.columns = schedule.columns ∧
      ((Event.removals events).map Prod.fst).count .horizontal + left.rows = schedule.rows := by
  induction carved with
  | start image schedule => simp [Event.removals]
  | cut present made others ih =>
      simp only [Event.removals, Event.removal?, List.filterMap_cons, List.map_cons] at ih ⊢
      rcases Schedule.next?_cases present with ⟨axis, columns, rows⟩ | ⟨axis, columns, rows⟩
      · rw [axis, List.count_cons_self, List.count_cons_of_ne (by decide)]
        omega
      · rw [axis, List.count_cons_self, List.count_cons_of_ne (by decide)]
        omega

/-- The seams that were found, taken out of the first image one after another, leave the last. -/
theorem removeAll_eq (carved : Carved rule image schedule events current left) :
    image.removeAll (Event.removals events) = .ok current := by
  induction carved with
  | start image schedule => rfl
  | cut present made others ih =>
      simp only [Image.removeAll, Event.removals, Event.removal?, List.filterMap_cons,
        List.foldlM_cons] at ih ⊢
      rw [made.removeSeam_eq]
      exact ih

end Carved

end SeamCarving

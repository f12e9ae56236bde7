import SeamCarving.Proofs.Carving.Duality

/-!
# Carving in stages

A carving may halt at a size on the way and go on from there. It then begins with a column again, so the halt may change
the order of the cuts. It does not if all cuts run along one axis, nor after as many columns as rows, and then the two
parts make the cuts of the whole but for the reasons that are reported for them (`Image.cutAll_of_axes`). Main
statement: with such a halt a carving comes to the same image or the same error, and a size that has been reached is
reached again without a cut (`Carver.carve_in_stages`).
-/

namespace SeamCarving

/-! ## The axes of a schedule -/

namespace Schedule

/-- The axes of the cuts, the next one first. -/
def axes (schedule : Schedule) : List Axis :=
  schedule.toList.map Cut.axis

theorem axes_columns (columns : Nat) (turn : Axis) :
    axes ⟨columns, 0, turn⟩ = List.replicate columns .vertical := by
  rw [axes, toList_columns, List.map_replicate]

theorem axes_rows (rows : Nat) (turn : Axis) :
    axes ⟨0, rows, turn⟩ = List.replicate rows .horizontal := by
  rw [axes, toList_rows, List.map_replicate]

/-- As long as both are left, a column and a row are cut off and the schedule is as if it had just been made. -/
theorem axes_succ_succ (columns rows : Nat) :
    axes ⟨columns + 1, rows + 1, .vertical⟩ = .vertical :: .horizontal :: axes ⟨columns, rows, .vertical⟩ := by
  have first : next? ⟨columns + 1, rows + 1, .vertical⟩ =
      some (⟨.vertical, .both⟩, ⟨columns, rows + 1, .horizontal⟩) := rfl
  rw [axes, toList_eq_cons first, List.map_cons]
  cases columns with
  | zero =>
      -- no column is left for the row to take turns with
      have rest := axes_rows (rows + 1) .horizontal
      rw [axes] at rest
      rw [rest, axes_rows, List.replicate_succ]
  | succ columns =>
      have second : next? ⟨columns + 1, rows + 1, .horizontal⟩ =
          some (⟨.horizontal, .both⟩, ⟨columns + 1, rows, .vertical⟩) := rfl
      rw [toList_eq_cons second, List.map_cons]
      rfl

/-- A schedule may halt when it has cut off as many columns as rows. -/
theorem axes_add_add (count columns rows : Nat) :
    axes ⟨count + columns, count + rows, .vertical⟩ =
      axes ⟨count, count, .vertical⟩ ++ axes ⟨columns, rows, .vertical⟩ := by
  induction count with
  | zero => rw [Nat.zero_add, Nat.zero_add, axes_columns, List.replicate_zero, List.nil_append]
  | succ count ih =>
      rw [Nat.succ_add, Nat.succ_add, axes_succ_succ, axes_succ_succ, ih]
      rfl

theorem axes_add_columns (count columns : Nat) :
    axes ⟨count + columns, 0, .vertical⟩ = axes ⟨count, 0, .vertical⟩ ++ axes ⟨columns, 0, .vertical⟩ := by
  rw [axes_columns, axes_columns, axes_columns, List.replicate_append_replicate]

theorem axes_add_rows (count rows : Nat) :
    axes ⟨0, count + rows, .vertical⟩ = axes ⟨0, count, .vertical⟩ ++ axes ⟨0, rows, .vertical⟩ := by
  rw [axes_rows, axes_rows, axes_rows, List.replicate_append_replicate]

example : axes ⟨3, 2, .vertical⟩ = [.vertical, .horizontal, .vertical, .horizontal, .vertical] := by
  decide +kernel

end Schedule

/-! ## Runs without the reasons of their cuts -/

namespace Traced

variable {α β γ : Type}

theorem bind_of_ok {first : Traced α} {result : α} {next : α → Traced β} (succeeded : first.outcome = .ok result) :
    first >>= next = ⟨first.events ++ (next result).events, (next result).outcome⟩ := by
  obtain ⟨events, outcome⟩ := first
  cases succeeded
  rfl

theorem bind_of_error {first : Traced α} {error : CarveError} {next : α → Traced β}
    (failed : first.outcome = .error error) : first >>= next = ⟨first.events, .error error⟩ := by
  obtain ⟨events, outcome⟩ := first
  cases failed
  rfl

theorem bind_assoc (first : Traced α) (next : α → Traced β) (last : β → Traced γ) :
    first >>= next >>= last = first >>= fun result => next result >>= last := by
  obtain ⟨events, outcome⟩ := first
  cases outcome with
  | error error => rfl
  | ok result =>
      rw [ok_bind, ok_bind]
      obtain ⟨later, ending⟩ := next result
      cases ending with
      | error error => rfl
      | ok result' => rw [ok_bind, ok_bind, List.append_assoc]

theorem id_map (traced : Traced α) : id <$> traced = traced := by
  calc id <$> traced
    _ = ⟨traced.events, traced.outcome.map id⟩ := bind_pure traced id
    _ = traced := by
      obtain ⟨events, outcome⟩ := traced
      cases outcome <;> rfl

instance : LawfulMonad Traced :=
  LawfulMonad.mk' Traced id_map (fun _ _ => rfl) bind_assoc

end Traced

/-- The event without the reason for a cut. -/
def Event.unphased : Event → Event
  | .found axis seam => .found axis seam
  | .cut _ width height => .cut .both width height

theorem Event.removals_map_unphased (events : List Event) : removals (events.map unphased) = removals events := by
  rw [removals, removals, List.filterMap_map]
  congr 1
  funext event
  cases event <;> rfl

/-- The run without the reasons for its cuts. -/
def Traced.unphased {α : Type} (traced : Traced α) : Traced α :=
  traced.retold Event.unphased id

theorem Traced.outcome_unphased {α : Type} (traced : Traced α) : traced.unphased.outcome = traced.outcome := by
  obtain ⟨events, outcome⟩ := traced
  cases outcome <;> rfl

theorem Traced.removals_unphased {α : Type} (traced : Traced α) :
    Event.removals traced.unphased.events = Event.removals traced.events :=
  Event.removals_map_unphased traced.events

namespace Image

variable {π ε : Type} [Coloured π ε] [Add ε] [Sub ε] [Mul ε] [NatCast ε] [LT ε] [DecidableLT ε]

/-- The reason for a cut has no part in it. -/
theorem step_unphased (image : Image π) (rule : LeftEdgeRule) (cut : Cut) :
    image.step rule ⟨cut.axis, .both⟩ = (image.step rule cut).unphased := by
  obtain ⟨axis, phase⟩ := cut
  rcases image.cutTo_or_small rule axis with ⟨smaller, made⟩ | small
  · have unphased : image.step rule ⟨axis, .both⟩ = _ := step_of_cutTo made
    have phased : image.step rule ⟨axis, phase⟩ = _ := step_of_cutTo made
    rw [unphased, phased]
    rfl
  · have unphased : image.step rule ⟨axis, .both⟩ = _ := step_of_small small
    have phased : image.step rule ⟨axis, phase⟩ = _ := step_of_small small
    rw [unphased, phased]
    rfl

/-- Cuts come to what their axes come to. -/
theorem foldlM_axes (rule : LeftEdgeRule) (image : Image π) (cuts : List Cut) :
    (cuts.map Cut.axis).foldlM (fun image axis => image.step rule ⟨axis, .both⟩) image =
      (cuts.foldlM (Image.step rule) image).unphased :=
  @Traced.foldlM_eq_retold _ _ _ _ Event.unphased id Cut.axis (Image.step rule) _
    (fun image cut => image.step_unphased rule cut) cuts image

/-- A schedule with the cuts of two others, one after the other, comes to what these come to. -/
theorem cutAll_of_axes (rule : LeftEdgeRule) (image : Image π) {whole first second : Schedule}
    (same : whole.axes = first.axes ++ second.axes) :
    (image.cutAll rule whole).unphased =
      (image.cutAll rule first >>= fun stage => stage.cutAll rule second).unphased := by
  simp only [cutAll_eq_foldlM]
  rw [← List.foldlM_append, ← foldlM_axes, ← foldlM_axes, List.map_append]
  exact congrArg (fun axes => axes.foldlM (fun image axis => image.step rule ⟨axis, .both⟩) image) same

/-- A carving to a size, and from there to a smaller one, makes the cuts of both schedules. -/
theorem carve_of_axes (rule : LeftEdgeRule) (image : Image π) {between between' width height : Nat}
    (wide : between ≤ image.width ∧ width ≤ between) (high : between' ≤ image.height ∧ height ≤ between')
    (same : Schedule.axes ⟨image.width - width, image.height - height, .vertical⟩ =
      Schedule.axes ⟨image.width - between, image.height - between', .vertical⟩ ++
        Schedule.axes ⟨between - width, between' - height, .vertical⟩) :
    (image.carve rule width height).unphased =
      (image.carve rule between between' >>= fun stage => stage.carve rule width height).unphased := by
  have onward : (image.carve rule between between' >>= fun stage => stage.carve rule width height) =
      image.carve rule between between' >>= fun stage =>
        stage.cutAll rule ⟨between - width, between' - height, .vertical⟩ := by
    cases ended : (image.carve rule between between').outcome with
    | error error => rw [Traced.bind_of_error ended, Traced.bind_of_error ended]
    | ok stage =>
        obtain ⟨rfl, rfl, -⟩ := attains_of_carve ended
        have rest : stage.carve rule width height =
            stage.cutAll rule ⟨stage.width - width, stage.height - height, .vertical⟩ :=
          carve_of_fits rule (by omega)
        rw [Traced.bind_of_ok ended, Traced.bind_of_ok ended, rest]
  rw [onward, carve_of_fits rule (by omega), carve_of_fits rule (by omega)]
  exact cutAll_of_axes rule image same

end Image

namespace Carver

variable {π ε : Type} [Coloured π ε] [Add ε] [Sub ε] [Mul ε] [NatCast ε] [LT ε] [DecidableLT ε]

/-- It makes no difference to an operation whether another one goes before it: it comes to the same image or the same
    error, and the seams that it takes out are those that the other one has left of them. -/
structure Staged (carver : Carver π) (stage target : Command) : Prop where
  outcome_eq : ((carver.perform stage).course target).outcome = (carver.course target).outcome
  exists_stage : ∀ done, (carver.course target).outcome = .ok done →
    ∃ halfway, (carver.course stage).outcome = .ok halfway
  removals_eq : ∀ halfway, (carver.course stage).outcome = .ok halfway →
    Event.removals (carver.course target).events =
      Event.removals (carver.course stage).events ++
        Event.removals ((carver.perform stage).course target).events

variable {carver : Carver π}

theorem staged_of_axes {between between' width height : Nat}
    (wide : between ≤ carver.image.width ∧ width ≤ between)
    (high : between' ≤ carver.image.height ∧ height ≤ between')
    (same : Schedule.axes ⟨carver.image.width - width, carver.image.height - height, .vertical⟩ =
      Schedule.axes ⟨carver.image.width - between, carver.image.height - between', .vertical⟩ ++
        Schedule.axes ⟨between - width, between' - height, .vertical⟩) :
    carver.Staged (.carve between between') (.carve width height) := by
  have runs := carver.image.carve_of_axes carver.rule wide high same
  have outcomes := congrArg Traced.outcome runs
  have removals := congrArg (fun run => Event.removals run.events) runs
  simp only [Traced.outcome_unphased, Traced.removals_unphased] at outcomes removals
  have reached := carver.course_carve between between'
  cases ended : (carver.image.carve carver.rule between between').outcome with
  | error error =>
      have failed : (carver.course (.carve between between')).outcome = .error error := by
        rw [reached, ended]
        rfl
      rw [Traced.bind_of_error ended] at outcomes
      refine ⟨?_, ?_, ?_⟩
      · rw [perform_of_error failed]
      · intro done succeeded
        rw [carve_of_course succeeded] at outcomes
        contradiction
      · intro halfway succeeded
        rw [failed] at succeeded
        contradiction
  | ok stage =>
      have succeeded := course_of_carve ended
      rw [Traced.bind_of_ok ended] at outcomes removals
      refine ⟨?_, fun _ _ => ⟨_, succeeded⟩, ?_⟩
      · rw [perform_of_ok succeeded, course_carve, course_carve, outcomes]
      · intro halfway _
        rw [perform_of_ok succeeded, course_carve, course_carve, course_carve, removals]
        exact List.filterMap_append

/-- An image that has the size already is left as it is. -/
theorem course_carve_of_size {width height : Nat} (wide : carver.image.width = width)
    (high : carver.image.height = height) :
    carver.course (.carve width height) = ⟨[], .ok ⟨carver.image, none⟩⟩ := by
  subst wide high
  have idle : carver.image.carve carver.rule carver.image.width carver.image.height = ⟨[], .ok carver.image⟩ := by
    rw [Image.carve_of_fits carver.rule (by omega), Nat.sub_self, Nat.sub_self, Image.cutAll_eq_foldlM,
      Schedule.toList_rows]
    rfl
  rw [course_carve, idle]
  rfl

/-- A size that the image has already is no stage. -/
theorem staged_of_size {width height : Nat} (wide : carver.image.width = width) (high : carver.image.height = height)
    (target : Command) : carver.Staged (.carve width height) target := by
  have idle := course_carve_of_size wide high
  have succeeded : (carver.course (.carve width height)).outcome = .ok ⟨carver.image, none⟩ := by rw [idle]
  have same : carver.perform (.carve width height) = carver := perform_of_ok succeeded
  refine ⟨?_, fun _ _ => ⟨_, succeeded⟩, ?_⟩
  · rw [same]
  · intro halfway _
    rw [same, idle]
    rfl

/-- A carving that halts at a size on the way comes to what a carving at once comes to, if it cuts along one axis
    alone, or if it halts after as many columns as rows: to the same image or the same error, with the same seams. A
    size that has been reached once is reached again without a cut. -/
theorem carve_in_stages (carver : Carver π) (width height : Nat) :
    (∀ done, (carver.course (.carve width height)).outcome = .ok done →
      let once := carver.perform (.carve width height)
      once.course (.carve width height) = ⟨[], .ok ⟨once.image, none⟩⟩ ∧ once.perform (.carve width height) = once) ∧
    (∀ between, width ≤ between → between ≤ carver.image.width →
      carver.Staged (.carve between carver.image.height) (.carve width carver.image.height)) ∧
    (∀ between, height ≤ between → between ≤ carver.image.height →
      carver.Staged (.carve carver.image.width between) (.carve carver.image.width height)) ∧
    (∀ count, count ≤ min (carver.image.width - width) (carver.image.height - height) →
      carver.Staged (.carve (carver.image.width - count) (carver.image.height - count)) (.carve width height)) := by
  refine ⟨?_, ?_, ?_, ?_⟩
  · intro done succeeded once
    have size := attains_of_carve (carve_of_course succeeded)
    have reached : once.image = done.image := by rw [show once = _ from perform_of_ok succeeded]
    rw [← reached] at size
    have idle := course_carve_of_size size.1 size.2.1
    exact ⟨idle, perform_of_ok (by rw [idle])⟩
  · intro between narrower narrow
    refine staged_of_axes ⟨narrow, narrower⟩ ⟨Nat.le_refl _, Nat.le_refl _⟩ ?_
    rw [Nat.sub_self, ← Schedule.axes_add_columns, Nat.sub_add_sub_cancel narrow narrower]
  · intro between lower low
    refine staged_of_axes ⟨Nat.le_refl _, Nat.le_refl _⟩ ⟨low, lower⟩ ?_
    rw [Nat.sub_self, ← Schedule.axes_add_rows, Nat.sub_add_sub_cancel low lower]
  · intro count least
    rcases Nat.eq_zero_or_pos count with rfl | pos
    · exact staged_of_size rfl rfl _
    · refine staged_of_axes ⟨Nat.sub_le _ _, by omega⟩ ⟨Nat.sub_le _ _, by omega⟩ ?_
      rw [Nat.sub_sub_self (by omega), Nat.sub_sub_self (by omega), ← Schedule.axes_add_add]
      congr 2 <;> omega

theorem carve_in_stages_block :
    let carver : Carver (Rgb Float) := ⟨Image.block 0 255, .previous⟩
    let once := carver.perform (.carve 2 3)
    (∃ done, (carver.course (.carve 2 3)).outcome = .ok done) ∧
      once.course (.carve 2 3) = ⟨[], .ok ⟨once.image, none⟩⟩ ∧
      carver.Staged (.carve 3 4) (.carve 2 4) ∧ carver.Staged (.carve 4 3) (.carve 4 2) ∧
      carver.Staged (.carve 3 3) (.carve 2 3) := by
  intro carver once
  obtain ⟨again, narrowed, -, both⟩ := carver.carve_in_stages 2 3
  obtain ⟨-, -, lowest, -⟩ := carver.carve_in_stages 2 2
  obtain ⟨result, ended⟩ := carver.image.exists_carve .previous
    (show ¬ (4 < 2 ∨ 4 < 3) by decide) (attains_iff.2 (by decide))
  have succeeded : (carver.course (.carve 2 3)).outcome = .ok ⟨result, none⟩ := course_of_carve ended
  exact ⟨⟨_, succeeded⟩, (again _ succeeded).1, narrowed 3 (by decide) (by decide),
    lowest 3 (by decide) (by decide), both 1 (by decide)⟩

end Carver

end SeamCarving

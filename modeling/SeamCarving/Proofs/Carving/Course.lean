import SeamCarving.Proofs.Carving.Reach
import SeamCarving.Proofs.Carving.Removals

/-!
# The course of a carving

Which cuts a carving makes, in which order, what it reports of them and where it stops. The schedule has a closed
form: cuts in turns, then the rest of the columns, then the rest of the rows. `Made` is the record of a cut that
was made, and `takeOut` makes one by hand, with an operation that finds a seam and an operation that removes it.
Main statement: a carving makes the cuts of the closed form up to the first one that finds the image too small,
reports two lines for each of them, and comes to what the same cuts come to by hand (`carve_course`).
-/

namespace SeamCarving

/-- The axis that has its turn after this one. -/
def Axis.other : Axis → Axis
  | .vertical => .horizontal
  | .horizontal => .vertical

namespace Cut

/-- So many cuts that take turns, the first of them along the axis. -/
def turns : Axis → Nat → List Cut
  | _, 0 => []
  | axis, count + 1 => ⟨axis, .both⟩ :: turns axis.other count

/-- Cuts that take turns, and then those that are still missing to take off so many columns and rows. -/
def plan (axis : Axis) (count columns rows : Nat) : List Cut :=
  turns axis count ++
    (List.replicate (columns - ((turns axis count).map Cut.axis).count .vertical) ⟨.vertical, .width⟩ ++
      List.replicate (rows - ((turns axis count).map Cut.axis).count .horizontal) ⟨.horizontal, .height⟩)

theorem plan_vertical (count columns rows : Nat) :
    plan .vertical (count + 1) (columns + 1) rows =
      ⟨.vertical, .both⟩ :: plan .horizontal count columns rows := by
  simp [plan, turns, Axis.other]

theorem plan_horizontal (count columns rows : Nat) :
    plan .horizontal (count + 1) columns (rows + 1) =
      ⟨.horizontal, .both⟩ :: plan .vertical count columns rows := by
  simp [plan, turns, Axis.other]

theorem plan_zero (axis : Axis) (columns rows : Nat) :
    plan axis 0 columns rows =
      List.replicate columns ⟨.vertical, .width⟩ ++ List.replicate rows ⟨.horizontal, .height⟩ := by
  simp [plan, turns]

end Cut

namespace Schedule

/-- How many cuts take turns until there are no columns or no rows left to cut off. -/
def alternations : Schedule → Nat
  | ⟨columns, rows, .vertical⟩ => min (2 * columns - 1) (2 * rows)
  | ⟨columns, rows, .horizontal⟩ => min (2 * columns) (2 * rows - 1)

theorem alternations_without_rows (columns : Nat) (turn : Axis) :
    alternations ⟨columns, 0, turn⟩ = 0 := by
  cases turn <;> simp [alternations]

theorem alternations_without_columns (rows : Nat) (turn : Axis) :
    alternations ⟨0, rows, turn⟩ = 0 := by
  cases turn <;> simp [alternations]

/-- The cuts of a schedule take turns as long as they can, then the columns that are left go, then the rows. -/
theorem toList_eq_plan (schedule : Schedule) :
    schedule.toList =
      Cut.plan schedule.turn schedule.alternations schedule.columns schedule.rows := by
  fun_induction toList schedule with
  | case1 schedule absent =>
      obtain ⟨turn, rfl⟩ := exists_eq_of_next?_eq_none absent
      rw [alternations_without_rows, Cut.plan_zero]
      rfl
  | case2 schedule cut rest present ih =>
      rw [ih]
      unfold next? at present
      split at present
      · contradiction
      all_goals
        simp only [Option.some.injEq, Prod.mk.injEq] at present
        obtain ⟨rfl, rfl⟩ := present
      · next columns rows =>
          have one_more : alternations ⟨columns + 1, rows + 1, .vertical⟩ =
              alternations ⟨columns, rows + 1, .horizontal⟩ + 1 := by
            simp only [alternations]
            omega
          rw [one_more, Cut.plan_vertical]
      · next columns rows =>
          have one_more : alternations ⟨columns + 1, rows + 1, .horizontal⟩ =
              alternations ⟨columns + 1, rows, .vertical⟩ + 1 := by
            simp only [alternations]
            omega
          rw [one_more, Cut.plan_horizontal]
      · next columns turn =>
          simp only [alternations_without_rows, Cut.plan_zero]
          rfl
      · next rows turn =>
          simp only [alternations_without_columns, Cut.plan_zero]
          rfl

example : Cut.plan .vertical (alternations ⟨2, 2, .vertical⟩) 2 2 =
    [⟨.vertical, .both⟩, ⟨.horizontal, .both⟩, ⟨.vertical, .both⟩, ⟨.horizontal, .height⟩] := by
  decide

end Schedule

/-- The event as a line of the log: how much attention it deserves, and the text. -/
def Event.line (event : Event) : Level × String :=
  (event.level, event.message)

/-- A cut that was made, the seam that it took out, and the size that it left. -/
structure Made where
  cut : Cut
  seam : Seam
  width : Nat
  height : Nat

/-- What was removed by the cut. -/
def Made.removal (made : Made) : Axis × Seam :=
  (made.cut.axis, made.seam)

/-- The lines that report the cut: its seam, and then its phase with the size after it. -/
def Made.lines (made : Made) : List (Level × String) :=
  [(.trace, made.cut.axis.name ++ " seam " ++ made.seam.listing),
    (.debug, s!"{made.cut.phase.name}: {made.width}x{made.height}")]

variable {π ε : Type} [Coloured π ε] [Add ε] [Sub ε] [Mul ε] [NatCast ε] [LT ε] [DecidableLT ε]

/-- The image `before` was large enough for the cut, which took out the seam that is found in it and left the
    image `after`. -/
structure Made.Leads (rule : LeftEdgeRule) (before : Image π) (made : Made) (after : Image π) : Prop where
  large : 3 ≤ before.width ∧ 3 ≤ before.height
  findSeam_eq : (before.view.findSeam rule made.cut.axis).outcome = .ok made.seam
  removeSeam_eq : before.view.removeSeam made.cut.axis made.seam = .ok after
  width_eq : made.width = after.width
  height_eq : made.height = after.height

theorem Image.CutTo.leads {rule : LeftEdgeRule} {image smaller : Image π} {cut : Cut}
    (made : image.CutTo rule cut.axis smaller) :
    Made.Leads rule image ⟨cut, image.view.seamAlong rule cut.axis, smaller.width, smaller.height⟩ smaller := by
  have found := image.view.findSeam_of_large rule cut.axis made.large
  exact ⟨made.large, congrArg Traced.outcome found, made.removeSeam_eq, rfl, rfl⟩

/-- The cuts that lead from one image to another can be listed with what they took out and left, and they are the
    first ones of the schedule. -/
theorem Carved.exists_made {rule : LeftEdgeRule} {image current : Image π} {schedule left : Schedule}
    {events : List Event} (carved : Carved rule image schedule events current left) :
    ∃ made : List Made, schedule.toList = made.map Made.cut ++ left.toList ∧
      events.map Event.line = made.flatMap Made.lines ∧
      Event.removals events = made.map Made.removal ∧
      ∀ index entry, made[index]? = some entry → ∃ before after,
        image.removeAll ((made.take index).map Made.removal) = .ok before ∧
        entry.Leads rule before after := by
  induction carved with
  | start image schedule => exact ⟨[], rfl, rfl, rfl, fun index entry present => by simp at present⟩
  | @cut image smaller current schedule rest left cut events present made others ih =>
      obtain ⟨later, schedule_eq, lines_eq, removals_eq, leads⟩ := ih
      let first : Made := ⟨cut, image.view.seamAlong rule cut.axis, smaller.width, smaller.height⟩
      refine ⟨first :: later, ?_, ?_, ?_, ?_⟩
      · rw [Schedule.toList_eq_cons present, schedule_eq]
        rfl
      · rw [List.map_cons, List.map_cons, lines_eq]
        rfl
      · rw [List.map_cons, ← removals_eq]
        rfl
      · intro index entry listed
        cases index with
        | zero =>
            obtain rfl : first = entry := Option.some.inj listed
            exact ⟨image, smaller, rfl, made.leads⟩
        | succ index =>
            obtain ⟨before, after, removed, lead⟩ := leads index entry listed
            refine ⟨before, after, ?_, lead⟩
            exact Image.removeAll_cons_eq_ok_iff.2 ⟨smaller, made.removeSeam_eq, removed⟩

namespace Carver

/-- Takes out the seam along an axis with two operations: the first finds it, and the second removes what the
    first has found. -/
def takeOut (carver : Carver π) (axis : Axis) : Traced (Carver π) := do
  let found ← carver.course (.find axis)
  let between : Carver π := { carver with image := found.image }
  let removed ← between.course (.remove axis found.seam)
  return { between with image := removed.image }

section

variable {rule : LeftEdgeRule} {image smaller : Image π} {axis : Axis}

theorem takeOut_of_cutTo (made : image.CutTo rule axis smaller) :
    (⟨image, rule⟩ : Carver π).takeOut axis =
      ⟨[.found axis (image.view.seamAlong rule axis)], .ok ⟨smaller, rule⟩⟩ := by
  rw [takeOut, course_find, image.view.findSeam_of_large rule axis made.large]
  simp only [Except.map, Traced.ok_bind, course_remove, made.removeSeam_eq]
  rfl

theorem takeOut_of_small (small : ¬ (3 ≤ image.width ∧ 3 ≤ image.height)) :
    (⟨image, rule⟩ : Carver π).takeOut axis =
      .fail (.degenerateImage (image.view.along axis).width (image.view.along axis).height) := by
  rw [takeOut, course_find, image.view.findSeam_of_small rule axis small]
  rfl

end

/-- By hand the cuts of a list come to what they come to as steps of a carving, and find the same seams. -/
theorem foldlM_takeOut (rule : LeftEdgeRule) (image : Image π) (cuts : List Cut) :
    (cuts.map Cut.axis).foldlM takeOut (⟨image, rule⟩ : Carver π) =
      ⟨(cuts.foldlM (Image.step rule) image).events.filter fun event => event.level = .trace,
        (cuts.foldlM (Image.step rule) image).outcome.map fun result => ⟨result, rule⟩⟩ := by
  induction cuts generalizing image with
  | nil => rfl
  | cons cut cuts ih =>
      rw [List.map_cons, List.foldlM_cons, List.foldlM_cons]
      rcases image.cutTo_or_small rule cut.axis with ⟨smaller, made⟩ | small
      · rw [takeOut_of_cutTo made, Image.step_of_cutTo made, Traced.ok_bind, Traced.ok_bind, ih smaller]
        rfl
      · rw [takeOut_of_small small, Image.step_of_small small, Traced.fail_bind, Traced.fail_bind]
        rfl

/-- A carving to a size within the image makes cuts in turns, the first of them off the width, as long as both sizes
    are too large, then those that are missing off the width, then those that are missing off the height. Each cut
    that is made takes out the seam that is found in the image as it then is, and is reported by two lines. What is
    left when these seams are removed one after another is the image that the carving comes to; if it fails, it is an
    image with a size below three, for which the next of the cuts is refused. Finding and removing the seams by hand
    comes to the same. -/
theorem carve_course (carver : Carver π) {width height : Nat} (narrow : width ≤ carver.image.width)
    (low : height ≤ carver.image.height) :
    let columns := carver.image.width - width
    let rows := carver.image.height - height
    let turns := Cut.turns .vertical (min (2 * columns - 1) (2 * rows))
    let cuts := turns ++
      (List.replicate (columns - (turns.map Cut.axis).count .vertical) ⟨.vertical, .width⟩ ++
        List.replicate (rows - (turns.map Cut.axis).count .horizontal) ⟨.horizontal, .height⟩)
    let course := carver.course (.carve width height)
    ∃ (made : List Made) (current : Image π),
      made.map Made.cut = cuts.take made.length ∧
      course.events.map Event.line = made.flatMap Made.lines ∧
      (∀ index entry, made[index]? = some entry → ∃ before after,
        carver.image.removeAll ((made.take index).map Made.removal) = .ok before ∧
        entry.Leads carver.rule before after) ∧
      carver.image.removeAll (made.map Made.removal) = .ok current ∧
      (match course.outcome with
        | .ok done => made.length = cuts.length ∧ done.image = current
        | .error error => ∃ cut, cuts[made.length]? = some cut ∧
            (current.width < 3 ∨ current.height < 3) ∧
            error = match cut.axis with
              | .vertical => .degenerateImage current.width current.height
              | .horizontal => .degenerateImage current.height current.width) ∧
      (cuts.map Cut.axis).foldlM takeOut carver =
        ⟨course.events.filter fun event => event.level = .trace,
          course.outcome.map fun done => { carver with image := done.image }⟩ := by
  intro columns rows turns cuts course
  have cuts_eq : Schedule.toList ⟨columns, rows, .vertical⟩ = cuts :=
    Schedule.toList_eq_plan ⟨columns, rows, .vertical⟩
  have run_eq : carver.image.carve carver.rule width height =
      carver.image.cutAll carver.rule ⟨columns, rows, .vertical⟩ :=
    Image.carve_of_fits carver.rule (by omega)
  have course_eq := carver.course_carve width height
  rw [run_eq] at course_eq
  have by_hand := foldlM_takeOut carver.rule carver.image cuts
  rw [← cuts_eq, ← Image.cutAll_eq_foldlM, cuts_eq] at by_hand
  obtain ⟨current, left, carved, stops⟩ := cutAll_run carver.rule carver.image ⟨columns, rows, .vertical⟩
  obtain ⟨made, schedule_eq, lines_eq, removals_eq, leads⟩ := carved.exists_made
  rw [cuts_eq] at schedule_eq
  clear_value cuts
  simp only [course, course_eq]
  refine ⟨made, current, ?_, lines_eq, leads, ?_, ?_, ?_⟩
  · rw [schedule_eq, List.take_left' (List.length_map _)]
  · rw [← removals_eq]
    exact carved.removeAll_eq
  · generalize (carver.image.cutAll carver.rule ⟨columns, rows, .vertical⟩).outcome = outcome at stops
    cases stops with
    | finished absent =>
        rw [schedule_eq, Schedule.toList_eq_nil absent]
        simp [Except.map]
    | @stuck cut rest present small =>
        refine ⟨cut, ?_, by omega, ?_⟩
        · rw [schedule_eq, Schedule.toList_eq_cons present]
          simp
        · cases cut.axis <;> simp
  · rw [by_hand]
    cases (carver.image.cutAll carver.rule ⟨columns, rows, .vertical⟩).outcome <;> rfl

theorem carve_course_block :
    ∃ made : List Made, made.map Made.cut = [⟨.vertical, .both⟩, ⟨.horizontal, .height⟩] ∧
      ((⟨Image.block (0 : Float) 255, .previous⟩ : Carver (Rgb Float)).course
        (.carve 3 3)).events.map Event.line = made.flatMap Made.lines := by
  obtain ⟨result, ended⟩ := (Image.block (0 : Float) 255).exists_carve .previous
    (show ¬ (4 < 3 ∨ 4 < 3) by decide) (attains_iff.2 (by decide))
  have succeeded : ((⟨Image.block 0 255, .previous⟩ : Carver (Rgb Float)).course (.carve 3 3)).outcome =
      .ok ⟨result, none⟩ :=
    course_of_carve ended
  obtain ⟨made, current, cuts_eq, lines_eq, -, -, finished, -⟩ :=
    carve_course (⟨Image.block 0 255, .previous⟩ : Carver (Rgb Float)) (show 3 ≤ 4 by decide)
      (show 3 ≤ 4 by decide)
  rw [succeeded] at finished
  rw [finished.1, List.take_length] at cuts_eq
  exact ⟨made, cuts_eq, lines_eq⟩

end Carver

end SeamCarving

import SeamCarving.Proofs.Carving.Run

/-!
# Which sizes a carving can reach

Images only shrink during a carving, so it succeeds if the image before its last cut is large enough, and which
way that cut runs follows from the amounts that are to be cut off. Main statement: the exact outcome of a
carving for every image and target, and the number of seams that it takes out (`perform_carve`).
-/

namespace SeamCarving

namespace Schedule

/-- The axis of the last cut. -/
def lastAxis? (schedule : Schedule) : Option Axis :=
  if schedule.size = 0 then none
  else if schedule.rows < schedule.columns ∨
      schedule.rows = schedule.columns ∧ schedule.turn = .horizontal then
    some .vertical
  else
    some .horizontal

/-- The image before the last cut has three columns and rows, given the sizes that the cut leaves. -/
def Attains (schedule : Schedule) (width height : Nat) : Prop :=
  match schedule.lastAxis? with
  | none => True
  | some .vertical => 2 ≤ width ∧ 3 ≤ height
  | some .horizontal => 3 ≤ width ∧ 2 ≤ height

variable {schedule rest : Schedule} {cut : Cut}

theorem lastAxis?_eq_none_iff : schedule.lastAxis? = none ↔ schedule.size = 0 := by
  unfold lastAxis?
  split
  · simp_all
  · split <;> simp_all

theorem lastAxis?_of_next? (present : schedule.next? = some (cut, rest)) :
    schedule.lastAxis? = rest.lastAxis?.or (some cut.axis) := by
  unfold next? at present
  split at present
  · simp at present
  all_goals
    simp only [Option.some.injEq, Prod.mk.injEq] at present
    obtain ⟨rfl, rfl⟩ := present
    grind [lastAxis?, size]

theorem pos_of_lastAxis? {axis : Axis} (last : schedule.lastAxis? = some axis) :
    match axis with
    | .vertical => 0 < schedule.columns
    | .horizontal => 0 < schedule.rows := by
  unfold lastAxis? size at last
  split at last
  · simp at last
  · split at last
    · obtain rfl := Option.some.inj last
      simp only
      omega
    · obtain rfl := Option.some.inj last
      simp only
      omega

end Schedule

variable {π ε : Type} [Coloured π ε] [Add ε] [Sub ε] [Mul ε] [NatCast ε] [LT ε] [DecidableLT ε]

namespace Carved

variable {rule : LeftEdgeRule} {image current : Image π} {schedule left : Schedule} {events : List Event}

theorem lastAxis?_eq (carved : Carved rule image schedule events current left) (more : left.size ≠ 0) :
    schedule.lastAxis? = left.lastAxis? := by
  induction carved with
  | start image schedule => rfl
  | cut present made others ih =>
      have same := ih more
      rw [Schedule.lastAxis?_of_next? present, same]
      cases last : Schedule.lastAxis? _ with
      | none => exact absurd (Schedule.lastAxis?_eq_none_iff.1 last) more
      | some axis => rfl

/-- A carving that has made all its cuts has made the last one in an image that was large enough. -/
theorem attains {turn : Axis} (carved : Carved rule image schedule events current ⟨0, 0, turn⟩) :
    schedule.Attains current.width current.height := by
  generalize done : (⟨0, 0, turn⟩ : Schedule) = left at carved
  induction carved with
  | start image schedule =>
      subst done
      trivial
  | @cut image smaller current schedule rest left cut events present made others ih =>
      have later := ih done
      have last := Schedule.lastAxis?_of_next? present
      unfold Schedule.Attains at later ⊢
      cases axis : rest.lastAxis? with
      | some axis' =>
          rw [axis] at later last
          rw [last]
          exact later
      | none =>
          -- this cut is the last, so the image that it leaves is the final one
          have finished := Schedule.lastAxis?_eq_none_iff.1 axis
          have size := others.size_eq
          have large := made.large
          subst done
          unfold Schedule.size at finished
          rw [axis] at last
          rw [last]
          cases turned : cut.axis with
          | vertical =>
              rw [turned] at made
              have lost := made.size_vertical
              simp only [Option.none_or]
              omega
          | horizontal =>
              rw [turned] at made
              have lost := made.size_horizontal
              simp only [Option.none_or]
              omega

end Carved

/-- A carving that fails does so because the last cut of its schedule cannot be made. -/
theorem not_attains_of_cutAll {rule : LeftEdgeRule} {image : Image π} {schedule : Schedule}
    {error : CarveError} (failed : (image.cutAll rule schedule).outcome = .error error)
    (columns : schedule.columns ≤ image.width) (rows : schedule.rows ≤ image.height) :
    ¬ schedule.Attains (image.width - schedule.columns) (image.height - schedule.rows) ∧
      ∃ width height, error = .degenerateImage width height := by
  obtain ⟨current, left, carved, stops⟩ := cutAll_run rule image schedule
  rw [failed] at stops
  cases stops with
  | stuck present small =>
      refine ⟨?_, _, _, rfl⟩
      intro attains
      have size := carved.size_eq
      have more := Schedule.size_eq_of_next? present
      unfold Schedule.Attains at attains
      rw [carved.lastAxis?_eq (by omega)] at attains
      -- the sizes only shrink, and the last cut has yet to take its share off the image that is too small
      cases last : left.lastAxis? with
      | none =>
          have none_left := Schedule.lastAxis?_eq_none_iff.1 last
          omega
      | some axis =>
          have pending := Schedule.pos_of_lastAxis? last
          rw [last] at attains
          cases axis with
          | vertical =>
              simp only at attains pending
              omega
          | horizontal =>
              simp only at attains pending
              omega

theorem attains_iff {columns rows width height : Nat} :
    (⟨columns, rows, .vertical⟩ : Schedule).Attains width height ↔
      columns = 0 ∧ rows = 0 ∨ rows < columns ∧ 2 ≤ width ∧ 3 ≤ height ∨
        columns ≤ rows ∧ 0 < rows ∧ 3 ≤ width ∧ 2 ≤ height := by
  unfold Schedule.Attains Schedule.lastAxis? Schedule.size
  by_cases none_left : columns + rows = 0
  · rw [if_pos none_left]
    simp only [true_iff]
    omega
  · by_cases wider : rows < columns
    · rw [if_neg none_left, if_pos (Or.inl wider)]
      simp only
      omega
    · rw [if_neg none_left, if_neg (by simp [wider])]
      simp only
      omega

section

variable {rule : LeftEdgeRule} {image result : Image π} {width height : Nat}

theorem attains_of_carve (succeeded : (image.carve rule width height).outcome = .ok result) :
    result.width = width ∧ result.height = height ∧
      (⟨image.width - width, image.height - height, .vertical⟩ : Schedule).Attains width height := by
  obtain ⟨fits, turn, carved⟩ := carved_of_carve succeeded
  have size := carved.size_eq
  simp only at size
  obtain rfl : result.width = width := by omega
  obtain rfl : result.height = height := by omega
  exact ⟨rfl, rfl, carved.attains⟩

theorem Image.two_le_of_carve (succeeded : (image.carve rule width height).outcome = .ok result)
    (smaller : ¬ (width = image.width ∧ height = image.height)) : 2 ≤ width ∧ 2 ≤ height := by
  obtain ⟨fits, -⟩ := carved_of_carve succeeded
  obtain ⟨-, -, attains⟩ := attains_of_carve succeeded
  rw [attains_iff] at attains
  omega

theorem Image.exists_carve (rule : LeftEdgeRule)
    (fits : ¬ (image.width < width ∨ image.height < height))
    (attains : (⟨image.width - width, image.height - height, .vertical⟩ : Schedule).Attains width height) :
    ∃ result, (image.carve rule width height).outcome = .ok result := by
  cases ended : (image.carve rule width height).outcome with
  | ok result => exact ⟨result, rfl⟩
  | error error =>
      rw [carve_of_fits rule fits] at ended
      have unattained := (not_attains_of_cutAll ended (Nat.sub_le _ _) (Nat.sub_le _ _)).1
      rw [Nat.sub_sub_self (by omega), Nat.sub_sub_self (by omega)] at unattained
      contradiction

theorem Image.exists_degenerate (rule : LeftEdgeRule)
    (fits : ¬ (image.width < width ∨ image.height < height))
    (unattained :
      ¬ (⟨image.width - width, image.height - height, .vertical⟩ : Schedule).Attains width height) :
    ∃ wide high, (image.carve rule width height).outcome = .error (.degenerateImage wide high) := by
  cases ended : (image.carve rule width height).outcome with
  | ok result => exact absurd (attains_of_carve ended).2.2 unattained
  | error error =>
      rw [carve_of_fits rule fits] at ended
      obtain ⟨-, wide, high, rfl⟩ := not_attains_of_cutAll ended (Nat.sub_le _ _) (Nat.sub_le _ _)
      exact ⟨wide, high, rfl⟩

end

/-- Carving refuses a target that is larger on some axis, and else succeeds exactly if nothing is to be cut off
    or the last cut finds three columns and rows. It then leaves an image of the target size, by as many
    removals along each axis as the sizes differ. Every other carving fails at an image that is too small. -/
theorem Carver.perform_carve (carver : Carver π) (width height : Nat) :
    let course := carver.course (.carve width height)
    let columns := carver.image.width - width
    let rows := carver.image.height - height
    if carver.image.width < width ∨ carver.image.height < height then
      course.outcome = .error (.upscale carver.image.width carver.image.height width height)
    else if columns = 0 ∧ rows = 0 ∨ rows < columns ∧ 2 ≤ width ∧ 3 ≤ height ∨
        columns ≤ rows ∧ 0 < rows ∧ 3 ≤ width ∧ 2 ≤ height then
      ∃ result, course.outcome = .ok result ∧
        (carver.perform (.carve width height)).image = result.image ∧
        result.image.width = width ∧ result.image.height = height ∧
        carver.image.removeAll (Event.removals course.events) = .ok result.image ∧
        ((Event.removals course.events).map Prod.fst).count .vertical = columns ∧
        ((Event.removals course.events).map Prod.fst).count .horizontal = rows
    else
      ∃ wide high, course.outcome = .error (.degenerateImage wide high) := by
  intro course columns rows
  have course_eq := carver.course_carve width height
  by_cases larger : carver.image.width < width ∨ carver.image.height < height
  · rw [if_pos larger]
    simp only [course, course_eq, Image.carve_of_larger carver.rule larger]
    rfl
  · rw [if_neg larger]
    by_cases attains : (⟨columns, rows, .vertical⟩ : Schedule).Attains width height
    · rw [if_pos (attains_iff.1 attains)]
      obtain ⟨result, ended⟩ := Image.exists_carve carver.rule larger attains
      obtain ⟨width_eq, height_eq, -⟩ := attains_of_carve ended
      obtain ⟨-, turn, carved⟩ := carved_of_carve ended
      have count := carved.count_removals
      have outcome_eq : course.outcome = .ok ⟨result, none⟩ := course_of_carve ended
      refine ⟨_, outcome_eq, ?_, width_eq, height_eq, ?_, ?_, ?_⟩
      · rw [perform, show (carver.course _).outcome = _ from outcome_eq]
      · simp only [course, course_eq]
        exact carved.removeAll_eq
      · simp only [course, course_eq]
        exact count.1
      · simp only [course, course_eq]
        exact count.2
    · rw [if_neg (mt attains_iff.2 attains)]
      obtain ⟨wide, high, ended⟩ := Image.exists_degenerate carver.rule larger attains
      refine ⟨wide, high, ?_⟩
      simp only [course, course_eq, ended]
      rfl

end SeamCarving

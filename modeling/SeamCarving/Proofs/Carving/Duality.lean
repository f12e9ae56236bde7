import SeamCarving.Proofs.Carving.Course
import SeamCarving.Proofs.Carving.Inspected
import SeamCarving.Proofs.Carving.Retelling

/-!
# Exchanging the axes

What is done along one axis of a picture is what is done along the other axis of the picture with its axes
exchanged. Seams are found alike, a removal leaves the same image with its axes exchanged, and a carving that only
shortens a picture is the carving that only narrows the other (`answers_transpose`).
-/

namespace SeamCarving

/-- The phase whose cuts take off the other size. -/
def Phase.other : Phase → Phase
  | .both => .both
  | .width => .height
  | .height => .width

/-- The cut along the other axis. -/
def Cut.turned (cut : Cut) : Cut :=
  ⟨cut.axis.other, cut.phase.other⟩

/-- The event as it is reported of the picture with its axes exchanged. -/
def Event.turned : Event → Event
  | .found axis seam => .found axis.other seam
  | .cut phase width height => .cut phase.other height width

/-- The error with the two sizes of an image that is too small exchanged. -/
def CarveError.swapped : CarveError → CarveError
  | .degenerateImage width height => .degenerateImage height width
  | error => error

namespace View

variable {π : Type}

@[simp] theorem along_other (view : View π) (axis : Axis) : view.transpose.along axis.other = view.along axis := by
  cases axis with
  | vertical => exact view.transpose_transpose
  | horizontal => rfl

section

variable {view : View π} {axis : Axis} {seam : Seam} {image : Image π}

theorem Removed.transpose (removed : view.Removed axis seam image) :
    view.transpose.Removed axis.other seam image.transpose := by
  have same : (image.view.transpose.along axis.other).ShowsSame (image.transpose.view.along axis.other) :=
    image.view.transpose.showsSame_toImage.along axis.other
  rw [along_other] at same
  have width_eq := removed.width_eq
  have height_eq := removed.height_eq
  refine ⟨?_, ?_, ?_⟩
  · rw [along_other, ← same.width_eq, width_eq]
  · rw [along_other, ← same.height_eq, height_eq]
  · intro x y gap hx hy entry
    rw [along_other] at hx hy ⊢
    rw [← same.pixel?_eq x y (by omega) (by omega), removed.pixel?_eq x y gap hx hy entry]

end

theorem removeSeam_transpose (view : View π) (axis : Axis) (seam : Seam) :
    view.transpose.removeSeam axis.other seam =
      ((view.removeSeam axis seam).map Image.transpose).mapError CarveError.swapped := by
  rcases view.removeSeam_cases axis seam with narrow | ⟨malformation, wide, found⟩ |
    ⟨image, wide, fits, succeeded, removed⟩
  · rw [removeSeam_of_narrow narrow, removeSeam_of_narrow (by rwa [along_other]), width_transpose,
      height_transpose]
    rfl
  · rw [removeSeam_of_malformed wide found,
      removeSeam_of_malformed (by rwa [along_other]) (by rwa [along_other])]
    rfl
  · rw [succeeded, removed.transpose.removeSeam_eq (by rwa [along_other]) (by rwa [along_other])]
    rfl

end View

variable {π ε : Type} [Coloured π ε] [Add ε] [Sub ε] [Mul ε] [NatCast ε] [LT ε] [DecidableLT ε]

theorem View.findSeam_transpose (view : View π) (rule : LeftEdgeRule) (axis : Axis) :
    view.transpose.findSeam rule axis.other = (view.findSeam rule axis).retold Event.turned id := by
  rw [findSeam, findSeam, along_other]
  cases (view.along axis).energy.seam rule <;> rfl

namespace Image

variable {rule : LeftEdgeRule}

/-- A cut along the other axis of the image with its axes exchanged. The view of that image is not the view with
    exchanged axes, but shows the same. -/
theorem cut_transpose (image : Image π) (rule : LeftEdgeRule) (axis : Axis) :
    image.transpose.cut rule axis.other = (image.cut rule axis).retold Event.turned transpose := by
  have alike : image.view.transpose.AnswersAlike image.transpose.view :=
    image.view.transpose.showsSame_toImage.answersAlike
  have found := image.view.findSeam_transpose rule axis
  rw [alike.findSeam_eq] at found
  rcases image.cutTo_or_small rule axis with ⟨smaller, made⟩ | small
  · have removed := image.view.removeSeam_transpose axis (image.view.seamAlong rule axis)
    rw [alike.removeSeam_eq, made.removeSeam_eq] at removed
    rw [cut_of_cutTo made, cut, found, image.view.findSeam_of_large rule axis made.large]
    change (⟨[.found axis.other (image.view.seamAlong rule axis)],
      .ok (image.view.seamAlong rule axis)⟩ : Traced Seam) >>= _ = _
    rw [Traced.ok_bind, removed]
    rfl
  · rw [cut_of_small small, cut, found, image.view.findSeam_of_small rule axis small]
    rfl

theorem step_transpose (image : Image π) (rule : LeftEdgeRule) (cut : Cut) :
    image.transpose.step rule cut.turned = (image.step rule cut).retold Event.turned transpose := by
  rw [step, Cut.turned, cut_transpose]
  refine Traced.bind_eq_retold ?_
  intro smaller
  rw [width_transpose, height_transpose]
  rfl

end Image

theorem Schedule.toList_rows (rows : Nat) (turn : Axis) :
    toList ⟨0, rows, turn⟩ = List.replicate rows ⟨.horizontal, .height⟩ := by
  rw [toList_eq_plan]
  simp [alternations_without_columns, Cut.plan_zero]

theorem Schedule.toList_columns (columns : Nat) (turn : Axis) :
    toList ⟨columns, 0, turn⟩ = List.replicate columns ⟨.vertical, .width⟩ := by
  rw [toList_eq_plan]
  simp [alternations_without_rows, Cut.plan_zero]

/-- The cuts that only shorten an image are, turned, those that only narrow the image with its axes exchanged. -/
theorem Image.carve_transpose (image : Image π) (rule : LeftEdgeRule) {rows : Nat} (fits : rows ≤ image.height) :
    image.transpose.carve rule rows image.width =
      (image.carve rule image.width rows).retold Event.turned transpose := by
  have lower : ¬ (image.width < image.width ∨ image.height < rows) := by omega
  have narrower : ¬ (image.transpose.width < rows ∨ image.transpose.height < image.width) := by
    rw [width_transpose, height_transpose]
    omega
  have cuts : Schedule.toList ⟨image.height - rows, 0, .vertical⟩ =
      (Schedule.toList ⟨0, image.height - rows, .vertical⟩).map Cut.turned := by
    rw [Schedule.toList_rows, Schedule.toList_columns, List.map_replicate]
    rfl
  rw [carve_of_fits rule lower, carve_of_fits rule narrower, cutAll_eq_foldlM, cutAll_eq_foldlM, width_transpose,
    height_transpose, Nat.sub_self, cuts]
  exact Traced.foldlM_eq_retold (fun image cut => image.step_transpose rule cut) _ image

/-- With the axes of a picture exchanged, the seams of the other direction are found and removed: a seam or an error
    is found for one exactly if it is found for the other; a removal leaves the image with its axes exchanged, or
    fails with the same error but for the order of the sizes in it. A carving that only shortens the picture leaves
    the image with its axes exchanged that narrowing the other as much leaves, and reports the same seams, for either
    rule; if one fails, then so does the other, with the same image that is too small. -/
theorem View.answers_transpose {view turned : View π} (same : view.transpose.ShowsSame turned) :
    (∀ rule axis, (turned.findSeam rule axis.other).outcome = (view.findSeam rule axis).outcome) ∧
    (∀ axis seam, turned.removeSeam axis.other seam =
      ((view.removeSeam axis seam).map Image.transpose).mapError CarveError.swapped) ∧
    (∀ rows, rows ≤ view.height →
      (turned.carve rows view.width).outcome = (view.carve view.width rows).outcome.map Image.transpose ∧
      (∀ rule, turned.toImage.carve rule rows view.width =
        (view.toImage.carve rule view.width rows).retold Event.turned Image.transpose) ∧
      (∀ error, (view.carve view.width rows).outcome = .error error →
        ∃ width height, error = .degenerateImage width height)) ∧
    (∀ image : Image π, image.transpose.transpose = image) := by
  have alike : view.transpose.AnswersAlike turned := same.answersAlike
  have carved : ∀ rule rows, rows ≤ view.height → turned.toImage.carve rule rows view.width =
      (view.toImage.carve rule view.width rows).retold Event.turned Image.transpose := by
    intro rule rows fits
    rw [← same.toImage_eq, view.toImage_transpose]
    exact view.toImage.carve_transpose rule fits
  refine ⟨?_, ?_, ?_, Image.transpose_transpose⟩
  · intro rule axis
    rw [← alike.findSeam_eq, view.findSeam_transpose, Traced.retold]
    cases (view.findSeam rule axis).outcome <;> rfl
  · intro axis seam
    rw [← alike.removeSeam_eq]
    exact view.removeSeam_transpose axis seam
  · intro rows fits
    refine ⟨?_, fun rule => carved rule rows fits, ?_⟩
    · exact congrArg Traced.outcome (carved default rows fits)
    · intro error failed
      have lower : ¬ (view.toImage.width < view.width ∨ view.toImage.height < rows) :=
        not_or.2 ⟨Nat.lt_irrefl _, Nat.not_lt_of_le fits⟩
      rw [carve, Image.carve_of_fits default lower] at failed
      exact (not_attains_of_cutAll failed (Nat.sub_le _ _) (Nat.sub_le _ _)).2

theorem View.answers_transpose_litUp :
    let image := Image.litUp (fun x _ => decide (3 < x)) 255
    image.view.transpose.ShowsSame image.transpose.view ∧
      ∃ result, (image.view.carve 6 2).outcome = .ok result ∧
        (image.transpose.view.carve 2 6).outcome = .ok result.transpose := by
  intro image
  have same : image.view.transpose.ShowsSame image.transpose.view := image.view.transpose.showsSame_toImage
  obtain ⟨result, lower⟩ := image.view.toImage.exists_carve default
    (show ¬ (6 < 6 ∨ 3 < 2) by decide) (attains_iff.2 (by decide))
  have carved : (image.view.carve 6 2).outcome = .ok result := lower
  have turned := ((answers_transpose same).2.2.1 2 (show 2 ≤ 3 by decide)).1
  refine ⟨same, result, carved, ?_⟩
  exact turned.trans (congrArg (Except.map Image.transpose) carved)

end SeamCarving

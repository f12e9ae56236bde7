import SeamCarving.Proofs.Energy.Border
import SeamCarving.Proofs.Seam.Relaxation
import SeamCarving.Proofs.Seam.Removed

/-!
# The seam that is found

The finder answers the seam of the terrain that a picture shows along an axis, unless the picture has less than
three columns or rows. Main statement: with three columns and rows or more a seam is found in either direction
and can be removed at once, whatever the pixels are; with less there is none (`findSeam_and_removeSeam`).
-/

namespace SeamCarving.View

variable {π ε : Type} [Coloured π ε] [Add ε] [Sub ε] [Mul ε] [NatCast ε] [LT ε] [DecidableLT ε]

/-- The seam of the energies that are seen along an axis. -/
def seamAlong (view : View π) (rule : LeftEdgeRule) (axis : Axis) : Seam :=
  (view.along axis).terrain.seam rule

theorem findSeam_eq (view : View π) (rule : LeftEdgeRule) (axis : Axis) :
    view.findSeam rule axis =
      if (view.along axis).width < 3 ∨ (view.along axis).height < 3 then
        .fail (.degenerateImage (view.along axis).width (view.along axis).height)
      else
        ⟨[.found axis (view.seamAlong rule axis)], .ok (view.seamAlong rule axis)⟩ := by
  have found : ((view.along axis).energy : Grid ε).seam rule =
      if (view.along axis).width < 3 ∨ (view.along axis).height < 3 then
        .error (.degenerateImage (view.along axis).width (view.along axis).height)
      else
        .ok (view.seamAlong rule axis) :=
    Grid.seam_eq (view.along axis).reads_energy
  rw [findSeam, found]
  by_cases small : (view.along axis).width < 3 ∨ (view.along axis).height < 3
  · rw [if_pos small, if_pos small]
    rfl
  · rw [if_neg small, if_neg small]
    rfl

theorem findSeam_of_large (view : View π) (rule : LeftEdgeRule) (axis : Axis)
    (large : 3 ≤ view.width ∧ 3 ≤ view.height) :
    view.findSeam rule axis =
      ⟨[.found axis (view.seamAlong rule axis)], .ok (view.seamAlong rule axis)⟩ := by
  have sizes := (view.large_along axis).2 large
  rw [findSeam_eq, if_neg (by omega)]

theorem findSeam_of_small (view : View π) (rule : LeftEdgeRule) (axis : Axis)
    (small : ¬ (3 ≤ view.width ∧ 3 ≤ view.height)) :
    view.findSeam rule axis =
      .fail (.degenerateImage (view.along axis).width (view.along axis).height) := by
  have sizes := mt (view.large_along axis).1 small
  rw [findSeam_eq, if_pos (by omega)]

theorem exists_removeSeam_seamAlong (view : View π) (rule : LeftEdgeRule) (axis : Axis)
    (large : 3 ≤ view.width ∧ 3 ≤ view.height) :
    (view.seamAlong rule axis).Fits (view.along axis).height (view.along axis).width ∧
      ∃ image, view.removeSeam axis (view.seamAlong rule axis) = .ok image ∧
        view.Removed axis (view.seamAlong rule axis) image := by
  have sizes := (view.large_along axis).2 large
  have fits : (view.seamAlong rule axis).Fits (view.along axis).height (view.along axis).width :=
    Terrain.seam_fits _ rule (show 2 ≤ (view.along axis).width by omega)
      (show 2 ≤ (view.along axis).height by omega)
  exact ⟨fits, view.exists_removeSeam axis (by omega) fits⟩

/-- Seams are found exactly in pictures of three columns and rows or more, in either direction and for every
    pixel content. A found seam names one adjacent place in each line, and its removal succeeds and takes off
    one column or row. -/
theorem findSeam_and_removeSeam (view : View π) (rule : LeftEdgeRule) :
    if 3 ≤ view.width ∧ 3 ≤ view.height then
      (∃ seam image, (view.findSeam rule .vertical).outcome = .ok seam ∧
        seam.Fits view.height view.width ∧
        view.removeSeam .vertical seam = .ok image ∧
        image.width + 1 = view.width ∧ image.height = view.height) ∧
      (∃ seam image, (view.findSeam rule .horizontal).outcome = .ok seam ∧
        seam.Fits view.width view.height ∧
        view.removeSeam .horizontal seam = .ok image ∧
        image.width = view.width ∧ image.height + 1 = view.height)
    else
      (view.findSeam rule .vertical).outcome = .error (.degenerateImage view.width view.height) ∧
      (view.findSeam rule .horizontal).outcome = .error (.degenerateImage view.height view.width) := by
  split
  · next large =>
      constructor
      · obtain ⟨fits, image, removed, left⟩ := view.exists_removeSeam_seamAlong rule .vertical large
        refine ⟨_, image, ?_, fits, removed, ?_, ?_⟩
        · rw [view.findSeam_of_large rule .vertical large]
        · have width_eq := left.width_eq
          simp only [along_vertical, Image.width_view] at width_eq
          omega
        · simpa using left.height_eq
      · obtain ⟨fits, image, removed, left⟩ := view.exists_removeSeam_seamAlong rule .horizontal large
        refine ⟨_, image, ?_, ?_, removed, ?_, ?_⟩
        · rw [view.findSeam_of_large rule .horizontal large]
        · simpa using fits
        · simpa using left.height_eq
        · have width_eq := left.width_eq
          simp only [along_horizontal, width_transpose, Image.height_view] at width_eq
          omega
  · next small =>
      constructor
      · rw [view.findSeam_of_small rule .vertical small]
        rfl
      · rw [view.findSeam_of_small rule .horizontal small]
        simp [Traced.fail]

end SeamCarving.View

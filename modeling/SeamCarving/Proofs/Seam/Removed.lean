import Mathlib.Order.Monotone.Basic
import SeamCarving.Proofs.Image.Pixels
import SeamCarving.Proofs.Seam.Fits

/-!
# What a removal leaves

Seen along its axis, a seam takes one place out of every line, and the places after it move up by one. Main
statement: a seam that fits a picture of two places in a line or more can be removed, and the image that is left
is the picture without the places of the seam (`exists_removeSeam`).
-/

namespace SeamCarving

variable {π : Type}

theorem skip_of_le {gap place : Nat} (after : gap ≤ place) : skip gap place = place + 1 :=
  if_neg (Nat.not_lt_of_le after)

theorem skip_strictMono (gap : Nat) : StrictMono (skip gap) := by
  intro place other before
  unfold skip
  split <;> split <;> omega

theorem exists_skip_eq (gap place : Nat) : ∃ moved, moved ≤ 1 ∧ skip gap place = place + moved := by
  unfold skip
  split
  · exact ⟨0, by omega, rfl⟩
  · exact ⟨1, by omega, rfl⟩

/-- The image is what the view shows without the places of the seam, both seen along the axis of the seam. -/
structure View.Removed (view : View π) (axis : Axis) (seam : Seam) (image : Image π) : Prop where
  /-- Lines are one place shorter. -/
  width_eq : (image.view.along axis).width = (view.along axis).width - 1
  /-- No line is lost. -/
  height_eq : (image.view.along axis).height = (view.along axis).height
  /-- The places of a line up to the entry of the seam stay, and those after it move up by one. -/
  pixel?_eq : ∀ x y gap, x < (view.along axis).width - 1 → y < (view.along axis).height →
    seam[y]? = some gap →
      (image.view.along axis).pixel? x y = (view.along axis).pixel? (skip gap x) y

namespace View

variable {seam : Seam}

theorem exists_removeVertical (view : View π) (wide : 2 ≤ view.width)
    (fits : seam.Fits view.height view.width) :
    ∃ image, view.removeVertical seam = .ok image ∧ view.Removed .vertical seam image := by
  have sound := Seam.malformation?_eq_none_iff.2 fits
  unfold removeVertical
  rw [if_neg (by omega)]
  split
  · next malformation found =>
      rw [sound] at found
      contradiction
  · refine ⟨_, rfl, rfl, rfl, ?_⟩
    intro x y gap hx hy entry
    rw [along_vertical] at hx hy
    have inside : skip gap x < view.width := skip_lt hx
    obtain ⟨_, gap_eq⟩ := List.getElem?_eq_some_iff.1 entry
    simp only [along_vertical, Image.pixel?_view]
    rw [Image.pixel?_ofFn _ hx hy, view.pixel?_eq_some inside hy]
    simp [gap_eq]

theorem exists_removeHorizontal (view : View π) (high : 2 ≤ view.height)
    (fits : seam.Fits view.width view.height) :
    ∃ image, view.removeHorizontal seam = .ok image ∧ view.Removed .horizontal seam image := by
  have sound := Seam.malformation?_eq_none_iff.2 fits
  unfold removeHorizontal
  rw [if_neg (by omega)]
  split
  · next malformation found =>
      rw [sound] at found
      contradiction
  · refine ⟨_, rfl, ?_, ?_, ?_⟩
    · simp
    · simp
    intro x y gap hx hy entry
    rw [along_horizontal, width_transpose] at hx
    rw [along_horizontal, height_transpose] at hy
    have inside : skip gap x < view.height := skip_lt hx
    obtain ⟨_, gap_eq⟩ := List.getElem?_eq_some_iff.1 entry
    simp only [along_horizontal, pixel?_transpose, Image.pixel?_view]
    rw [Image.pixel?_ofFn _ hy hx, view.pixel?_eq_some hy inside]
    simp [gap_eq]

/-- A seam that fits can be removed, and the removal takes out its places and nothing else. -/
theorem exists_removeSeam (view : View π) (axis : Axis) (wide : 2 ≤ (view.along axis).width)
    (fits : seam.Fits (view.along axis).height (view.along axis).width) :
    ∃ image, view.removeSeam axis seam = .ok image ∧ view.Removed axis seam image := by
  cases axis with
  | vertical => exact view.exists_removeVertical wide fits
  | horizontal =>
      rw [along_horizontal, width_transpose] at wide
      rw [along_horizontal, width_transpose, height_transpose] at fits
      exact view.exists_removeHorizontal wide fits

section

variable {view : View π} {axis : Axis} {image : Image π}

theorem removeSeam_of_narrow (narrow : (view.along axis).width < 2) :
    view.removeSeam axis seam = .error (.degenerateImage view.width view.height) := by
  cases axis with
  | vertical =>
      rw [along_vertical] at narrow
      rw [removeSeam, removeVertical, if_pos narrow]
  | horizontal =>
      rw [along_horizontal, width_transpose] at narrow
      rw [removeSeam, removeHorizontal, if_pos narrow]

theorem removeSeam_of_malformed {malformation : Malformation} (wide : 2 ≤ (view.along axis).width)
    (found : seam.malformation? (view.along axis).height (view.along axis).width = some malformation) :
    view.removeSeam axis seam = .error (.malformedSeam malformation.reason) := by
  cases axis with
  | vertical =>
      rw [along_vertical] at wide found
      rw [removeSeam, removeVertical, if_neg (by omega)]
      split
      · next other same =>
          rw [found, Option.some.injEq] at same
          rw [same]
      · next sound =>
          rw [found] at sound
          contradiction
  | horizontal =>
      rw [along_horizontal, width_transpose] at wide
      rw [along_horizontal, width_transpose, height_transpose] at found
      rw [removeSeam, removeHorizontal, if_neg (by omega)]
      split
      · next other same =>
          rw [found, Option.some.injEq] at same
          rw [same]
      · next sound =>
          rw [found] at sound
          contradiction

/-- Only a seam that fits lines of two places or more is ever removed. -/
theorem fits_of_removeSeam (succeeded : view.removeSeam axis seam = .ok image) :
    2 ≤ (view.along axis).width ∧ seam.Fits (view.along axis).height (view.along axis).width := by
  cases axis with
  | vertical =>
      rw [removeSeam, removeVertical] at succeeded
      split at succeeded
      · contradiction
      · next wide =>
          split at succeeded
          · contradiction
          · next sound => exact ⟨Nat.le_of_not_lt wide, Seam.malformation?_eq_none_iff.1 sound⟩
  | horizontal =>
      rw [along_horizontal, width_transpose, height_transpose]
      rw [removeSeam, removeHorizontal] at succeeded
      split at succeeded
      · contradiction
      · next high =>
          split at succeeded
          · contradiction
          · next sound => exact ⟨Nat.le_of_not_lt high, Seam.malformation?_eq_none_iff.1 sound⟩

theorem removed_of_removeSeam (succeeded : view.removeSeam axis seam = .ok image) :
    view.Removed axis seam image := by
  obtain ⟨wide, fits⟩ := fits_of_removeSeam succeeded
  obtain ⟨left, removeSeam_eq, removed⟩ := view.exists_removeSeam axis wide fits
  rw [succeeded, Except.ok.injEq] at removeSeam_eq
  rw [removeSeam_eq]
  exact removed

/-- A removal leaves one image only. -/
theorem Removed.eq {other : Image π} (removed : view.Removed axis seam image)
    (removed' : view.Removed axis seam other)
    (fits : seam.Fits (view.along axis).height (view.along axis).width) : image = other := by
  have same : (image.view.along axis).ShowsSame (other.view.along axis) := by
    refine ⟨?_, ?_, ?_⟩
    · rw [removed.width_eq, removed'.width_eq]
    · rw [removed.height_eq, removed'.height_eq]
    · intro x y hx hy
      rw [removed.width_eq] at hx
      rw [removed.height_eq] at hy
      obtain ⟨gap, entry, -⟩ := fits.exists_entry hy
      rw [removed.pixel?_eq x y gap hx hy entry, removed'.pixel?_eq x y gap hx hy entry]
  have upright := same.along axis
  rw [along_along, along_along] at upright
  calc image
    _ = image.view.toImage := image.toImage_view.symm
    _ = other.view.toImage := upright.toImage_eq
    _ = other := other.toImage_view

/-- The image without the places of a seam is what the removal of the seam comes to. -/
theorem Removed.removeSeam_eq (removed : view.Removed axis seam image) (wide : 2 ≤ (view.along axis).width)
    (fits : seam.Fits (view.along axis).height (view.along axis).width) :
    view.removeSeam axis seam = .ok image := by
  obtain ⟨left, succeeded, removed'⟩ := view.exists_removeSeam axis wide fits
  rw [succeeded, removed'.eq removed fits]

/-- A removal is refused for lines that are too short or a seam that does not fit, and else leaves an image. -/
theorem removeSeam_cases (view : View π) (axis : Axis) (seam : Seam) :
    (view.along axis).width < 2 ∨
    (∃ malformation, 2 ≤ (view.along axis).width ∧
      seam.malformation? (view.along axis).height (view.along axis).width = some malformation) ∨
    ∃ image, 2 ≤ (view.along axis).width ∧ seam.Fits (view.along axis).height (view.along axis).width ∧
      view.removeSeam axis seam = .ok image ∧ view.Removed axis seam image := by
  by_cases narrow : (view.along axis).width < 2
  · exact Or.inl narrow
  · have wide := Nat.le_of_not_lt narrow
    cases found : seam.malformation? (view.along axis).height (view.along axis).width with
    | some malformation => exact Or.inr (Or.inl ⟨malformation, wide, rfl⟩)
    | none =>
        have fits := Seam.malformation?_eq_none_iff.1 found
        obtain ⟨image, succeeded, removed⟩ := view.exists_removeSeam axis wide fits
        exact Or.inr (Or.inr ⟨image, wide, fits, succeeded, removed⟩)

theorem Removed.size_vertical (removed : view.Removed .vertical seam image) :
    image.width = view.width - 1 ∧ image.height = view.height :=
  ⟨removed.width_eq, removed.height_eq⟩

theorem Removed.size_horizontal (removed : view.Removed .horizontal seam image) :
    image.width = view.width ∧ image.height = view.height - 1 := by
  have width_eq := removed.width_eq
  have height_eq := removed.height_eq
  simp only [along_horizontal, width_transpose, height_transpose, Image.width_view,
    Image.height_view] at width_eq height_eq
  exact ⟨height_eq, width_eq⟩

end

end View

end SeamCarving

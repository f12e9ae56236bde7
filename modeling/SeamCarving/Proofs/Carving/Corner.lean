import SeamCarving.Proofs.Carving.Ending
import SeamCarving.Proofs.Carving.Reach

/-!
# What survives a carving

Every seam ends in the first column and can leave it by one column with each row upwards only, so a cut moves
all that lies to the right of such a slope by one column to the left. Counted from the lower right corner those
places do not move at all, as long as enough columns are left. Main statement: the region around the corner that
no carving touches, whatever the picture shows (`carve_keeps_corner`).
-/

namespace SeamCarving

theorem Seam.EndsAtEdge.exists_lt {seam : Seam} {lines below : Nat} (ends : seam.EndsAtEdge lines)
    (inside : below < lines) : ∃ gap, seam[lines - 1 - below]? = some gap ∧ gap < max below 1 := by
  cases below with
  | zero => exact ⟨0, ends.last, by omega⟩
  | succ below =>
      obtain ⟨gap, entry, bound⟩ := ends.le_distance (lines - 1 - (below + 1)) (by omega)
      exact ⟨gap, entry, by omega⟩

/-- Both images have a pixel at their place, and it is the same one. -/
def Image.SamePixel {π : Type} (image : Image π) (x y : Nat) (other : Image π) (x' y' : Nat) : Prop :=
  ∃ pixel, image.pixel? x y = some pixel ∧ other.pixel? x' y' = some pixel

namespace View

variable {π : Type}

/-- The pixel that is so many places away from the right and from the lower edge. -/
def fromCorner? (view : View π) (right below : Nat) : Option π :=
  view.pixel? (view.width - 1 - right) (view.height - 1 - below)

@[simp] theorem fromCorner?_transpose (view : View π) (right below : Nat) :
    view.transpose.fromCorner? right below = view.fromCorner? below right := by
  simp [fromCorner?]

theorem Removed.fromCorner?_eq {view : View π} {axis : Axis} {seam : Seam} {image : Image π}
    {right below : Nat} (removed : view.Removed axis seam image)
    (ends : seam.EndsAtEdge (view.along axis).height) (inside : below < (view.along axis).height)
    (room : right + max below 1 ≤ (image.view.along axis).width) :
    (image.view.along axis).fromCorner? right below = (view.along axis).fromCorner? right below := by
  have narrower := removed.width_eq
  -- the gap is before the place, which so moves by one while the line gets shorter by one
  obtain ⟨gap, entry, bound⟩ := ends.exists_lt inside
  unfold fromCorner?
  rw [removed.height_eq, removed.pixel?_eq _ _ gap (by omega) (by omega) entry, skip_of_le (by omega)]
  congr 1
  omega

end View

variable {π ε : Type} [Coloured π ε] [Add ε] [Sub ε] [Mul ε] [NatCast ε] [LT ε] [DecidableLT ε]
  [Std.Irrefl (· < · : ε → ε → Prop)]
  {rule : LeftEdgeRule} {axis : Axis} {image smaller current result : Image π} {right below : Nat}

theorem Image.CutTo.fromCorner?_eq (made : image.CutTo rule axis smaller)
    (inside : below < (image.view.along axis).height)
    (room : right + max below 1 ≤ (smaller.view.along axis).width) :
    (smaller.view.along axis).fromCorner? right below = (image.view.along axis).fromCorner? right below :=
  made.removed.fromCorner?_eq (image.view.seamAlong_endsAtEdge rule axis made.large) inside room

/-- Cuts along an axis keep a place that is to the right of the slope in the last image, since the earlier
    ones are larger. -/
theorem Carved.fromCorner?_eq {schedule left : Schedule} {events : List Event}
    (carved : Carved rule image schedule events current left)
    (right_inside : right < current.width) (below_inside : below < current.height)
    (columns : schedule.columns = left.columns ∨ right + max below 1 ≤ current.width)
    (rows : schedule.rows = left.rows ∨ below + max right 1 ≤ current.height) :
    current.view.fromCorner? right below = image.view.fromCorner? right below := by
  induction carved with
  | start image schedule => rfl
  | @cut image smaller current schedule rest left cut events present made others ih =>
      have size := others.size_eq
      have ahead := others.count_removals
      -- a cut is only made along an axis that has something left to take off, so the room is given there
      rcases Schedule.next?_cases present with ⟨axis, columns_eq, rows_eq⟩ | ⟨axis, columns_eq, rows_eq⟩
      · rw [axis] at made
        have lost := made.size_vertical
        have kept : smaller.view.fromCorner? right below = image.view.fromCorner? right below :=
          made.fromCorner?_eq (show below < image.height by omega)
            (show right + max below 1 ≤ smaller.width by omega)
        rw [ih right_inside below_inside (by omega) (by omega), kept]
      · rw [axis] at made
        have lost := made.size_horizontal
        have kept : smaller.view.transpose.fromCorner? below right =
            image.view.transpose.fromCorner? below right :=
          made.fromCorner?_eq (show right < image.width by omega)
            (show below + max right 1 ≤ smaller.height by omega)
        rw [View.fromCorner?_transpose, View.fromCorner?_transpose] at kept
        rw [ih right_inside below_inside (by omega) (by omega), kept]

theorem Image.samePixel_of_carve {width height x y : Nat}
    (succeeded : (image.carve rule width height).outcome = .ok result) (hx : x < width) (hy : y < height)
    (columns : width = image.width ∨ height - 2 - y ≤ x)
    (rows : height = image.height ∨ width - 2 - x ≤ y) :
    result.SamePixel x y image (x + (image.width - width)) (y + (image.height - height)) := by
  obtain ⟨fits, turn, carved⟩ := carved_of_carve succeeded
  obtain ⟨rfl, rfl, -⟩ := attains_of_carve succeeded
  have kept : result.view.fromCorner? (result.width - 1 - x) (result.height - 1 - y) =
      image.view.fromCorner? (result.width - 1 - x) (result.height - 1 - y) :=
    carved.fromCorner?_eq (by omega) (by omega) (by simp only; omega) (by simp only; omega)
  simp only [View.fromCorner?, pixel?_view, width_view, height_view] at kept
  rw [show result.width - 1 - (result.width - 1 - x) = x by omega,
    show result.height - 1 - (result.height - 1 - y) = y by omega,
    show image.width - 1 - (result.width - 1 - x) = x + (image.width - result.width) by omega,
    show image.height - 1 - (result.height - 1 - y) = y + (image.height - result.height) by omega] at kept
  have inside := result.pixel?_eq_some hx hy
  exact ⟨_, inside, kept.symm.trans inside⟩

/-- A carving leaves every place alone, counted from the lower right corner, that is far enough from the left
    edge if columns go and far enough from the upper edge if rows go. So one that only narrows moves what is to
    the right of a slope to the left, one that only shortens does the same upwards, and whatever goes, the block
    of two columns and two rows in the corner stays. -/
theorem Carver.carve_keeps_corner {carver : Carver π} {done : Carver.Result π} {width height : Nat}
    (succeeded : (carver.course (.carve width height)).outcome = .ok done) :
    (∀ right below, right < width → below < height →
      (width = carver.image.width ∨ right + max below 1 ≤ width) →
      (height = carver.image.height ∨ below + max right 1 ≤ height) →
        done.image.SamePixel (width - 1 - right) (height - 1 - below) carver.image
          (carver.image.width - 1 - right) (carver.image.height - 1 - below)) ∧
    (height = carver.image.height → ∀ x y, x < width → y < height → height - 2 - y ≤ x →
      done.image.SamePixel x y carver.image (x + (carver.image.width - width)) y) ∧
    (width = carver.image.width → ∀ x y, x < width → y < height → width - 2 - x ≤ y →
      done.image.SamePixel x y carver.image x (y + (carver.image.height - height))) ∧
    (¬ (width = carver.image.width ∧ height = carver.image.height) →
      2 ≤ width ∧ 2 ≤ height ∧ ∀ right below, right < 2 → below < 2 →
        done.image.SamePixel (width - 1 - right) (height - 1 - below) carver.image
          (carver.image.width - 1 - right) (carver.image.height - 1 - below)) := by
  have carved := carver.carve_of_course succeeded
  obtain ⟨fits, -⟩ := carved_of_carve carved
  have corner : ∀ right below, right < width → below < height →
      (width = carver.image.width ∨ right + max below 1 ≤ width) →
      (height = carver.image.height ∨ below + max right 1 ≤ height) →
        done.image.SamePixel (width - 1 - right) (height - 1 - below) carver.image
          (carver.image.width - 1 - right) (carver.image.height - 1 - below) := by
    intro right below right_inside below_inside columns rows
    have kept := Image.samePixel_of_carve carved (show width - 1 - right < width by omega)
      (show height - 1 - below < height by omega) (by omega) (by omega)
    rwa [show width - 1 - right + (carver.image.width - width) = carver.image.width - 1 - right by omega,
      show height - 1 - below + (carver.image.height - height) = carver.image.height - 1 - below by omega]
      at kept
  refine ⟨corner, ?_, ?_, ?_⟩
  · intro same x y hx hy slope
    have kept := Image.samePixel_of_carve carved hx hy (Or.inr slope) (Or.inl same)
    rwa [same, Nat.sub_self, Nat.add_zero] at kept
  · intro same x y hx hy slope
    have kept := Image.samePixel_of_carve carved hx hy (Or.inl same) (Or.inr slope)
    rwa [same, Nat.sub_self, Nat.add_zero] at kept
  · intro smaller
    obtain ⟨wide, high⟩ := Image.two_le_of_carve carved smaller
    refine ⟨wide, high, ?_⟩
    intro right below near_right near_below
    exact corner right below (by omega) (by omega) (Or.inr (by omega)) (Or.inr (by omega))

theorem Carver.carve_keeps_corner_block :
    ∃ done, ((⟨Image.block (0 : Float) 255, .previous⟩ : Carver (Rgb Float)).course
        (.carve 3 3)).outcome = .ok done ∧
      done.image.pixel? 1 0 = some ⟨255, 255, 0⟩ := by
  obtain ⟨result, ended⟩ := (Image.block (0 : Float) 255).exists_carve .previous
    (show ¬ (4 < 3 ∨ 4 < 3) by decide) (attains_iff.2 (by decide))
  have succeeded : ((⟨Image.block 0 255, .previous⟩ : Carver (Rgb Float)).course (.carve 3 3)).outcome =
      .ok ⟨result, none⟩ :=
    course_of_carve ended
  obtain ⟨pixel, moved, original⟩ :=
    (carve_keeps_corner succeeded).1 1 2 (by decide) (by decide) (by decide) (by decide)
  have bright : (Image.block (0 : Float) 255).pixel? 2 1 = some ⟨255, 255, 0⟩ :=
    Image.pixel?_ofFn _ (by decide) (by decide)
  exact ⟨_, succeeded, moved.trans (original.symm.trans bright)⟩

end SeamCarving

import Mathlib.Data.List.InsertIdx
import Mathlib.Data.List.OfFn
import Mathlib.Data.Nat.PSub
import SeamCarving.Proofs.Carving.Origin
import SeamCarving.Proofs.Seam.Relaxation

/-!
# Closing the gaps

A removal can be seen as a loop over the lines that a seam crosses: every place of a line but the gap is read, one
after another, and its pixel is written into a picture whose lines are one place shorter, in the same place if it
comes before the gap and one place further up if it comes after. Main statement: a removal succeeds exactly for
seams that fit lines of two places or more, it erases one pixel in each line, putting these pixels back gives the
picture as it was, and the loop comes to the same without ever reading or writing outside of the two pictures
(`View.removeSeam_closes_gaps`).
-/

namespace SeamCarving

/-- The places of a line that a loop visits if it leaves out the gap. -/
theorem filter_range_eq_map_skip {gap length : Nat} (within : gap < length) :
    (List.range length).filter (· ≠ gap) = (List.range (length - 1)).map (skip gap) := by
  obtain ⟨length, rfl⟩ := Nat.exists_eq_add_one.2 (Nat.zero_lt_of_lt within)
  rw [Nat.add_sub_cancel]
  induction length with
  | zero =>
      obtain rfl : gap = 0 := by omega
      rfl
  | succ length ih =>
      rw [List.range_succ, List.filter_append]
      rcases Nat.lt_succ_iff_lt_or_eq.1 within with before | rfl
      · rw [ih before, List.range_succ, List.map_append]
        have differs : length + 1 ≠ gap := by omega
        simp [differs, skip_of_le (Nat.le_of_lt_succ before)]
      · have kept : (List.range (length + 1)).filter (· ≠ length + 1) = List.range (length + 1) := by
          refine List.filter_eq_self.2 ?_
          intro place member
          exact decide_eq_true (Nat.ne_of_lt (List.mem_range.1 member))
        have still : ∀ place ∈ List.range (length + 1), skip (length + 1) place = place := by
          intro place member
          exact if_pos (List.mem_range.1 member)
        rw [kept, List.map_congr_left still]
        simp

/-- The place of a pixel once the line is closed over the gap, absent if there is no place before its own. -/
def closed? (gap place : Nat) : Option Nat :=
  if place < gap then some place else place.ppred

theorem closed?_skip (gap place : Nat) : closed? gap (skip gap place) = some place := by
  unfold skip
  split
  · next before => exact if_pos before
  · next after => exact if_neg (by omega)

namespace View

variable {π : Type}

/-- The pixel of the view at `(x, y)`, absent outside of the view. -/
def cell? (view : View π) (x y : Nat) : Option π :=
  if x < view.width ∧ y < view.height then view.pixel? x y else none

/-- Copies the pixel at a place of a line to where it belongs once the line is closed over the gap. -/
def closeUp (view : View π) (axis : Axis) (line gap : Nat) (buffer : Grid π) (place : Nat) :
    Option (Grid π) := do
  let source := axis.turn (place, line)
  let pixel ← view.cell? source.1 source.2
  let moved ← closed? gap place
  let target := axis.turn (moved, line)
  buffer.setCell? target.1 target.2 pixel

/-- Copies all pixels of a line but the one in the gap. -/
def closeLine (view : View π) (axis : Axis) (seam : Seam) (buffer : Grid π) (line : Nat) : Option (Grid π) := do
  let gap ← seam[line]?
  ((List.range (view.along axis).width).filter (· ≠ gap)).foldlM (view.closeUp axis line gap) buffer

/-- Copies the lines that the seam crosses, each without its gap, into a picture that is blank at first. -/
def closeLines (view : View π) (axis : Axis) (seam : Seam) (blank : π) : Option (Grid π) :=
  let size := axis.turn ((view.along axis).width - 1, (view.along axis).height)
  (List.range seam.length).foldlM (view.closeLine axis seam) (.replicate size.1 size.2 blank)

theorem size_along (view : View π) (axis : Axis) :
    axis.turn ((view.along axis).width, (view.along axis).height) = (view.width, view.height) := by
  cases axis with
  | vertical => rfl
  | horizontal => simp [Axis.turn]

theorem cell?_of_along {view : View π} {axis : Axis} {place line : Nat} (hx : place < (view.along axis).width)
    (hy : line < (view.along axis).height) :
    view.cell? (axis.turn (place, line)).1 (axis.turn (place, line)).2 = (view.along axis).pixel? place line := by
  rw [cell?, if_pos (inside_of_along hx hy), ← view.pixel?_along axis (place, line)]

/-- The buffer holds the pixels of the image in the lines before `line` and in the first `place` places of this
    line, and is blank everywhere else. -/
structure ClosedTo (buffer : Grid π) (image : Image π) (axis : Axis) (blank : π) (line place : Nat) : Prop where
  filled : buffer.WellFormed
  reads : buffer.Reads image.width image.height fun x y =>
    if (axis.turn (x, y)).2 < line ∨ (axis.turn (x, y)).2 = line ∧ (axis.turn (x, y)).1 < place then
      (image.pixel? x y).getD blank
    else blank

section

variable {view : View π} {axis : Axis} {seam : Seam} {image : Image π} {blank : π} {buffer : Grid π}
  {line place gap : Nat}

/-- Copying one place moves the invariant on by one place. -/
theorem ClosedTo.exists_closeUp (closed : ClosedTo buffer image axis blank line place)
    (removed : view.Removed axis seam image) (entry : seam[line]? = some gap)
    (hx : place < (view.along axis).width - 1) (hy : line < (view.along axis).height) :
    ∃ next, view.closeUp axis line gap buffer (skip gap place) = some next ∧
      ClosedTo next image axis blank line (place + 1) := by
  have inside : place < (image.view.along axis).width ∧ line < (image.view.along axis).height := by
    rw [removed.width_eq, removed.height_eq]
    exact ⟨hx, hy⟩
  obtain ⟨hu, hv⟩ := inside_of_along inside.1 inside.2
  have shown : image.pixel? _ _ = some _ := image.pixel?_eq_some hu hv
  have read := removed.pixel?_eq place line gap hx hy entry
  rw [← cell?_of_along (skip_lt hx) hy, image.view.pixel?_along axis (place, line), Image.pixel?_view, shown] at read
  obtain ⟨next, written, reads⟩ := closed.reads.exists_setCell? (image.pixel _ _ hu hv) hu hv
  refine ⟨next, ?_, closed.filled.setCell? written, reads.congr ?_⟩
  · simp [closeUp, ← read, closed?_skip, written]
  · intro x y _ _
    by_cases here : x = (axis.turn (place, line)).1 ∧ y = (axis.turn (place, line)).2
    · obtain ⟨rfl, rfl⟩ := here
      have back : axis.turn ((axis.turn (place, line)).1, (axis.turn (place, line)).2) = (place, line) :=
        axis.turn_turn _
      rw [if_pos ⟨rfl, rfl⟩, back, if_pos (Or.inr ⟨rfl, Nat.lt_succ_self place⟩), shown, Option.getD_some]
    · have elsewhere : ¬ ((axis.turn (x, y)).1 = place ∧ (axis.turn (x, y)).2 = line) := by
        rintro ⟨rfl, rfl⟩
        exact here (Prod.mk.inj (axis.turn_turn (x, y)).symm)
      rw [if_neg here]
      refine if_congr ?_ rfl rfl
      omega

/-- A line whose places have all been copied is complete, and the next one is begun. -/
theorem ClosedTo.nextLine (closed : ClosedTo buffer image axis blank line (image.view.along axis).width) :
    ClosedTo buffer image axis blank (line + 1) 0 := by
  refine ⟨closed.filled, closed.reads.congr ?_⟩
  intro x y hx hy
  have inside := (image.view.lt_along axis hx hy).1
  refine if_congr ?_ rfl rfl
  omega

theorem ClosedTo.exists_closeLine (closed : ClosedTo buffer image axis blank line 0)
    (removed : view.Removed axis seam image) (fits : seam.Fits (view.along axis).height (view.along axis).width)
    (hy : line < (view.along axis).height) :
    ∃ next, view.closeLine axis seam buffer line = some next ∧
      ClosedTo next image axis blank (line + 1) 0 := by
  obtain ⟨gap, entry, within⟩ := fits.exists_entry hy
  obtain ⟨last, copied, done⟩ := exists_foldlM_range
    (fun buffer place => view.closeUp axis line gap buffer (skip gap place))
    (fun place buffer => ClosedTo buffer image axis blank line place) ((view.along axis).width - 1)
    (fun place _ hx reached => reached.exists_closeUp removed entry hx hy) closed
  refine ⟨last, ?_, ?_⟩
  · simp only [closeLine, entry, Option.bind_eq_bind, Option.bind_some, filter_range_eq_map_skip within,
      List.foldlM_map]
    exact copied
  · rw [← removed.width_eq] at done
    exact done.nextLine

theorem Removed.size_eq (removed : view.Removed axis seam image) :
    axis.turn ((view.along axis).width - 1, (view.along axis).height) = (image.width, image.height) := by
  rw [← removed.width_eq, ← removed.height_eq, size_along, Image.width_view, Image.height_view]

theorem closedTo_replicate (image : Image π) (axis : Axis) (blank : π) :
    ClosedTo (.replicate image.width image.height blank) image axis blank 0 0 := by
  refine ⟨Grid.wellFormed_replicate _ _ _, (Grid.reads_replicate _ _ blank).congr ?_⟩
  intro x y _ _
  simp

/-- The loop fills the picture with what the removal leaves, whatever it was blank with. -/
theorem Removed.closeLines_eq (removed : view.Removed axis seam image)
    (fits : seam.Fits (view.along axis).height (view.along axis).width) (blank : π) :
    view.closeLines axis seam blank = some image.toGrid := by
  obtain ⟨last, copied, done⟩ := exists_foldlM_range (view.closeLine axis seam)
    (fun line buffer => ClosedTo buffer image axis blank line 0) (view.along axis).height
    (fun line _ hy reached => reached.exists_closeLine removed fits hy) (closedTo_replicate image axis blank)
  have complete : (⟨last, done.filled⟩ : Image π) = image := by
    refine Image.ext_pixel? done.reads.width_eq done.reads.height_eq ?_
    intro x y hx hy
    have hx : x < image.width := done.reads.width_eq ▸ hx
    have hy : y < image.height := done.reads.height_eq ▸ hy
    have crossed := (image.view.lt_along axis hx hy).2
    rw [removed.height_eq] at crossed
    refine (done.reads.cell?_eq x y hx hy).trans ?_
    rw [if_pos (Or.inl crossed), image.pixel?_eq_some hx hy, Option.getD_some]
  simp only [closeLines, removed.size_eq, fits.length_eq, copied]
  exact congrArg (fun image : Image π => some image.toGrid) complete

end

/-! ## Putting pixels back -/

/-- The pixels of all rows, from top to bottom. -/
def lines (view : View π) : List (List π) :=
  (List.range view.height).map view.line

/-- The rows of the view, each with the pixel put in where the seam says that the former view shows there. -/
def refill? (view former : View π) (seam : Seam) : Option (List (List π)) :=
  (List.range former.height).mapM fun y => do
    let gap ← seam[y]?
    let pixel ← former.cell? gap y
    return (view.line y).insertIdx gap pixel

theorem lines_eq_ofFn (view : View π) :
    view.lines = List.ofFn fun y : Fin view.height => List.ofFn fun x : Fin view.width =>
      view.pixel x y x.isLt y.isLt := by
  refine List.ext_getElem (by simp [lines]) ?_
  intro y hy _
  have inside : y < view.height := by simpa [lines] using hy
  simp [lines, line, inside]

/-- A picture is made up of its rows. -/
theorem ofCells_lines (view : View π) :
    Grid.ofCells view.width view.height view.lines.flatten.toArray = .ok view.toImage.toGrid := by
  have stored : view.lines.flatten.toArray = view.toImage.cells := by
    rw [lines_eq_ofFn, toImage, Image.ofFn]
    simp only
    rw [← List.toArray_ofFn, List.ofFn_mul']
    congr 3
    funext y
    congr 1
    funext x
    have column : (view.width * y.val + x.val) % view.width = x.val := by
      rw [Nat.mul_comm, Grid.index_mod y x.isLt]
    have row : (view.width * y.val + x.val) / view.width = y.val := by
      rw [Nat.mul_comm, Grid.index_div y x.isLt]
    simp [column, row]
  have filled : view.toImage.cells.size = view.width * view.height := view.toImage.filled
  rw [stored, Grid.ofCells, if_pos filled]
  rfl

/-- Reading every entry of a list succeeds if reading each of them does. -/
theorem mapM_eq_some {α β : Type} {read : α → Option β} {value : α → β} {entries : List α}
    (reads : ∀ entry ∈ entries, read entry = some (value entry)) :
    entries.mapM read = some (entries.map value) := by
  induction entries with
  | nil => rfl
  | cons entry rest ih =>
      have later := ih fun other member => reads other (List.mem_cons_of_mem entry member)
      simp [List.mapM_cons, reads entry List.mem_cons_self, later]

section

variable {view : View π} {axis : Axis} {seam : Seam} {image : Image π}

/-- The pixel that a line has lost makes it whole again. -/
theorem Removed.insertIdx_line (removed : view.Removed axis seam image) {y gap : Nat}
    (hy : y < (view.along axis).height) (entry : seam[y]? = some gap) (within : gap < (view.along axis).width) :
    ((image.view.along axis).line y).insertIdx gap ((view.along axis).pixel gap y within hy) =
      (view.along axis).line y := by
  have long : gap < ((view.along axis).line y).length := by simp [line, hy, within]
  have lost : ((view.along axis).line y)[gap] = (view.along axis).pixel gap y within hy := by simp [line, hy]
  rw [removed.line_eq hy entry within, ← lost]
  exact List.insertIdx_eraseIdx_getElem long

theorem Removed.refill?_eq (removed : view.Removed axis seam image)
    (fits : seam.Fits (view.along axis).height (view.along axis).width) :
    (image.view.along axis).refill? (view.along axis) seam = some (view.along axis).lines := by
  refine mapM_eq_some ?_
  intro y member
  have hy := List.mem_range.1 member
  obtain ⟨gap, entry, within⟩ := fits.exists_entry hy
  have lost : (view.along axis).cell? gap y = some ((view.along axis).pixel gap y within hy) := by
    rw [cell?, if_pos ⟨within, hy⟩, pixel?_eq_some _ within hy]
  simp [entry, lost, removed.insertIdx_line hy entry within]

end

/-- A removal succeeds exactly if lines have two places or more and the seam has an entry for each line, all entries
    are places of their lines and neighbouring entries differ by one at most. What is left has one place less in
    each line: the one that the seam names is erased, and with its pixel put back in all lines are those of the
    picture. Copying the pixels in a loop comes to the same, whatever the buffer is blank with: all of them are read
    within the picture and written within what is left, and none is moved to a place before the first. -/
theorem removeSeam_closes_gaps (view : View π) (axis : Axis) (seam : Seam) :
    ((∃ image, view.removeSeam axis seam = .ok image) ↔
      2 ≤ (view.along axis).width ∧ seam.length = (view.along axis).height ∧
        (∀ entry ∈ seam, entry < (view.along axis).width) ∧ seam.IsChain Seam.Adjacent) ∧
    ∀ image, view.removeSeam axis seam = .ok image →
      ((image.view.along axis).width + 1 = (view.along axis).width ∧
        (image.view.along axis).height = (view.along axis).height) ∧
      (∀ y gap, seam[y]? = some gap →
        (image.view.along axis).line y = ((view.along axis).line y).eraseIdx gap) ∧
      (∃ lines, (image.view.along axis).refill? (view.along axis) seam = some lines ∧
        Grid.ofCells (view.along axis).width (view.along axis).height lines.flatten.toArray =
          .ok (view.along axis).toImage.toGrid) ∧
      ∀ blank, view.closeLines axis seam blank = some image.toGrid := by
  constructor
  · constructor
    · rintro ⟨image, succeeded⟩
      obtain ⟨wide, fits⟩ := fits_of_removeSeam succeeded
      exact ⟨wide, fits.length_eq, fits.lt_length, fits.isChain⟩
    · rintro ⟨wide, counted, within, connected⟩
      obtain ⟨image, succeeded, -⟩ := view.exists_removeSeam axis wide ⟨counted, within, connected⟩
      exact ⟨image, succeeded⟩
  · intro image succeeded
    obtain ⟨wide, fits⟩ := fits_of_removeSeam succeeded
    have removed := removed_of_removeSeam succeeded
    have narrower := removed.width_eq
    refine ⟨⟨by omega, removed.height_eq⟩, ?_, ?_, removed.closeLines_eq fits⟩
    · intro y gap entry
      obtain ⟨crossed, within⟩ := fits.inside_of_entry entry
      exact removed.line_eq crossed entry within
    · exact ⟨_, removed.refill?_eq fits, (view.along axis).ofCells_lines⟩

theorem removeSeam_closes_gaps_block :
    let view := (Image.block (0 : Int) 1).view
    ∃ image, view.removeSeam .horizontal [3, 2, 2, 1] = .ok image ∧ image.width = 4 ∧ image.height = 3 ∧
      image.view.transpose.line 1 = [⟨0, 0, 0⟩, ⟨1, 1, 0⟩, ⟨0, 0, 0⟩] ∧
      (∃ lines, image.view.transpose.refill? view.transpose [3, 2, 2, 1] = some lines ∧
        Grid.ofCells 4 4 lines.flatten.toArray = .ok (Image.block (0 : Int) 1).transpose.toGrid) ∧
      view.closeLines .horizontal [3, 2, 2, 1] ⟨0, 0, 0⟩ = some image.toGrid := by
  intro view
  obtain ⟨succeeds, leaves⟩ := view.removeSeam_closes_gaps .horizontal [3, 2, 2, 1]
  obtain ⟨image, succeeded⟩ := succeeds.2 (by decide)
  obtain ⟨⟨shorter, wide⟩, erased, refilled, copied⟩ := leaves image succeeded
  rw [along_horizontal, width_transpose, Image.height_view] at shorter
  rw [along_horizontal, height_transpose, Image.width_view] at wide
  have second : image.view.transpose.line 1 = (view.transpose.line 1).eraseIdx 2 := erased 1 2 rfl
  refine ⟨image, succeeded, wide, Nat.succ.inj shorter, ?_, refilled, copied _⟩
  rw [second]
  decide +kernel

end View

end SeamCarving

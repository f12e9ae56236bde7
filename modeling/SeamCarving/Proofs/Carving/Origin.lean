import SeamCarving.Proofs.Carving.Corner
import SeamCarving.Proofs.Carving.Removals

/-!
# Where pixels come from

A removal closes the gap that a seam leaves, so each place of the smaller picture shows a pixel that stood at the
same place or at the next one before. `origin` goes back through any number of removals to the place where a pixel
stood at first. Main statement: whatever a carver is asked to do, its image shows pixels of the first image, each
of them once and no further away than the number of seams that were taken out, and lines that were only cut from
one side keep their order (`performAll_origin`).
-/

namespace SeamCarving

/-- A place of a picture as it is called when the picture is seen along the axis, or the other way round. -/
def Axis.turn : Axis → Nat × Nat → Nat × Nat
  | .vertical, place => place
  | .horizontal, place => place.swap

@[simp] theorem Axis.turn_turn (axis : Axis) (place : Nat × Nat) : axis.turn (axis.turn place) = place := by
  cases axis <;> rfl

/-- Where a place stood before the seam was taken out, in a picture that is seen along the axis of the seam. -/
def Seam.before (seam : Seam) (place : Nat × Nat) : Nat × Nat :=
  (skip (seam[place.2]?.getD 0) place.1, place.2)

/-- Where a place stood before the seams were taken out one after another. -/
def origin (removals : List (Axis × Seam)) (place : Nat × Nat) : Nat × Nat :=
  removals.foldr (fun removal place => removal.1.turn (removal.2.before (removal.1.turn place))) place

section

variable {removals : List (Axis × Seam)}

theorem Seam.before_mk (seam : Seam) (x y : Nat) : seam.before (x, y) = (skip (seam[y]?.getD 0) x, y) :=
  rfl

theorem Seam.before_injective (seam : Seam) : Function.Injective seam.before := by
  rintro ⟨x, y⟩ ⟨x', y'⟩ same
  obtain ⟨columns, lines⟩ := Prod.mk.inj same
  simp only at columns lines
  subst lines
  obtain rfl : x = x' := (skip_strictMono _).injective columns
  rfl

theorem origin_injective (removals : List (Axis × Seam)) : Function.Injective (origin removals) := by
  induction removals with
  | nil => exact Function.injective_id
  | cons removal removals ih =>
      obtain ⟨axis, seam⟩ := removal
      have turn_injective : Function.Injective axis.turn :=
        Function.LeftInverse.injective axis.turn_turn
      exact turn_injective.comp (seam.before_injective.comp (turn_injective.comp ih))

/-- A place moves to the right by at most one column for each vertical seam, and down by at most one row for each
    horizontal seam. -/
theorem exists_origin_eq (removals : List (Axis × Seam)) (x y : Nat) :
    ∃ right below, right ≤ (removals.map Prod.fst).count .vertical ∧
      below ≤ (removals.map Prod.fst).count .horizontal ∧
      origin removals (x, y) = (x + right, y + below) := by
  induction removals with
  | nil => exact ⟨0, 0, Nat.le_refl _, Nat.le_refl _, rfl⟩
  | cons removal removals ih =>
      obtain ⟨axis, seam⟩ := removal
      obtain ⟨right, below, few_right, few_below, later⟩ := ih
      simp only [List.map_cons]
      cases axis with
      | vertical =>
          obtain ⟨moved, short, moved_eq⟩ := exists_skip_eq (seam[y + below]?.getD 0) (x + right)
          rw [List.count_cons_self, List.count_cons_of_ne (by decide)]
          refine ⟨right + moved, below, by omega, few_below, ?_⟩
          calc origin ((.vertical, seam) :: removals) (x, y)
            _ = seam.before (origin removals (x, y)) := rfl
            _ = (x + (right + moved), y + below) := by rw [later, Seam.before_mk, moved_eq, Nat.add_assoc]
      | horizontal =>
          obtain ⟨moved, short, moved_eq⟩ := exists_skip_eq (seam[x + right]?.getD 0) (y + below)
          rw [List.count_cons_self, List.count_cons_of_ne (by decide)]
          refine ⟨right, below + moved, few_right, by omega, ?_⟩
          calc origin ((.horizontal, seam) :: removals) (x, y)
            _ = (seam.before (origin removals (x, y)).swap).swap := rfl
            _ = (seam.before (y + below, x + right)).swap :=
              congrArg (fun place => (seam.before place.swap).swap) later
            _ = (x + right, y + (below + moved)) := by
              rw [Seam.before_mk, moved_eq, Prod.swap_prod_mk, Nat.add_assoc]

example : origin [(.vertical, [0, 1, 1]), (.horizontal, [1, 0])] (1, 0) = (2, 1) := by
  decide

/-- Seams along one axis keep the order of each line that they cross. -/
theorem origin_strictMono {axis : Axis} (alike : ∀ removal ∈ removals, removal.1 = axis) (line : Nat) :
    StrictMono (fun place => (axis.turn (origin removals (axis.turn (place, line)))).1) ∧
      ∀ place, (axis.turn (origin removals (axis.turn (place, line)))).2 = line := by
  induction removals with
  | nil =>
      simp only [origin, List.foldr_nil, Axis.turn_turn]
      exact ⟨strictMono_id, fun _ => trivial⟩
  | cons removal removals ih =>
      obtain ⟨first, seam⟩ := removal
      obtain rfl : first = axis := alike _ List.mem_cons_self
      obtain ⟨order, same_line⟩ := ih fun removal member => alike removal (List.mem_cons_of_mem _ member)
      simp only [origin, List.foldr_cons, Axis.turn_turn, Seam.before] at order same_line ⊢
      refine ⟨?_, same_line⟩
      intro place other earlier
      simp only [same_line]
      exact skip_strictMono _ (order earlier)

end

namespace View

variable {π : Type} {view : View π}

theorem pixel?_along (view : View π) (axis : Axis) (place : Nat × Nat) :
    (view.along axis).pixel? place.1 place.2 = view.pixel? (axis.turn place).1 (axis.turn place).2 := by
  cases axis with
  | vertical => rfl
  | horizontal => exact view.pixel?_transpose place.1 place.2

theorem lt_along (view : View π) (axis : Axis) {x y : Nat} (hx : x < view.width) (hy : y < view.height) :
    (axis.turn (x, y)).1 < (view.along axis).width ∧ (axis.turn (x, y)).2 < (view.along axis).height := by
  cases axis with
  | vertical => exact ⟨hx, hy⟩
  | horizontal =>
      rw [along_horizontal, width_transpose, height_transpose]
      exact ⟨hy, hx⟩

theorem inside_of_along {axis : Axis} {x y : Nat} (hx : x < (view.along axis).width)
    (hy : y < (view.along axis).height) :
    (axis.turn (x, y)).1 < view.width ∧ (axis.turn (x, y)).2 < view.height := by
  have inside := (view.along axis).lt_along axis hx hy
  rwa [along_along] at inside

/-- Seen along the axis of a seam, what is left shows at each place the pixel that stood at the place before. -/
theorem Removed.pixel?_before {axis : Axis} {seam : Seam} {image : Image π}
    (removed : view.Removed axis seam image) (fits : seam.Fits (view.along axis).height (view.along axis).width)
    {place : Nat × Nat} (hx : place.1 < (image.view.along axis).width)
    (hy : place.2 < (image.view.along axis).height) :
    (image.view.along axis).pixel? place.1 place.2 =
      (view.along axis).pixel? (seam.before place).1 (seam.before place).2 := by
  rw [removed.width_eq] at hx
  rw [removed.height_eq] at hy
  obtain ⟨gap, entry, -⟩ := fits.exists_entry hy
  rw [removed.pixel?_eq _ _ gap hx hy entry, Seam.before, entry, Option.getD_some]

/-- The pixels of a row, from left to right. -/
def line (view : View π) (y : Nat) : List π :=
  if inside : y < view.height then
    List.ofFn fun x : Fin view.width => view.pixel x y x.isLt inside
  else
    []

theorem getElem?_line {y : Nat} (inside : y < view.height) (x : Nat) :
    (view.line y)[x]? = if x < view.width then view.pixel? x y else none := by
  unfold line
  by_cases hx : x < view.width
  · simp [inside, hx, view.pixel?_eq_some hx inside]
  · simp [inside, hx]

/-- The lines that a seam crosses lose the places of its entries. -/
theorem Removed.line_eq {axis : Axis} {seam : Seam} {image : Image π} (removed : view.Removed axis seam image)
    {y gap : Nat} (inside : y < (view.along axis).height) (entry : seam[y]? = some gap)
    (within : gap < (view.along axis).width) :
    (image.view.along axis).line y = ((view.along axis).line y).eraseIdx gap := by
  have narrower := removed.width_eq
  have still_inside : y < (image.view.along axis).height := by
    rw [removed.height_eq]
    exact inside
  apply List.ext_getElem?
  intro x
  rw [List.getElem?_eraseIdx, getElem?_line still_inside, getElem?_line inside, getElem?_line inside, narrower]
  by_cases hx : x < (view.along axis).width - 1
  · rw [if_pos hx, removed.pixel?_eq x y gap hx inside entry, skip]
    split
    · rw [if_pos (by omega)]
    · rw [if_pos (by omega)]
  · rw [if_neg hx, if_neg (by omega), if_neg (by omega)]

end View

section

variable {π : Type} {image smaller result : Image π} {axis : Axis} {seam : Seam}
  {removals : List (Axis × Seam)}

theorem Image.SamePixel.inside {x y x' y' : Nat} (same : result.SamePixel x y image x' y') :
    x' < image.width ∧ y' < image.height := by
  obtain ⟨pixel, -, present⟩ := same
  unfold pixel? Grid.cell? at present
  split at present
  · next inside => exact inside
  · contradiction

theorem Image.SamePixel.trans {other : Image π} {x y x' y' x'' y'' : Nat}
    (first : result.SamePixel x y smaller x' y') (second : smaller.SamePixel x' y' other x'' y'') :
    result.SamePixel x y other x'' y'' := by
  obtain ⟨pixel, here, there⟩ := first
  obtain ⟨same, there', beyond⟩ := second
  rw [there, Option.some.injEq] at there'
  rw [← there'] at beyond
  exact ⟨pixel, here, beyond⟩

/-- What is left after a removal shows at each place the pixel that stood at the place before. -/
theorem Image.samePixel_of_removeSeam (removed : image.view.removeSeam axis seam = .ok smaller)
    {place : Nat × Nat} (hx : place.1 < smaller.width) (hy : place.2 < smaller.height) :
    smaller.SamePixel place.1 place.2 image (origin [(axis, seam)] place).1
      (origin [(axis, seam)] place).2 := by
  obtain ⟨-, fits⟩ := View.fits_of_removeSeam removed
  have left := View.removed_of_removeSeam removed
  obtain ⟨hu, hv⟩ := smaller.view.lt_along axis hx hy
  have moved := left.pixel?_before fits hu hv
  rw [View.pixel?_along, View.pixel?_along, Axis.turn_turn, pixel?_view, pixel?_view] at moved
  have present := smaller.pixel?_eq_some hx hy
  exact ⟨_, present, moved.symm.trans present⟩

/-- What is left after removals shows at each place the pixel that stood at its origin. -/
theorem Image.samePixel_of_removeAll (removed : image.removeAll removals = .ok result)
    {place : Nat × Nat} (hx : place.1 < result.width) (hy : place.2 < result.height) :
    result.SamePixel place.1 place.2 image (origin removals place).1 (origin removals place).2 := by
  induction removals generalizing image with
  | nil =>
      cases removed
      have present := result.pixel?_eq_some hx hy
      exact ⟨_, present, present⟩
  | cons removal removals ih =>
      obtain ⟨axis, seam⟩ := removal
      obtain ⟨smaller, first, others⟩ := removeAll_cons_eq_ok_iff.1 removed
      have later := ih others
      obtain ⟨inside_x, inside_y⟩ := later.inside
      exact later.trans (samePixel_of_removeSeam first inside_x inside_y)

/-- Seams along one axis leave of each line that they cross some of its pixels, in their order. -/
theorem Image.line_sublist_of_removeAll (removed : image.removeAll removals = .ok result)
    (alike : ∀ removal ∈ removals, removal.1 = axis) {y : Nat} (inside : y < (result.view.along axis).height) :
    ((result.view.along axis).line y).Sublist ((image.view.along axis).line y) := by
  suffices kept : (result.view.along axis).height = (image.view.along axis).height ∧
      ((result.view.along axis).line y).Sublist ((image.view.along axis).line y) from kept.2
  induction removals generalizing image with
  | nil =>
      cases removed
      exact ⟨rfl, .refl _⟩
  | cons removal removals ih =>
      obtain ⟨first, seam⟩ := removal
      obtain rfl : first = axis := alike _ List.mem_cons_self
      obtain ⟨smaller, taken, others⟩ := removeAll_cons_eq_ok_iff.1 removed
      obtain ⟨-, fits⟩ := View.fits_of_removeSeam taken
      have left := View.removed_of_removeSeam taken
      obtain ⟨same_height, later⟩ := ih others fun removal member => alike removal (List.mem_cons_of_mem _ member)
      have same_lines := same_height.trans left.height_eq
      obtain ⟨gap, entry, within⟩ := fits.exists_entry (show y < (image.view.along first).height by omega)
      refine ⟨same_lines, later.trans ?_⟩
      rw [left.line_eq (by omega) entry within]
      exact List.eraseIdx_sublist _ _

end

theorem Axis.eq_of_count_eq_zero {removals : List (Axis × Seam)} {axis other : Axis} (different : other ≠ axis)
    (absent : (removals.map Prod.fst).count other = 0) : ∀ removal ∈ removals, removal.1 = axis := by
  intro removal member
  have not_other : removal.1 ≠ other := by
    intro same
    exact List.count_eq_zero.1 absent (List.mem_map.2 ⟨removal, member, same⟩)
  obtain ⟨first, seam⟩ := removal
  cases axis <;> cases other <;> cases first <;> first | rfl | contradiction

/-- Whatever a carver has been asked to do, its image is smaller by one column for each vertical seam that was
    taken out and by one row for each horizontal seam, and it shows pixels of the first image: each place the one
    that stood at its origin, which no other place has and which is no further to the right or below than the
    number of those seams. If only vertical seams were taken out, rows keep their order, and if only horizontal
    seams were, columns do. -/
theorem Carver.performAll_origin {π ε : Type} [Coloured π ε] [Add ε] [Sub ε] [Mul ε] [NatCast ε] [LT ε]
    [DecidableLT ε] (carver : Carver π) (commands : List Carver.Command) :
    let current := (carver.performAll commands).image
    let taken := carver.takenAll commands
    let columns := (taken.map Prod.fst).count .vertical
    let rows := (taken.map Prod.fst).count .horizontal
    carver.image.removeAll taken = .ok current ∧
    (current.width + columns = carver.image.width ∧ current.height + rows = carver.image.height) ∧
    Function.Injective (origin taken) ∧
    (∀ x y, x < current.width → y < current.height →
      ∃ right below, right ≤ columns ∧ below ≤ rows ∧ origin taken (x, y) = (x + right, y + below) ∧
        current.SamePixel x y carver.image (x + right) (y + below)) ∧
    (rows = 0 → ∀ y, y < current.height →
      StrictMono (fun x => (origin taken (x, y)).1) ∧
        (current.view.line y).Sublist (carver.image.view.line y)) ∧
    (columns = 0 → ∀ x, x < current.width →
      StrictMono (fun y => (origin taken (x, y)).2) ∧
        (current.view.transpose.line x).Sublist (carver.image.view.transpose.line x)) := by
  intro current taken columns rows
  have removed : carver.image.removeAll taken = .ok current := carver.removeAll_takenAll commands
  obtain ⟨size, -, -⟩ := Image.size_of_removeAll removed
  refine ⟨removed, size, origin_injective taken, ?_, ?_, ?_⟩
  · intro x y hx hy
    obtain ⟨right, below, few_right, few_below, origin_eq⟩ := exists_origin_eq taken x y
    have same := Image.samePixel_of_removeAll removed (show (x, y).1 < current.width from hx) hy
    rw [origin_eq] at same
    exact ⟨right, below, few_right, few_below, origin_eq, same⟩
  · intro none_horizontal y hy
    have alike : ∀ removal ∈ taken, removal.1 = .vertical := Axis.eq_of_count_eq_zero (by decide) none_horizontal
    exact ⟨(origin_strictMono alike y).1, Image.line_sublist_of_removeAll removed alike hy⟩
  · intro none_vertical x hx
    have alike : ∀ removal ∈ taken, removal.1 = .horizontal := Axis.eq_of_count_eq_zero (by decide) none_vertical
    have inside : x < current.view.transpose.height := by
      rw [View.height_transpose]
      exact hx
    exact ⟨(origin_strictMono alike x).1, Image.line_sublist_of_removeAll removed alike inside⟩

end SeamCarving

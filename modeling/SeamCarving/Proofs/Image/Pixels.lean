import SeamCarving.Carving.Carver

/-!
# Reading pixels by place

How the pixels that an image or a view answers to at a place are related: a place within the sizes has a pixel,
and exchanging the axes exchanges the coordinates. Seams of both directions are treated alike by looking at a
picture along the axis of the seam. Views that show the same pixels, whatever is underneath, have equal copies
(`ShowsSame.toImage_eq`).
-/

namespace SeamCarving

variable {π : Type}

namespace Image

theorem pixel?_eq_some (image : Image π) {x y : Nat} (hx : x < image.width) (hy : y < image.height) :
    image.pixel? x y = some (image.pixel x y hx hy) := by
  have stored : y * image.width + x < image.cells.size := by
    rw [image.filled]
    exact Grid.index_lt hx hy
  simp [pixel?, pixel, Grid.cell?, Grid.get?, Grid.index, hx, hy, stored]

theorem pixel?_ofFn {width height x y : Nat} (paint : (x y : Nat) → x < width → y < height → π)
    (hx : x < width) (hy : y < height) :
    (ofFn width height paint).pixel? x y = some (paint x y hx hy) := by
  rw [pixel?_eq_some _ (show x < (ofFn width height paint).width from hx)
    (show y < (ofFn width height paint).height from hy), pixel_ofFn]

@[simp] theorem pixel?_view (image : Image π) (x y : Nat) : image.view.pixel? x y = image.pixel? x y := by
  simp [View.pixel?, view]

/-- Two images of one size are equal if they answer alike at every place. -/
theorem ext_pixel? {first second : Image π} (width : first.width = second.width)
    (height : first.height = second.height)
    (pixels : ∀ x y, x < first.width → y < first.height → first.pixel? x y = second.pixel? x y) :
    first = second := by
  refine ext_pixel width height ?_
  intro x y hx hy
  have same := pixels x y hx hy
  rw [first.pixel?_eq_some hx hy, second.pixel?_eq_some (width ▸ hx) (height ▸ hy)] at same
  exact Option.some.inj same

end Image

/-- A dark picture of four columns and rows with a bright block in its middle. -/
def Image.block {ε : Type} (dark bright : ε) : Image (Rgb ε) :=
  .ofFn 4 4 fun x y _ _ =>
    if (x = 1 ∨ x = 2) ∧ (y = 1 ∨ y = 2) then ⟨bright, bright, dark⟩ else ⟨dark, dark, dark⟩

namespace View

theorem pixel?_eq_some (view : View π) {x y : Nat} (hx : x < view.width) (hy : y < view.height) :
    view.pixel? x y = some (view.pixel x y hx hy) := by
  unfold pixel? pixel
  split <;> exact Image.pixel?_eq_some _ _ _

theorem pixel_eq_of_pixel? {first second : View π} {x y x' y' : Nat} (hx : x < first.width) (hy : y < first.height)
    (hx' : x' < second.width) (hy' : y' < second.height) (same : first.pixel? x y = second.pixel? x' y') :
    first.pixel x y hx hy = second.pixel x' y' hx' hy' := by
  rw [first.pixel?_eq_some hx hy, second.pixel?_eq_some hx' hy'] at same
  exact Option.some.inj same

@[simp] theorem pixel?_transpose (view : View π) (x y : Nat) :
    view.transpose.pixel? x y = view.pixel? y x := by
  cases turned : view.swapped <;> simp [transpose, pixel?, turned]

theorem pixel_toImage (view : View π) {x y : Nat} (hx : x < view.width) (hy : y < view.height) :
    view.toImage.pixel x y hx hy = view.pixel x y hx hy :=
  Image.pixel_ofFn _ hx hy

theorem pixel_colours {ε : Type} [Coloured π ε] (view : View π) {x y : Nat} (hx : x < view.width)
    (hy : y < view.height) :
    (view.colours : Image (Rgb ε)).pixel x y hx hy = Coloured.colour (view.pixel x y hx hy) :=
  Image.pixel_ofFn _ hx hy

/-- All places at once: what the energies are computed from. -/
theorem pixel_colours_eq {ε : Type} [Coloured π ε] (view : View π) :
    (view.colours : Image (Rgb ε)).pixel = fun x y hx hy => Coloured.colour (view.pixel x y hx hy) := by
  funext x y hx hy
  exact view.pixel_colours hx hy

theorem pixel?_toImage (view : View π) {x y : Nat} (hx : x < view.width) (hy : y < view.height) :
    view.toImage.pixel? x y = view.pixel? x y := by
  rw [toImage, Image.pixel?_ofFn _ hx hy, view.pixel?_eq_some hx hy]

@[simp] theorem along_vertical (view : View π) : view.along .vertical = view :=
  rfl

@[simp] theorem along_horizontal (view : View π) : view.along .horizontal = view.transpose :=
  rfl

@[simp] theorem along_along (view : View π) (axis : Axis) : (view.along axis).along axis = view := by
  cases axis with
  | vertical => rfl
  | horizontal => exact view.transpose_transpose

theorem large_along (view : View π) (axis : Axis) :
    3 ≤ (view.along axis).width ∧ 3 ≤ (view.along axis).height ↔ 3 ≤ view.width ∧ 3 ≤ view.height := by
  cases axis with
  | vertical => exact Iff.rfl
  | horizontal =>
      rw [along_horizontal, width_transpose, height_transpose]
      exact and_comm

/-! ## Views that show the same -/

/-- The views have one size and show the same pixels. -/
structure ShowsSame (first second : View π) : Prop where
  width_eq : first.width = second.width
  height_eq : first.height = second.height
  pixel?_eq : ∀ x y, x < first.width → y < first.height → first.pixel? x y = second.pixel? x y

theorem showsSame_toImage (view : View π) : view.ShowsSame view.toImage.view := by
  refine ⟨rfl, rfl, ?_⟩
  intro x y hx hy
  rw [Image.pixel?_view, view.pixel?_toImage hx hy]

/-- Views of one rectangle of two images show the same if the images agree on the rectangle. -/
theorem showsSame_of_bounds {first second : View π} (bounds_eq : second.upright.bounds = first.upright.bounds)
    (swapped_eq : second.swapped = first.swapped)
    (same : ∀ x y, first.upright.bounds.Contains x y → first.image.pixel? x y = second.image.pixel? x y) :
    first.ShowsSame second := by
  obtain ⟨image, left, top, columns, rows, turned, columns_fit, rows_fit⟩ := first
  obtain ⟨image', left', top', columns', rows', turned', columns_fit', rows_fit'⟩ := second
  simp only [upright, bounds, Bool.false_eq_true, ↓reduceIte, Rectangle.mk.injEq] at bounds_eq same
  simp only at swapped_eq
  obtain ⟨rfl, rfl, rfl, rfl⟩ := bounds_eq
  subst swapped_eq
  refine ⟨rfl, rfl, ?_⟩
  intro x y hx hy
  cases turned' with
  | false => exact same (left' + x) (top' + y) ⟨⟨Nat.le_add_right _ _, Nat.add_lt_add_left hx _⟩,
      Nat.le_add_right _ _, Nat.add_lt_add_left hy _⟩
  | true => exact same (left' + y) (top' + x) ⟨⟨Nat.le_add_right _ _, Nat.add_lt_add_left hy _⟩,
      Nat.le_add_right _ _, Nat.add_lt_add_left hx _⟩

theorem ShowsSame.transpose {first second : View π} (same : first.ShowsSame second) :
    first.transpose.ShowsSame second.transpose := by
  refine ⟨?_, ?_, ?_⟩
  · rw [width_transpose, width_transpose, same.height_eq]
  · rw [height_transpose, height_transpose, same.width_eq]
  · intro x y hx hy
    rw [width_transpose] at hx
    rw [height_transpose] at hy
    rw [pixel?_transpose, pixel?_transpose]
    exact same.pixel?_eq y x hy hx

theorem ShowsSame.along {first second : View π} (same : first.ShowsSame second) (axis : Axis) :
    (first.along axis).ShowsSame (second.along axis) := by
  cases axis with
  | vertical => exact same
  | horizontal => exact same.transpose

/-- Copies of what two such views show are equal. -/
theorem ShowsSame.toImage_eq {first second : View π} (same : first.ShowsSame second) :
    first.toImage = second.toImage := by
  refine Image.ext_pixel? same.width_eq same.height_eq ?_
  intro x y hx hy
  rw [first.pixel?_toImage hx hy, same.pixel?_eq x y hx hy]
  exact (second.pixel?_toImage (same.width_eq ▸ hx) (same.height_eq ▸ hy)).symm

end View

@[simp] theorem Image.toImage_view (image : Image π) : image.view.toImage = image := by
  refine ext_pixel rfl rfl ?_
  intro x y hx hy
  exact (image.view.pixel_toImage hx hy).trans (image.pixel_view hx hy)

@[simp] theorem Image.width_transpose (image : Image π) : image.transpose.width = image.height :=
  image.view.width_transpose

@[simp] theorem Image.height_transpose (image : Image π) : image.transpose.height = image.width :=
  image.view.height_transpose

/-- A copy of what is seen with exchanged axes is the copy with exchanged axes. -/
theorem View.toImage_transpose (view : View π) : view.transpose.toImage = view.toImage.transpose :=
  view.showsSame_toImage.transpose.toImage_eq

@[simp] theorem Image.transpose_transpose (image : Image π) : image.transpose.transpose = image := by
  calc image.transpose.transpose
    _ = image.view.transpose.transpose.toImage := (View.toImage_transpose _).symm
    _ = image := by rw [View.transpose_transpose, toImage_view]

end SeamCarving

import SeamCarving.Image.Basic

/-!
# Views of an image

A view looks at a rectangle of an image, upright or with its axes exchanged. Nothing is copied. Transposing a
view lets an algorithm that works from top to bottom work from left to right. A view reads its pixels from
the image underneath; `pixel` asks for evidence that the place belongs to the view, while `pixel?` lets the
image alone decide and so can see past the view's own rectangle.
-/

namespace SeamCarving

/-- A rectangle of places. -/
structure Rectangle where
  left : Nat
  top : Nat
  width : Nat
  height : Nat
  deriving DecidableEq

/-- Whether a place belongs to the rectangle. -/
def Rectangle.Contains (rectangle : Rectangle) (x y : Nat) : Prop :=
  (rectangle.left ≤ x ∧ x < rectangle.left + rectangle.width) ∧
    (rectangle.top ≤ y ∧ y < rectangle.top + rectangle.height)

instance (rectangle : Rectangle) (x y : Nat) : Decidable (rectangle.Contains x y) :=
  inferInstanceAs (Decidable ((_ ∧ _) ∧ (_ ∧ _)))

/-- A rectangle of an image, seen upright or with its axes exchanged. -/
structure View (π : Type) where
  image : Image π
  left : Nat
  top : Nat
  /-- How many columns of the image are seen. -/
  columns : Nat
  /-- How many rows of the image are seen. -/
  rows : Nat
  /-- Whether the columns of the image are seen as rows. -/
  swapped : Bool
  columns_fit : left + columns ≤ image.width
  rows_fit : top + rows ≤ image.height

/-- The whole image, upright. -/
def Image.view {π : Type} (image : Image π) : View π where
  image := image
  left := 0
  top := 0
  columns := image.width
  rows := image.height
  swapped := false
  columns_fit := by simp
  rows_fit := by simp

namespace View

variable {π : Type}

/-- The number of pixels in a row of the view. -/
def width (view : View π) : Nat :=
  if view.swapped then view.rows else view.columns

/-- The number of rows of the view. -/
def height (view : View π) : Nat :=
  if view.swapped then view.columns else view.rows

/-- The rectangle that the view covers, in the view's own axes. -/
def bounds (view : View π) : Rectangle :=
  if view.swapped then
    ⟨view.top, view.left, view.rows, view.columns⟩
  else
    ⟨view.left, view.top, view.columns, view.rows⟩

/-- The view with its axes exchanged. -/
def transpose (view : View π) : View π :=
  { view with swapped := !view.swapped }

/-- The view that a transposed view was made from: the same rectangle, with the axes of the image. -/
def upright (view : View π) : View π :=
  { view with swapped := false }

/-- A smaller rectangle of the view, named and seen in the axes of the image underneath even if the view is
    transposed; absent if it does not fit. -/
def crop? (view : View π) (left top width height : Nat) : Option (View π) :=
  if fits : left + width ≤ view.columns ∧ top + height ≤ view.rows then
    some {
      image := view.image
      left := view.left + left
      top := view.top + top
      columns := width
      rows := height
      swapped := false
      columns_fit := by
        have := view.columns_fit
        omega
      rows_fit := by
        have := view.rows_fit
        omega }
  else
    none

/-- The pixel in column `x` of row `y` of the view. -/
def pixel (view : View π) (x y : Nat) (hx : x < view.width) (hy : y < view.height) : π :=
  have across := view.columns_fit
  have down := view.rows_fit
  if turned : view.swapped then
    view.image.pixel (view.left + y) (view.top + x)
      (by simp only [height, turned] at hy; simp only [↓reduceIte] at hy; omega)
      (by simp only [width, turned] at hx; simp only [↓reduceIte] at hx; omega)
  else
    view.image.pixel (view.left + x) (view.top + y)
      (by simp only [width, turned] at hx; simp only [Bool.false_eq_true, ↓reduceIte] at hx; omega)
      (by simp only [height, turned] at hy; simp only [Bool.false_eq_true, ↓reduceIte] at hy; omega)

/-- The pixel that the view shows at `(x, y)`, absent only where the image underneath ends. -/
def pixel? (view : View π) (x y : Nat) : Option π :=
  if view.swapped then
    view.image.pixel? (view.left + y) (view.top + x)
  else
    view.image.pixel? (view.left + x) (view.top + y)

/-- An image that holds a copy of what the view shows. -/
def toImage (view : View π) : Image π :=
  .ofFn view.width view.height view.pixel

@[simp] theorem transpose_transpose (view : View π) : view.transpose.transpose = view := by
  simp [transpose]

@[simp] theorem width_transpose (view : View π) : view.transpose.width = view.height := by
  cases turned : view.swapped <;> simp [transpose, width, height, turned]

@[simp] theorem height_transpose (view : View π) : view.transpose.height = view.width := by
  cases turned : view.swapped <;> simp [transpose, width, height, turned]

/-- Exchanging the axes exchanges the coordinates. -/
theorem pixel_transpose (view : View π) {x y : Nat} (hx : x < view.transpose.width)
    (hy : y < view.transpose.height) :
    view.transpose.pixel x y hx hy = view.pixel y x (by simpa using hy) (by simpa using hx) := by
  cases turned : view.swapped <;> simp [transpose, pixel, turned]

end View

@[simp] theorem Image.width_view {π : Type} (image : Image π) : image.view.width = image.width :=
  rfl

@[simp] theorem Image.height_view {π : Type} (image : Image π) : image.view.height = image.height :=
  rfl

@[simp] theorem Image.pixel_view {π : Type} (image : Image π) {x y : Nat} (hx : x < image.width)
    (hy : y < image.height) :
    image.view.pixel x y hx hy = image.pixel x y hx hy := by
  simp [View.pixel, Image.view]

/-- The image with its rows and columns exchanged. -/
def Image.transpose {π : Type} (image : Image π) : Image π :=
  image.view.transpose.toImage

end SeamCarving

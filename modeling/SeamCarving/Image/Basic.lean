import SeamCarving.Grid.Basic

/-!
# Images

An image is a grid whose storage is exactly filled, so that every column and row below its sizes has a pixel.
Reading a pixel asks for that evidence and cannot fail. Main statements: an image made from a function reads
back as that function, and two images of one size with the same pixels are equal.
-/

namespace SeamCarving

/-- A filled grid of pixels. -/
structure Image (π : Type) extends Grid π where
  /-- The storage holds one pixel for each column of each row. -/
  filled : toGrid.WellFormed

namespace Image

variable {π : Type}

/-- The pixel in column `x` of row `y`. -/
def pixel (image : Image π) (x y : Nat) (hx : x < image.width) (hy : y < image.height) : π :=
  have inside : y * image.width + x < image.cells.size := by
    rw [image.filled]
    exact Grid.index_lt hx hy
  image.cells[y * image.width + x]

/-- The pixel in column `x` of row `y`, absent outside the image. -/
def pixel? (image : Image π) (x y : Nat) : Option π :=
  image.toGrid.cell? x y

/-- The image of the given size whose pixel `(x, y)` is `paint x y`. -/
def ofFn (width height : Nat) (paint : (x y : Nat) → x < width → y < height → π) : Image π where
  width := width
  height := height
  cells := .ofFn fun index : Fin (width * height) =>
    have wide : 0 < width := Nat.pos_of_mul_pos_right (Nat.zero_lt_of_lt index.isLt)
    paint (index % width) (index / width) (Nat.mod_lt _ wide)
      (Nat.div_lt_of_lt_mul index.isLt)
  filled := by simp [Grid.WellFormed]

/-- The same picture with every pixel changed by `f`. -/
def map {ρ : Type} (f : π → ρ) (image : Image π) : Image ρ :=
  ⟨image.toGrid.map f, image.filled.map f⟩

@[simp] theorem width_ofFn (width height : Nat)
    (paint : (x y : Nat) → x < width → y < height → π) :
    (ofFn width height paint).width = width :=
  rfl

@[simp] theorem height_ofFn (width height : Nat)
    (paint : (x y : Nat) → x < width → y < height → π) :
    (ofFn width height paint).height = height :=
  rfl

@[simp] theorem width_map {ρ : Type} (f : π → ρ) (image : Image π) :
    (image.map f).width = image.width :=
  rfl

@[simp] theorem height_map {ρ : Type} (f : π → ρ) (image : Image π) :
    (image.map f).height = image.height :=
  rfl

@[simp] theorem pixel_ofFn {width height x y : Nat}
    (paint : (x y : Nat) → x < width → y < height → π) (hx : x < width) (hy : y < height) :
    (ofFn width height paint).pixel x y hx hy = paint x y hx hy := by
  simp [pixel, ofFn, Grid.index_mod y hx, Grid.index_div y hx]

@[simp] theorem pixel_map {ρ : Type} (f : π → ρ) (image : Image π) {x y : Nat}
    (hx : x < image.width) (hy : y < image.height) :
    (image.map f).pixel x y hx hy = f (image.pixel x y hx hy) := by
  simp [pixel, map, Grid.map]

/-- Two images of one size are equal if they agree on every pixel. -/
theorem ext_pixel {first second : Image π} (width : first.width = second.width)
    (height : first.height = second.height)
    (pixels : ∀ x y (hx : x < first.width) (hy : y < first.height),
      first.pixel x y hx hy = second.pixel x y (width ▸ hx) (height ▸ hy)) :
    first = second := by
  obtain ⟨⟨w, h, cells⟩, filled⟩ := first
  obtain ⟨⟨w', h', cells'⟩, filled'⟩ := second
  simp only at width height
  subst width
  subst height
  have cellsEqual : cells = cells' := by
    apply Array.ext
    · exact filled.trans filled'.symm
    · intro index inFirst inSecond
      have bound : index < w * h := by
        have size : cells.size = w * h := filled
        omega
      have wide : 0 < w := Nat.pos_of_mul_pos_right (Nat.zero_lt_of_lt bound)
      have same := pixels (index % w) (index / w) (Nat.mod_lt _ wide) (Nat.div_lt_of_lt_mul bound)
      have whole : index / w * w + index % w = index := by
        rw [Nat.mul_comm]
        exact Nat.div_add_mod index w
      simpa [pixel, whole] using same
  subst cellsEqual
  rfl

end Image

end SeamCarving

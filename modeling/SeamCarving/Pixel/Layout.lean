/-!
# Colours and pixel layouts

A colour has a red, a green and a blue part. A pixel stores its channels in the order of its layout, which
also says where the three parts of its colour are found: a grey pixel shows its one shade as all three, and
alpha belongs to no colour.
-/

namespace SeamCarving

/-- A colour in three parts. -/
structure Rgb (ε : Type) where
  red : ε
  green : ε
  blue : ε
  deriving DecidableEq

/-- The colour with `f` applied to each part. -/
def Rgb.map {ε δ : Type} (f : ε → δ) (colour : Rgb ε) : Rgb δ :=
  ⟨f colour.red, f colour.green, f colour.blue⟩

/-- Which channels a pixel has, and in which order. -/
inductive Layout where
  | rgb
  | rgba
  | luma
  | lumaA
  | bgr
  | bgra
  deriving DecidableEq

namespace Layout

/-- The number of channels. -/
def size : Layout → Nat
  | rgb | bgr => 3
  | rgba | bgra => 4
  | luma => 1
  | lumaA => 2

/-- The channel that is shown as red. -/
def red : (layout : Layout) → Fin layout.size
  | rgb => ⟨0, by decide⟩
  | rgba => ⟨0, by decide⟩
  | luma => ⟨0, by decide⟩
  | lumaA => ⟨0, by decide⟩
  | bgr => ⟨2, by decide⟩
  | bgra => ⟨2, by decide⟩

/-- The channel that is shown as green. -/
def green : (layout : Layout) → Fin layout.size
  | rgb => ⟨1, by decide⟩
  | rgba => ⟨1, by decide⟩
  | luma => ⟨0, by decide⟩
  | lumaA => ⟨0, by decide⟩
  | bgr => ⟨1, by decide⟩
  | bgra => ⟨1, by decide⟩

/-- The channel that is shown as blue. -/
def blue : (layout : Layout) → Fin layout.size
  | rgb => ⟨2, by decide⟩
  | rgba => ⟨2, by decide⟩
  | luma => ⟨0, by decide⟩
  | lumaA => ⟨0, by decide⟩
  | bgr => ⟨0, by decide⟩
  | bgra => ⟨0, by decide⟩

end Layout

/-- A pixel: one channel value for each channel of its layout. -/
structure Pixel (layout : Layout) (χ : Type) where
  channels : Vector χ layout.size
  deriving DecidableEq

namespace Pixel

variable {layout : Layout} {χ : Type}

/-- The colour that the pixel shows. -/
def colour (pixel : Pixel layout χ) : Rgb χ :=
  ⟨pixel.channels[layout.red], pixel.channels[layout.green], pixel.channels[layout.blue]⟩

/-- The pixel that shows a colour, with its parts in the usual order. -/
def ofColour (colour : Rgb χ) : Pixel .rgb χ :=
  ⟨#v[colour.red, colour.green, colour.blue]⟩

/-- The same colour as a pixel without alpha, its parts in the usual order. -/
def toRgb (pixel : Pixel layout χ) : Pixel .rgb χ :=
  .ofColour pixel.colour

/-- A grey pixel. -/
def ofShade (shade : χ) : Pixel .luma χ :=
  ⟨#v[shade]⟩

end Pixel

end SeamCarving

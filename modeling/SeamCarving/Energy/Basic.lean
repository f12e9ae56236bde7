import SeamCarving.Image.View
import SeamCarving.Pixel.Coloured

/-!
# Energy

The energy of a pixel says how much the picture changes around it: the squared distance between the colours
of its left and right neighbours plus that between the colours of its upper and lower neighbours. A pixel on
the border lacks a neighbour and has a fixed energy instead, the largest that one axis can contribute with
channels of eight bits.
-/

namespace SeamCarving

/-- A natural number as a float of 64 bits. -/
instance natCastFloat : NatCast Float := ⟨Float.ofNat⟩

/-- The energy of every pixel on the border: three channels, each at its largest difference of 255. -/
def borderEnergy {ε : Type} [NatCast ε] : ε :=
  ((195075 : Nat) : ε)

section

variable {ε : Type} [Add ε] [Sub ε] [Mul ε]

/-- The squared difference of two numbers. -/
def squaredDifference (before after : ε) : ε :=
  (after - before) * (after - before)

/-- The squared distance of two colours, summed over red, green and blue in this order. -/
def Rgb.squaredDistance (before after : Rgb ε) : ε :=
  squaredDifference before.red after.red + squaredDifference before.green after.green +
    squaredDifference before.blue after.blue

/-- The energy at `(x, y)` of a picture of the given size whose colours are read by `colour`. Only neighbours
    within the picture are read. -/
def energyAt [NatCast ε] (width height : Nat)
    (colour : (x y : Nat) → x < width → y < height → Rgb ε) (x y : Nat) : ε :=
  if inner : (0 < x ∧ x + 1 < width) ∧ (0 < y ∧ y + 1 < height) then
    (colour (x - 1) y (by omega) (by omega)).squaredDistance (colour (x + 1) y (by omega) (by omega)) +
      (colour x (y - 1) (by omega) (by omega)).squaredDistance (colour x (y + 1) (by omega) (by omega))
  else
    borderEnergy

end

namespace View

variable {π ε : Type} [Coloured π ε]

/-- The colours of all pixels of the view, read once. -/
def colours (view : View π) : Image (Rgb ε) :=
  .ofFn view.width view.height fun x y hx hy => Coloured.colour (view.pixel x y hx hy)

variable [Add ε] [Sub ε] [Mul ε] [NatCast ε]

/-- The energy of one pixel of the view. -/
def pixelEnergy (view : View π) (x y : Nat) : Except CarveError ε :=
  if x < view.width ∧ y < view.height then
    .ok (energyAt view.width view.height
      (fun x y hx hy => Coloured.colour (view.pixel x y hx hy)) x y)
  else
    .error (.outOfBounds x y view.width view.height)

/-- The energies of all pixels of the view. -/
def energy (view : View π) : Grid ε :=
  let colours : Image (Rgb ε) := view.colours
  .ofFn view.width view.height (energyAt colours.width colours.height colours.pixel)

end View

end SeamCarving

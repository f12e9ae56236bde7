import SeamCarving.Energy.Basic

/-!
# Energies as a grey picture

An energy grid is shown with its largest energy at full brightness and every other energy in proportion.
Shades have eight bits; a proportion is rounded to the nearest shade, a half away from zero.
-/

namespace SeamCarving

/-- Numbers that can be rounded to a shade. -/
class ToShade (ε : Type) where
  /-- The nearest shade, a half away from zero; numbers outside `0` to `255` have the nearer end, and what is
      not a number has shade zero. -/
  toShade : ε → UInt8

/-- The nearest shade to a brightness: its whole part, and one more where a half or more is left. -/
def nearestShade (brightness : Float) : UInt8 :=
  let whole := brightness.toUInt8
  if whole < 255 ∧ whole.toFloat + 0.5 ≤ brightness then whole + 1 else whole

instance : ToShade Float := ⟨nearestShade⟩

namespace Grid

variable {ε : Type} [LT ε] [DecidableLT ε] [Div ε] [Mul ε] [NatCast ε]

/-- The largest energy of the grid, at least zero. What is not a number is passed over. -/
def peak (energy : Grid ε) : ε :=
  energy.cells.foldl (fun largest cell => if largest < cell then cell else largest) ((0 : Nat) : ε)

/-- The shade of an energy where `peak` is shown at full brightness; all is black if the peak is zero. -/
def shade [ToShade ε] (peak energy : ε) : UInt8 :=
  if ((0 : Nat) : ε) < peak then ToShade.toShade (energy / peak * ((255 : Nat) : ε)) else 0

/-- The grid of energies as shades. -/
def shades [ToShade ε] (energy : Grid ε) : Grid UInt8 :=
  energy.map (shade energy.peak)

end Grid

namespace View

variable {π ε : Type} [Coloured π ε] [Add ε] [Sub ε] [Mul ε] [NatCast ε] [LT ε] [DecidableLT ε] [Div ε]
  [ToShade ε]

/-- The energies of a view as a grey image of its size. -/
def energyImage (view : View π) : Image (Pixel .luma UInt8) :=
  ⟨view.energy.shades.map Pixel.ofShade, ((Grid.wellFormed_ofFn _ _ _).map _).map _⟩

end View

end SeamCarving

import SeamCarving.Pixel.Layout

/-!
# The colour of a pixel as numbers

Energies are computed in one kind of number. A channel type says which number each of its values stands for,
and a pixel type says which colour, in such numbers, each of its pixels shows. Machine integers and floats
stand for floating point numbers of 64 bits, rounded to the nearest where they do not fit; integers stand for
themselves, which gives exact arithmetic.
-/

namespace SeamCarving

/-- A channel value stands for a number. -/
class Channel (χ : Type) (ε : outParam Type) where
  /-- The number that the channel value stands for. -/
  value : χ → ε

instance : Channel UInt8 Float := ⟨UInt8.toFloat⟩
instance : Channel UInt16 Float := ⟨UInt16.toFloat⟩
instance : Channel UInt32 Float := ⟨UInt32.toFloat⟩
instance : Channel UInt64 Float := ⟨UInt64.toFloat⟩
instance : Channel Int8 Float := ⟨Int8.toFloat⟩
instance : Channel Int16 Float := ⟨Int16.toFloat⟩
instance : Channel Int32 Float := ⟨Int32.toFloat⟩
instance : Channel Int64 Float := ⟨Int64.toFloat⟩
instance : Channel Float32 Float := ⟨Float32.toFloat⟩
instance : Channel Float Float := ⟨id⟩
instance : Channel Int Int := ⟨id⟩

/-- A pixel shows a colour. -/
class Coloured (π : Type) (ε : outParam Type) where
  /-- The colour that the pixel shows, in numbers. -/
  colour : π → Rgb ε

instance {layout : Layout} {χ ε : Type} [Channel χ ε] : Coloured (Pixel layout χ) ε :=
  ⟨fun pixel => pixel.colour.map Channel.value⟩

instance {ε : Type} : Coloured (Rgb ε) ε := ⟨id⟩

end SeamCarving

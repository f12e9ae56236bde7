import SeamCarving.CommandLine.Bitmap.Fault
import SeamCarving.Pixel.Layout

/-!
# Colours within a number

A pixel may be stored as one number, each part of its colour in some bits of it that stand together. A part
of less than eight bits is stretched, so that its greatest value becomes 255; of a part of more than eight
bits the upper eight count.
-/

namespace SeamCarving.CommandLine.Bitmap

/-- Bits of a number that stand together. -/
structure Field where
  /-- The number of bits below them. -/
  shift : Nat
  /-- The number of these bits. -/
  length : Nat
  deriving DecidableEq

/-- The value in the bits, stretched to eight bits and rounded to the nearest. -/
def Field.read (field : Field) (number : Nat) : UInt8 :=
  let greatest := Nat.pow 2 field.length - 1
  let value := number / Nat.pow 2 field.shift % Nat.pow 2 field.length
  ((2 * 255 * value + greatest) / (2 * greatest)).toUInt8

/-- The bits of a number of 32 bits, the lowest first. -/
def maskBits (mask : Nat) : List Bool :=
  (List.range 32).map mask.testBit

/-- The field that a mask marks in a number of `width` bits; an empty mask marks none. -/
def maskField? (width mask : Nat) : Except Fault (Option Field) :=
  let shift := ((maskBits mask).takeWhile (!·)).length
  let marked := (maskBits mask).drop shift
  let length := (marked.takeWhile (·)).length
  if mask = 0 then .ok none
  else if (marked.drop length).any (·) then .error .scatteredMask
  else if width < shift + length then .error .wideMask
  else .ok (some ⟨shift + (length - 8), min length 8⟩)

/-- The fields that the masks of red, green, blue and alpha mark. Alpha is not read, and may be missing. -/
def maskFields (width : Nat) (masks : Rgb Nat) (alpha : Nat) : Except Fault (Rgb Field) := do
  let red? ← maskField? width masks.red
  let green? ← maskField? width masks.green
  let blue? ← maskField? width masks.blue
  let _ ← maskField? width alpha
  match red?, green?, blue? with
  | some red, some green, some blue => return ⟨red, green, blue⟩
  | _, _, _ => throw .emptyMask

/-- The fields of `length` bits for each part, blue in the lowest bits and red in the highest. -/
def evenFields (length : Nat) : Rgb Field :=
  ⟨⟨2 * length, length⟩, ⟨length, length⟩, ⟨0, length⟩⟩

end SeamCarving.CommandLine.Bitmap

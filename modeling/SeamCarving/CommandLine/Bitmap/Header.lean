import SeamCarving.CommandLine.Bitmap.Mask

/-!
# Headers of bitmap files

A bitmap file begins with a header of 14 bytes, which ends with the place where the pixels start. A second
header follows. Its size tells its kind: the short one has only the sizes of the picture and the number of
bits for each pixel; every longer one adds how the pixels are coded. After it come the masks or the palette
that the coding asks for. All numbers have their lowest byte first. The headers are read from front to back,
so that of two faults the earlier one is reported.
-/

namespace SeamCarving.CommandLine.Bitmap

/-- The number in `count` bytes from `offset`, the lowest byte first. -/
def number? (bytes : ByteArray) (offset : Nat) : (count : Nat) → Option Nat
  | 0 => some 0
  | count + 1 => do
      let low ← bytes[offset]?
      let high ← number? bytes (offset + 1) count
      return low.toNat + 256 * high

/-- The number in `count` bytes from `offset`, which have to be there. -/
def readNumber (bytes : ByteArray) (offset count : Nat) : Except Fault Nat :=
  match number? bytes offset count with
  | some number => .ok number
  | none => .error .tooShort

/-- How the pixels of a picture are coded. -/
inductive Coding where
  /-- Each pixel is a number of some bits, a place in the palette. -/
  | places (bits : Nat) (palette : Array (Rgb UInt8))
  /-- Each pixel is a number of some bytes, with the parts of its colour in the fields. -/
  | colours (size : Nat) (fields : Rgb Field)
  /-- Runs of places in the palette, of so many bits each. -/
  | runs (bits : Nat) (palette : Array (Rgb UInt8))

/-- What the headers say about the picture. -/
structure Header where
  width : Nat
  height : Nat
  /-- Whether the top row comes first. -/
  downwards : Bool
  /-- Where the pixels start. -/
  start : Nat
  coding : Coding

/-- The first two bytes of every bitmap. -/
def signature : Nat := 0x4d42

/-- The size of the short second header. -/
def shortHeaderSize : Nat := 12

/-- The sizes of the longer second headers. -/
def longHeaderSizes : List Nat := [40, 52, 56, 108, 124]

/-- The greatest width and height that are read. -/
def maxSize : Nat := 0xffff

/-- The colours of a palette, each in `entrySize` bytes, of which the first three are blue, green and red. -/
def readPalette (bytes : ByteArray) (offset entrySize count : Nat) : Except Fault (Array (Rgb UInt8)) :=
  (Array.range count).mapM fun place => do
    let number ← readNumber bytes (offset + entrySize * place) entrySize
    return (evenFields 8).map (·.read number)

/-- The palette of a picture that tells `used` colours apart, or as many as its bits allow if `used` is zero. -/
def readPaletteOf (bytes : ByteArray) (offset entrySize bits used : Nat) :
    Except Fault (Array (Rgb UInt8)) :=
  if Nat.pow 2 bits < used then .error (.longPalette used bits)
  else readPalette bytes offset entrySize (if used = 0 then Nat.pow 2 bits else used)

/-- The header of a file whose second header is short. -/
def readShortHeader (bytes : ByteArray) (start : Nat) : Except Fault Header := do
  let width ← readNumber bytes 18 2
  let height ← readNumber bytes 20 2
  if width = 0 ∨ height = 0 then throw .noPixels
  if (← readNumber bytes 22 2) ≠ 1 then throw .manyPlanes
  let bits ← readNumber bytes 24 2
  if bits = 24 then
    return ⟨width, height, false, start, .colours 3 (evenFields 8)⟩
  else if bits = 1 ∨ bits = 4 ∨ bits = 8 then
    return ⟨width, height, false, start, .places bits (← readPaletteOf bytes 26 3 bits 0)⟩
  else
    throw .shortHeaderBits

/-- The kinds of coding that a long header can name, before their masks or palette are read. -/
inductive CodingKind where
  | places
  | colours (fields : Rgb Field)
  | masks
  | runs

/-- The kind of coding with the given number, for pixels of so many bits. -/
def codingKind (number bits : Nat) : Except Fault CodingKind :=
  match number with
  | 0 =>
      if bits = 1 ∨ bits = 2 ∨ bits = 4 ∨ bits = 8 then .ok .places
      else if bits = 16 then .ok (.colours (evenFields 5))
      else if bits = 24 ∨ bits = 32 then .ok (.colours (evenFields 8))
      else .error (.plainBits bits)
  | 1 => if bits = 8 then .ok .runs else .error (.wrongBits "RLE8")
  | 2 => if bits = 4 then .ok .runs else .error (.wrongBits "RLE4")
  | 3 => if bits = 16 ∨ bits = 32 then .ok .masks else .error (.wrongBits "bitfields")
  | _ => .error .unknownCoding

/-- The masks that follow the part which all long headers share. Headers of 56 bytes and more have one for
    alpha, too. -/
def readMasks (bytes : ByteArray) (headerSize bits : Nat) : Except Fault (Rgb Field) := do
  let red ← readNumber bytes 54 4
  let green ← readNumber bytes 58 4
  let blue ← readNumber bytes 62 4
  let alpha ← if 56 ≤ headerSize then readNumber bytes 66 4 else pure 0
  maskFields bits ⟨red, green, blue⟩ alpha

/-- The header of a file whose second header is one of the longer ones. A height below zero says that the top
    row comes first. -/
def readLongHeader (bytes : ByteArray) (start headerSize : Nat) : Except Fault Header := do
  let width ← readNumber bytes 18 4
  let signedHeight ← readNumber bytes 22 4
  let downwards : Bool := UInt32.size / 2 ≤ signedHeight
  let height := if downwards then UInt32.size - signedHeight else signedHeight
  if UInt32.size / 2 ≤ width then throw .negativeWidth
  if maxSize < width ∨ (!downwards ∧ maxSize < height) then throw .tooLarge
  if height = UInt32.size / 2 then throw .lowestHeight
  if width = 0 ∨ height = 0 then throw .noPixels
  if (← readNumber bytes 26 2) ≠ 1 then throw .manyPlanes
  let bits ← readNumber bytes 28 2
  let number ← readNumber bytes 30 4
  if downwards ∧ number ≠ 0 ∧ number ≠ 3 then throw .downwardsCompressed
  let kind ← codingKind number bits
  let used ← readNumber bytes 46 4
  let _ ← readNumber bytes 50 4
  let headerEnd := 14 + headerSize
  let coding ← match kind with
    | .places => Coding.places bits <$> readPaletteOf bytes headerEnd 4 bits used
    | .colours fields => pure (.colours (bits / 8) fields)
    | .masks => Coding.colours (bits / 8) <$> readMasks bytes headerSize bits
    | .runs => Coding.runs bits <$> readPaletteOf bytes headerEnd 4 bits used
  return ⟨width, height, downwards, start, coding⟩

/-- The headers of a bitmap file. -/
def readHeader (bytes : ByteArray) : Except Fault Header := do
  if (← readNumber bytes 0 2) ≠ signature then throw .noSignature
  let start ← readNumber bytes 10 4
  let headerSize ← readNumber bytes 14 4
  if headerSize = shortHeaderSize then readShortHeader bytes start
  else if longHeaderSizes.contains headerSize then readLongHeader bytes start headerSize
  else throw .unknownHeader

end SeamCarving.CommandLine.Bitmap

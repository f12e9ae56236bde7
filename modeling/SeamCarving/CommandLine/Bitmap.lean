import SeamCarving.CommandLine.Bitmap.Header
import SeamCarving.CommandLine.Bitmap.RunLength
import SeamCarving.Image.Basic

/-!
# Bitmap files

Pictures as bitmap files. The rows of pixels begin with the bottom row unless the header says otherwise, and
each is filled up to a multiple of four bytes; a picture coded in runs has no such rows. What is written is
the plainest kind: three bytes for each pixel, blue before green before red.
-/

namespace SeamCarving.CommandLine.Bitmap

/-- The number of bytes of a row whose pixels have so many bits, filled up to a multiple of four. -/
def rowBytes (width bits : Nat) : Nat :=
  (width * bits + 31) / 32 * 4

/-- The number in so many bits after the first `skipped` bits of the bytes from `offset`. The upper bits of a
    byte come first, and no number goes on in the next byte. -/
def bitsAt (bytes : ByteArray) (offset skipped bits : Nat) : Nat :=
  let byte := (bytes[offset + skipped / 8]?.getD 0).toNat
  byte / Nat.pow 2 (8 - bits - skipped % 8) % Nat.pow 2 bits

/-- The picture whose pixel in column `x` of the line `line` of the file is `paint x line`. -/
def pictureOf (header : Header) (paint : (x line : Nat) → Rgb UInt8) : Image (Pixel .rgb UInt8) :=
  .ofFn header.width header.height fun x y _ _ =>
    .ofColour (paint x (if header.downwards then y else header.height - 1 - y))

/-- The picture in a bitmap file. -/
def decode (bytes : ByteArray) : Except Fault (Image (Pixel .rgb UInt8)) := do
  let header ← readHeader bytes
  let lineStart (bits line : Nat) := header.start + rowBytes header.width bits * line
  match header.coding with
  | .places bits palette =>
      if bytes.size < lineStart bits header.height then throw .tooShort
      return pictureOf header fun x line =>
        palette[bitsAt bytes (lineStart bits line) (x * bits) bits]?.getD Canvas.black
  | .colours size fields =>
      if bytes.size < lineStart (8 * size) header.height then throw .tooShort
      return pictureOf header fun x line =>
        let number := (number? bytes (lineStart (8 * size) line + size * x) size).getD 0
        fields.map (·.read number)
  | .runs bits palette =>
      let coded := (bytes.toList.drop header.start).map UInt8.toNat
      let rows ← fill header.width header.height bits palette .blank coded
      return pictureOf header fun x line => (rows[line]?.bind (·[x]?)).getD Canvas.black

/-- The lowest `count` bytes of a number, the lowest first. -/
def numberBytes (count value : Nat) : List UInt8 :=
  (List.range count).map fun place => (value / Nat.pow 256 place).toUInt8

/-- The header of a file with 24 bits for each pixel. -/
def header (width height : Nat) : List UInt8 :=
  let body := rowBytes width 24 * height
  numberBytes 2 signature ++ numberBytes 4 (54 + body) ++ numberBytes 4 0 ++ numberBytes 4 54 ++
    numberBytes 4 40 ++ numberBytes 4 width ++ numberBytes 4 height ++
    numberBytes 2 1 ++ numberBytes 2 24 ++ numberBytes 4 0 ++ numberBytes 4 body ++
    numberBytes 4 0 ++ numberBytes 4 0 ++ numberBytes 4 0 ++ numberBytes 4 0

/-- The bytes of a row, filled up. -/
def encodeRow (image : Image (Pixel .rgb UInt8)) (row : Nat) : List UInt8 :=
  let pixels := (List.range image.width).flatMap fun x =>
    match image.pixel? x row with
    | some pixel => [pixel.colour.blue, pixel.colour.green, pixel.colour.red]
    | none => []
  pixels ++ .replicate (rowBytes image.width 24 - pixels.length) 0

/-- The picture as a bitmap file. -/
def encode (image : Image (Pixel .rgb UInt8)) : ByteArray :=
  let rows := (List.range image.height).reverse.flatMap (encodeRow image)
  ⟨(header image.width image.height ++ rows).toArray⟩

end SeamCarving.CommandLine.Bitmap

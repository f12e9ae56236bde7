import SeamCarving.CommandLine.Complaint

/-!
# What may be wrong with a bitmap file
-/

namespace SeamCarving.CommandLine.Bitmap

/-- Why a bitmap file cannot be read. -/
inductive Fault where
  | tooShort
  | noSignature
  | unknownHeader
  | negativeWidth
  | tooLarge
  /-- The height is the lowest number of its kind, and cannot be turned around. -/
  | lowestHeight
  | noPixels
  | manyPlanes
  /-- A short header names a number of bits that it does not allow. -/
  | shortHeaderBits
  /-- A picture that begins with its top row is compressed. -/
  | downwardsCompressed
  /-- Pixels without a coding do not have this number of bits. -/
  | plainBits (bits : Nat)
  /-- The coding does not allow the number of bits for each pixel. -/
  | wrongBits (coding : String)
  | unknownCoding
  /-- The palette has more colours than the bits of a pixel can tell apart. -/
  | longPalette (colours bits : Nat)
  | scatteredMask
  | wideMask
  | emptyMask
  | fewRuns
  /-- The runs leave out most of a large picture. -/
  | sparseRuns
  deriving DecidableEq

/-- The sentence that tells a user what is wrong. -/
def Fault.message : Fault → String
  | tooShort => endsTooEarly
  | noSignature => malformed "BMP signature not found"
  | unknownHeader => notSupported "Unsupported Bitmap Header"
  | negativeWidth => malformed "Negative width"
  | tooLarge => malformed "Image too large"
  | lowestHeight => malformed "Invalid height"
  | noPixels => malformed "Image would require a buffer that is too large to be represented!"
  | manyPlanes => malformed "More than one plane"
  | shortHeaderBits => malformed "Invalid bit count"
  | downwardsCompressed => malformed "Invalid image type for top-down image."
  | plainBits bits => malformed s!"Invalid RGB bit count {bits}"
  | wrongBits coding => malformed s!"Invalid {coding} bit count"
  | unknownCoding => notSupported "Unsupported image type"
  | longPalette colours bits =>
      malformed s!"Palette size {colours} exceeds maximum size for BMP with bit count of {bits}"
  | scatteredMask => malformed "Non-contiguous bitfield mask"
  | wideMask => malformed "Invalid bitfield mask"
  | emptyMask => malformed "Missing bitfield mask"
  | fewRuns => malformed "Not enough RLE data"
  | sparseRuns => "The Image's dimensions are either too small or too large"

end SeamCarving.CommandLine.Bitmap

/-!
# Complaints about picture files

The wording shared by everything that may be wrong with a picture file.
-/

namespace SeamCarving.CommandLine

/-- The sentence about a file that breaks a rule of its format. -/
def malformed (what : String) : String :=
  s!"Format error: {what}"

/-- The sentence about something that pictures cannot be read from. -/
def notSupported (what : String) : String :=
  s!"The Decoder does not support the image format `{what}`"

/-- The sentence about a file that ends before all of it is read. -/
def endsTooEarly : String := "failed to fill whole buffer"

end SeamCarving.CommandLine

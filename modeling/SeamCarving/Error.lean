import SeamCarving.Text.Quoted

/-!
# Errors

Everything that can go wrong between a grid of values and a carved image, one constructor for each cause. The
sentence shown to a user, the short name of the cause and the record form used in reports are three functions
on the same type.
-/

namespace SeamCarving

/-- Why a picture, a seam or a grid could not be used. -/
inductive CarveError where
  /-- The pixel `(x, y)` lies outside an image of `width` by `height`. -/
  | outOfBounds (x y width height : Nat)
  /-- The seam does not fit the image that it is to be removed from. -/
  | malformedSeam (reason : String)
  /-- The image is too small for a seam to be found or removed. -/
  | degenerateImage (width height : Nat)
  /-- Carving only shrinks: the target exceeds the image on some axis. -/
  | upscale (width height newWidth newHeight : Nat)
  /-- The text names no rule for the left edge. -/
  | unknownLeftEdgeRule (text : String)
  /-- A grid of `width` by `height` cannot be filled with `length` values. -/
  | badDimensions (width height length : Nat)
  /-- A worker that computed energies did not finish. -/
  | workerPanic
  deriving DecidableEq, Inhabited

namespace CarveError

/-- The sentence that tells a user what went wrong. -/
def message : CarveError → String
  | outOfBounds x y width height =>
      s!"pixel ({x}, {y}) lies outside the {width}x{height} image"
  | malformedSeam reason => s!"malformed seam: {reason}"
  | degenerateImage width height => s!"a {width}x{height} image is too small to carve"
  | upscale width height newWidth newHeight =>
      s!"seamcarve cannot upscale an image: {width}x{height} to {newWidth}x{newHeight}"
  | unknownLeftEdgeRule text => s!"unknown left edge rule: {text}"
  | badDimensions width height length =>
      s!"{length} values cannot fill a {width}x{height} map"
  | workerPanic => "an energy worker thread panicked"

/-- The short name of the cause. -/
def name : CarveError → String
  | outOfBounds .. => "OutOfBounds"
  | malformedSeam .. => "MalformedSeam"
  | degenerateImage .. => "DegenerateImage"
  | upscale .. => "Upscale"
  | unknownLeftEdgeRule .. => "UnknownLeftEdgeRule"
  | badDimensions .. => "BadDimensions"
  | workerPanic => "WorkerPanic"

/-- The labelled details of an error, each with its value already written out, in the order in which a
    report lists them. The one error whose detail has no label is not described here. -/
def details : CarveError → List (String × String)
  | outOfBounds x y width height =>
      [("x", toString x), ("y", toString y), ("width", toString width), ("height", toString height)]
  | malformedSeam reason => [("reason", Text.quoted reason)]
  | degenerateImage width height => [("width", toString width), ("height", toString height)]
  | upscale width height newWidth newHeight =>
      [("width", toString width), ("height", toString height),
        ("new_width", toString newWidth), ("new_height", toString newHeight)]
  | badDimensions width height length =>
      [("width", toString width), ("height", toString height), ("len", toString length)]
  | unknownLeftEdgeRule _ | workerPanic => []

/-- The record form: the name of the cause followed by its details, between braces when they are labelled and
    between parentheses when they are not; a cause without details is its name alone. -/
def inspect (error : CarveError) : String :=
  match error, error.details with
  | unknownLeftEdgeRule text, _ => error.name ++ "(" ++ Text.quoted text ++ ")"
  | _, [] => error.name
  | _, details =>
      error.name ++ " \x7b " ++
        ", ".intercalate (details.map fun (label, value) => label ++ ": " ++ value) ++ " \x7d"

end CarveError

end SeamCarving

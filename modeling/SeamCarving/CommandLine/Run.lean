import SeamCarving.Carving.Carver
import SeamCarving.CommandLine.Arguments
import SeamCarving.CommandLine.Directory
import SeamCarving.CommandLine.Information
import SeamCarving.Energy.Shade

/-!
# A run of the command

A run opens the picture, writes its energies if they are wanted, reads the two sizes, carves the picture and
writes what is left of it. A step that fails ends the run; the files written and the lines logged before it
stay.
-/

namespace SeamCarving.CommandLine

/-- A line of the log. -/
structure LogLine where
  level : Level
  /-- The part of the command that speaks. -/
  source : String
  message : String
  deriving DecidableEq

/-- The line as it is printed. Where the message itself goes on to another line, that line is indented. -/
def LogLine.text (line : LogLine) : String :=
  s!"{line.level.label} {line.source}: " ++ "\n    ".intercalate (line.message.splitOn "\n")

/-- The part of the command that reports an event of a carving. -/
def eventSource : Event → String
  | .found .. => commandName ++ "::seamfinder"
  | .cut .. => commandName ++ "::seamcarver"

/-- An event of a carving as a line of the log. -/
def LogLine.ofEvent (event : Event) : LogLine :=
  ⟨event.level, eventSource event, event.message⟩

/-- Why a run fails. -/
inductive Failure where
  | carving (error : CarveError)
  | file (error : FileError)
  | size (text : String)
  deriving DecidableEq

/-- The sentence that tells a user what went wrong; one of them ends with an empty line. -/
def Failure.message : Failure → String
  | carving error => error.message
  | file error => error.message
  | size text => s!"error: Invalid value: The argument '{text}' isn't a valid value\n"

/-- The value of decimal digits. -/
def digitsValue (digits : List Char) : Nat :=
  digits.foldl (fun value digit => value * 10 + (digit.toNat - '0'.toNat)) 0

/-- A size in decimal digits, with or without a plus sign, that fits in 32 bits. -/
def parseSize? (text : String) : Option Nat :=
  let digits := match text.toList with
    | '+' :: rest => rest
    | all => all
  if !digits.isEmpty ∧ digits.all Char.isDigit ∧ digitsValue digits < UInt32.size then
    some (digitsValue digits)
  else
    none

/-- The directory and the log during a run. -/
structure World where
  directory : Directory
  log : List LogLine

/-- A part of a run: it may write files and log lines, and keeps both even if it fails. -/
abbrev Job := ExceptT Failure (StateM World)

namespace Job

/-- Adds lines to the log. -/
def log (lines : List LogLine) : Job Unit :=
  modify fun world => { world with log := world.log ++ lines }

/-- Adds a line of the command itself to the log. -/
def inform (message : String) : Job Unit :=
  log [⟨.info, commandName, message⟩]

/-- The picture at a path. -/
def openPicture (path : String) : Job Picture := do
  match (← get).directory.openPicture path with
  | .ok picture => return picture
  | .error error => throw (.file error)

/-- Writes a picture to a path. -/
def savePicture (path : String) (picture : Picture) : Job Unit := do
  let world ← get
  let (directory, outcome) := world.directory.savePicture path picture
  set { world with directory }
  match outcome with
  | .ok () => return
  | .error error => throw (.file error)

/-- A carving, its events logged whether it succeeds or not. -/
def carving {α : Type} (traced : Traced α) : Job α := do
  log (traced.events.map LogLine.ofEvent)
  match traced.outcome with
  | .ok result => return result
  | .error error => throw (.carving error)

/-- The size that is asked for, or the current one if none is. -/
def size (current : Nat) : Option String → Job Nat
  | none => return current
  | some text =>
      match parseSize? text with
      | some size => return size
      | none => throw (.size text)

/-- Writes the energies of an image as a picture, if a path for it is given. -/
def writeEnergies (image : Image (Pixel .rgb UInt8)) : Option String → Job Unit
  | none => return
  | some path => do
      savePicture path ⟨.luma, image.view.energyImage⟩
      inform s!"wrote energy map to {path}"

/-- Does what a request asks for. -/
def ofRequest (request : Request) : Job Unit := do
  let picture ← openPicture request.input
  let image := picture.toRgb
  inform s!"loaded {request.input} ({image.width}x{image.height})"
  writeEnergies image request.energyMap
  let width ← size image.width request.width
  let height ← size image.height request.height
  let carved ← carving (image.carve request.leftEdge width height)
  savePicture request.output ⟨.rgb, carved⟩
  inform s!"wrote {request.output} ({carved.width}x{carved.height})"

end Job

/-- What a run of the command leaves behind. -/
structure Outcome where
  exit : Nat
  output : List String
  errors : List String
  directory : Directory

/-- A line without the carriage return that it may end with. -/
def withoutReturn (line : String) : String :=
  match line.toList.reverse with
  | '\r' :: rest => String.ofList rest.reverse
  | _ => line

/-- The lines of a text. A line feed ends a line, and so does a carriage return together with a line feed. -/
def linesOf (text : String) : List String :=
  (text.splitOn "\n").map withoutReturn

/-- Whether a line of the log is wanted: only lines that deserve at least as much attention as `level`, and
    none if no level is set. -/
def LogLine.wanted (level : Option Level) (line : LogLine) : Bool :=
  level.any fun level => line.level.rank ≤ level.rank

/-- Runs the command with the given words after its name in a directory. -/
def execute (words : List String) (level : Option Level) (directory : Directory) : Outcome :=
  match readRequest words with
  | .error .help => ⟨0, helpLines, [], directory⟩
  | .error .version => ⟨0, [versionLine], [], directory⟩
  | .error (.refused error) => ⟨1, [], (linesOf error.message).take 1, directory⟩
  | .ok request =>
      let (result, world) := (Job.ofRequest request).run.run ⟨directory, []⟩
      let logged := (world.log.filter (LogLine.wanted level)).flatMap fun line => linesOf line.text
      match result with
      | .ok () => ⟨0, [], logged, world.directory⟩
      | .error failure =>
          ⟨1, [], logged ++ linesOf s!"{commandName}: {failure.message}", world.directory⟩

end SeamCarving.CommandLine

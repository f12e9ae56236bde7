import SeamCarving.CommandLine.Bitmap
import SeamCarving.CommandLine.Run

/-!
# The command

Carries the input file into a directory value, runs the command in it, prints what it says and writes the
files that it leaves behind. Only the files of the current directory are seen, and of the formats only
bitmaps have a codec. The variable `SEAMSHRINK_LOG` names the level of the log.
-/

namespace SeamCarving.CommandLine

/-- The level that a name stands for. -/
def levelNamed? (name : String) : Option Level :=
  [Level.warn, .info, .debug, .trace].find? fun level => level.label == name.toUpper

/-- The bytes of a file. -/
def bytesOfFile : File → ByteArray
  | .picture picture => Bitmap.encode picture.toRgb
  | .data bytes => bytes

/-- The first path of a request whose format has no codec. -/
def uncoded? (request : Request) : Option String :=
  ([request.input, request.output] ++ request.energyMap.toList).find? fun path =>
    Format.ofPath? path == some .png

/-- The directory with the one file that a request reads, if it exists. -/
def loadDirectory (request : Request) : IO Directory := do
  match (⟨[]⟩ : Directory).follow .reading request.input with
  | .ok (.file name) =>
      try
        return ⟨[(name, .data (← IO.FS.readBinFile name))]⟩
      catch _ =>
        return ⟨[]⟩
  | _ => return ⟨[]⟩

/-- Writes the files that are new or no longer hold what they held. -/
def storeDirectory (before after : Directory) : IO Unit :=
  after.entries.forM fun (name, file) => do
    let bytes := bytesOfFile file
    if (before.find? name).map (fun old => (bytesOfFile old).data) ≠ some bytes.data then
      IO.FS.writeBinFile name bytes

/-- Runs the command on real files. -/
def runCommand (words : List String) (level : Option Level) : IO UInt32 := do
  let request? := (readRequest words).toOption
  match request?.bind uncoded? with
  | some path =>
      IO.eprintln s!"{commandName}: no codec for the format of {path}"
      return 1
  | none =>
      let before ← match request? with
        | some request => loadDirectory request
        | none => pure ⟨[]⟩
      let outcome := execute words level before
      outcome.output.forM fun line => IO.println line
      outcome.errors.forM fun line => IO.eprintln line
      storeDirectory before outcome.directory
      return outcome.exit.toUInt32

end SeamCarving.CommandLine

open SeamCarving.CommandLine in
def main (words : List String) : IO UInt32 := do
  let level := (← IO.getEnv "SEAMSHRINK_LOG").bind levelNamed?
  runCommand words level

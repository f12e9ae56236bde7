/-!
# Paths

Where a path leads that starts in a directory of files. A path is followed step by step, so that the first
step that cannot be taken decides what is reported. The directory stands in the root of a system, of which
only a few directories and files are known; nothing can be added to them.
-/

namespace SeamCarving.CommandLine

/-- Why a path does not lead to a file. -/
inductive PathFault where
  | missing
  | notADirectory
  | isADirectory
  /-- The path or one of its steps is longer than a name may be. -/
  | tooLong
  deriving DecidableEq

/-- The sentence and the number by which the system reports the fault. -/
def PathFault.message : PathFault → String
  | missing => "No such file or directory (os error 2)"
  | notADirectory => "Not a directory (os error 20)"
  | isADirectory => "Is a directory (os error 21)"
  | tooLong => "File name too long (os error 36)"

/-- The number of bytes that a path may have. -/
def maxPathBytes : Nat := 4095

/-- The number of bytes that one step of a path may have. -/
def maxStepBytes : Nat := 255

/-- Directories of the system, each by the names that lead to it from the root. -/
def systemDirectories : List (List String) :=
  [["bin"], ["dev"], ["etc"], ["home"], ["lib"], ["proc"], ["sys"], ["tmp"], ["usr"], ["var"]]

/-- Files of the system, each by the names that lead to it from the root. None has an extension. -/
def systemFiles : List (List String) :=
  [["dev", "full"], ["dev", "null"], ["dev", "random"], ["dev", "urandom"], ["dev", "zero"], ["etc", "passwd"]]

/-- Where one stands while following a path. -/
inductive Spot where
  /-- In the directory of files. -/
  | inside
  /-- In a directory of the system, which the names lead to from the root. -/
  | outside (names : List String)
  deriving DecidableEq

/-- The directory that holds the one where one stands; the root holds itself. -/
def Spot.parent : Spot → Spot
  | inside => outside []
  | outside names => outside names.dropLast

/-- Where a path leads. -/
inductive Place where
  /-- To a file of the directory, which may or may not exist. -/
  | file (name : String)
  | systemFile
  | directory (spot : Spot)
  deriving DecidableEq

/-- Where a single step leads. -/
def Spot.step (spot : Spot) (name : String) : Except PathFault Place :=
  if name = "." then .ok (.directory spot)
  else if name = ".." then .ok (.directory spot.parent)
  else if maxStepBytes < name.utf8ByteSize then .error .tooLong
  else
    match spot with
    | inside => .ok (.file name)
    | outside names =>
        let names := names ++ [name]
        if systemDirectories.contains names then .ok (.directory (.outside names))
        else if systemFiles.contains names then .ok .systemFile
        else .error .missing

/-- Where one stands in a place that should be a directory, given which names the directory of files holds. -/
def Place.enter (holds : String → Bool) : Place → Except PathFault Spot
  | directory spot => .ok spot
  | systemFile => .error .notADirectory
  | file name => .error (if holds name then .notADirectory else .missing)

/-- What a path is followed for. -/
inductive Purpose where
  | reading
  | writing
  deriving DecidableEq

/-- Follows a path, given which names the directory of files holds. A slash at the end asks for a directory: a
    reader has to find one there, and a writer is told at once that a directory cannot be written. -/
def followPath (holds : String → Bool) (purpose : Purpose) (path : String) : Except PathFault Place :=
  let pieces := path.splitOn "/"
  let start := if pieces.head? = some "" then Spot.outside [] else .inside
  let steps := pieces.filter (· ≠ "")
  if path = "" then .error .missing
  else if maxPathBytes < path.utf8ByteSize then .error .tooLong
  else
    match steps.getLast? with
    | none => .ok (.directory start)
    | some last => do
        let spot ← steps.dropLast.foldlM (fun spot name => do (← spot.step name).enter holds) start
        if pieces.getLast? = some "" ∧ last ≠ "." ∧ last ≠ ".." then
          match purpose with
          | .writing => .error .isADirectory
          | .reading => return .directory (← (← spot.step last).enter holds)
        else spot.step last

/-- What follows the last full stop of a name, unless the name has no other than a leading one. -/
def extension? (name : String) : Option String :=
  if name = ".." then none
  else
    let backwards := name.toList.reverse
    match backwards.dropWhile (· != '.') with
    | _ :: _ :: _ => some (String.ofList (backwards.takeWhile (· != '.')).reverse)
    | _ => none

/-- The extension of the last step of a path; a step that stays where it is does not count. -/
def pathExtension? (path : String) : Option String :=
  ((path.splitOn "/").filter fun step => step ≠ "" ∧ step ≠ ".").getLast?.bind extension?

end SeamCarving.CommandLine

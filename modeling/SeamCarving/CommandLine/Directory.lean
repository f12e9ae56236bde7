import SeamCarving.CommandLine.Bitmap
import SeamCarving.CommandLine.Path
import SeamCarving.Image.Basic
import SeamCarving.Pixel.Layout
import SeamCarving.Text.Quoted

/-!
# The directory that the command works in

A directory holds files by name, and has no directories of its own. What a file holds matters only in that it
is a picture or is not: picture files are lossless, so that a picture is read back from the file that it was
written to.
-/

namespace SeamCarving.CommandLine

/-- A picture with channels of eight bits. -/
structure Picture where
  /-- Which channels its pixels have. -/
  layout : Layout
  /-- The pixels. -/
  image : Image (Pixel layout UInt8)

/-- The same picture without alpha, each pixel with its three colours. -/
def Picture.toRgb (picture : Picture) : Image (Pixel .rgb UInt8) :=
  picture.image.map Pixel.toRgb

/-- What a file holds. -/
inductive File where
  | picture (picture : Picture)
  | data (bytes : ByteArray)

/-- The formats of picture files. -/
inductive Format where
  | png
  | bmp
  deriving DecidableEq

/-- The format that an extension stands for, in letters of either case. -/
def Format.ofExtension? (extension : String) : Option Format :=
  if extension.toLower = "png" then some .png
  else if extension.toLower = "bmp" then some .bmp
  else none

/-- The format of the file at a path, by its extension. -/
def Format.ofPath? (path : String) : Option Format :=
  (pathExtension? path).bind Format.ofExtension?

/-- The picture that is read back from a file of the format. A bitmap shows its shades of grey by colours. -/
def Format.kept : Format → Picture → Picture
  | .png, picture => picture
  | .bmp, picture => ⟨.rgb, picture.toRgb⟩

/-- The picture in bytes of the format, or what is wrong with them. Bytes that begin as a file with the first
    extension does are not looked into: such files are held as pictures. -/
def Format.decode (format : Format) (bytes : ByteArray) : Except String Picture :=
  match format with
  | .png => .error (malformed (if bytes.size < 8 then "unexpected EOF" else "invalid signature"))
  | .bmp =>
      match Bitmap.decode bytes with
      | .ok image => .ok ⟨.rgb, image⟩
      | .error fault => .error fault.message

/-- The file of the format that a picture is written to. -/
def File.ofPicture (format : Format) (picture : Picture) : File :=
  .picture (format.kept picture)

/-- The picture that a file of the format holds, or what is wrong with it. -/
def File.read (format : Format) : File → Except String Picture
  | picture held => .ok held
  | data bytes => format.decode bytes

/-- Why a picture could not be read or written. -/
inductive FileError where
  /-- The path leads nowhere. -/
  | path (fault : PathFault)
  /-- A file with this extension, or with none, cannot be read as a picture. -/
  | unreadable (extension : Option String)
  /-- A picture cannot be written to a file with this extension. -/
  | unwritable (extension : String)
  /-- The file is not what its extension says. -/
  | undecodable (complaint : String)
  deriving DecidableEq

/-- The sentence that tells a user what went wrong. -/
def FileError.message : FileError → String
  | path fault => fault.message
  | unreadable none => notSupported "Image format could not be recognized: no extension present"
  | unreadable (some extension) => notSupported s!"Image format image/{extension} is not recognized."
  | unwritable extension =>
      "Unsupported image format image/" ++ Text.quoted extension
  | undecodable complaint => complaint

/-- Files by name, each name once. -/
structure Directory where
  entries : List (String × File)

namespace Directory

/-- The file of the given name. -/
def find? (directory : Directory) (name : String) : Option File :=
  directory.entries.lookup name

/-- The entries with a new file in the place of the one of its name, or at the end. -/
def placed (name : String) (file : File) : List (String × File) → List (String × File)
  | [] => [(name, file)]
  | entry :: rest =>
      if entry.1 = name then (name, file) :: rest else entry :: placed name file rest

/-- The directory with a file written to the given name. -/
def insert (directory : Directory) (name : String) (file : File) : Directory :=
  ⟨placed name file directory.entries⟩

/-- Where a path leads that starts in the directory. -/
def follow (directory : Directory) (purpose : Purpose) (path : String) : Except PathFault Place :=
  followPath (fun name => (directory.find? name).isSome) purpose path

/-- The picture in the file at a path. The file has to exist before its extension is looked at. -/
def openPicture (directory : Directory) (path : String) : Except FileError Picture :=
  let unreadable := Except.error (.unreadable (pathExtension? path))
  match directory.follow .reading path with
  | .error fault => .error (.path fault)
  | .ok (.directory _) | .ok .systemFile => unreadable
  | .ok (.file name) =>
      match directory.find? name, Format.ofPath? path with
      | none, _ => .error (.path .missing)
      | some _, none => unreadable
      | some file, some format =>
          match file.read format with
          | .ok picture => .ok picture
          | .error complaint => .error (.undecodable complaint)

/-- Writes a picture to the file at a path. The file is made before its extension is looked at, so that an
    empty file remains where the extension stands for no format. -/
def savePicture (directory : Directory) (path : String) (picture : Picture) :
    Directory × Except FileError Unit :=
  let unwritable := Except.error (.unwritable ((pathExtension? path).getD "").toLower)
  match directory.follow .writing path with
  | .error fault => (directory, .error (.path fault))
  | .ok (.directory _) => (directory, .error (.path .isADirectory))
  | .ok .systemFile => (directory, unwritable)
  | .ok (.file name) =>
      match Format.ofPath? path with
      | some format => (directory.insert name (.ofPicture format picture), .ok ())
      | none => (directory.insert name (.data .empty), unwritable)

end Directory

end SeamCarving.CommandLine

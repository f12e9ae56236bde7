import SeamCarving.CommandLine.Bitmap.Fault
import SeamCarving.Pixel.Layout

/-!
# Runs of pixels

A picture may be coded as a row of instructions, which fill its rows from left to right, one row after the
other. An instruction gives one place in the palette for a run of pixels, or a place for each of some pixels,
or ends the row or the picture, or moves on. A run that does not fit into its row is cut off, and the next row
begins; places that do not fit end the picture.
-/

namespace SeamCarving.CommandLine.Bitmap

/-- What to do next in the filling of a picture. -/
inductive Instruction where
  /-- Nothing follows. -/
  | endOfPicture
  /-- The row is finished. -/
  | endOfRow
  /-- Pixels and rows are left out. -/
  | move (right down : Nat)
  /-- A place in the palette for each pixel. -/
  | single (places : List Nat)
  /-- A run of pixels, of one place or of two that take turns. -/
  | run (places : List Nat)

/-- The places in a byte: one of eight bits, or two of four bits. -/
def bytePlaces (bits byte : Nat) : List Nat :=
  if bits = 4 then [byte / 16, byte % 16] else [byte]

theorem length_lt_cons_cons (first second : Nat) (rest : List Nat) :
    rest.length < (first :: second :: rest).length :=
  Nat.lt_add_of_pos_right (Nat.zero_lt_two)

/-- The next instruction and what follows it; absent if the bytes end before. -/
def instruction? (bits : Nat) :
    (bytes : List Nat) → Option (Instruction × { rest : List Nat // rest.length < bytes.length })
  | 0 :: 0 :: rest => some (.endOfRow, ⟨rest, length_lt_cons_cons 0 0 rest⟩)
  | 0 :: 1 :: rest => some (.endOfPicture, ⟨rest, length_lt_cons_cons 0 1 rest⟩)
  | 0 :: 2 :: right :: down :: rest =>
      some (.move right down,
        ⟨rest, Nat.lt_trans (length_lt_cons_cons right down rest) (length_lt_cons_cons 0 2 _)⟩)
  | 0 :: 2 :: _ => none
  | 0 :: count :: rest =>
      let filled := if bits = 4 then (count + 1) / 2 else count
      let size := filled + filled % 2
      if size ≤ rest.length then
        some (.single (((rest.take size).flatMap (bytePlaces bits)).take count),
          ⟨rest.drop size,
            Nat.lt_of_le_of_lt (List.drop_sublist size rest).length_le (length_lt_cons_cons 0 count rest)⟩)
      else none
  | count :: byte :: rest =>
      let turns := (List.replicate count byte).flatMap (bytePlaces bits)
      some (.run (turns.take count), ⟨rest, length_lt_cons_cons count byte rest⟩)
  | _ => none

/-- A picture that is being filled. -/
structure Canvas where
  /-- The finished rows. -/
  rows : Array (Array (Rgb UInt8))
  /-- The beginning of the next row. -/
  row : Array (Rgb UInt8)
  /-- The number of rows after it that are left out. -/
  leftOut : Nat

namespace Canvas

/-- The colour of pixels that are left out. -/
def black : Rgb UInt8 := ⟨0, 0, 0⟩

/-- The colour of pixels that are not reached. -/
def white : Rgb UInt8 := ⟨255, 255, 255⟩

/-- Nothing is filled yet. -/
def blank : Canvas := ⟨#[], #[], 0⟩

/-- The number of rows that are still to come after the present one. -/
def rowsLeft (canvas : Canvas) (height : Nat) : Nat :=
  height - (canvas.rows.size + 1 + canvas.leftOut)

/-- The row with pixels of one colour up to its end. -/
def padded (canvas : Canvas) (width : Nat) (colour : Rgb UInt8) : Array (Rgb UInt8) :=
  canvas.row ++ Array.replicate (width - canvas.row.size) colour

/-- Finishes the row with pixels of one colour and goes on to the next one. -/
def finishRow (canvas : Canvas) (width : Nat) (colour : Rgb UInt8) : Canvas :=
  ⟨canvas.rows.push (canvas.padded width colour) ++
    Array.replicate canvas.leftOut (Array.replicate width black), #[], 0⟩

/-- Adds pixels to the row, as far as there is room for them. -/
def add (canvas : Canvas) (width : Nat) (colours : List (Rgb UInt8)) : Canvas :=
  { canvas with row := canvas.row ++ (colours.take (width - canvas.row.size)).toArray }

/-- Whether there is room for so many pixels in the row. -/
def hasRoom (canvas : Canvas) (width count : Nat) : Bool :=
  canvas.row.size + count ≤ width

end Canvas

/-- The number of pixels above which a picture has to have all its rows filled. -/
def maxSparsePixels : Nat := 8192 * 4096

/-- The rows of a picture whose filling ends early: the rest gets one colour. -/
def endEarly (width height : Nat) (canvas : Canvas) (colour : Rgb UInt8) :
    Except Fault (Array (Array (Rgb UInt8))) :=
  if maxSparsePixels / width + 1 < height then .error .sparseRuns
  else
    let left := canvas.rowsLeft height
    .ok ((canvas.finishRow width colour).rows ++ Array.replicate left (Array.replicate width colour))

/-- Fills a picture by instructions. It is done as soon as no row is left. -/
def fill (width height bits : Nat) (palette : Array (Rgb UInt8)) (canvas : Canvas) (bytes : List Nat) :
    Except Fault (Array (Array (Rgb UInt8))) :=
  let colours := List.map fun place => palette[place]?.getD Canvas.black
  if height ≤ canvas.rows.size then .ok canvas.rows
  else
    match instruction? bits bytes with
    | none => .error .fewRuns
    | some (.endOfPicture, _) => endEarly width height canvas Canvas.black
    | some (.endOfRow, ⟨rest, _⟩) =>
        fill width height bits palette (canvas.finishRow width Canvas.black) rest
    | some (.move right down, ⟨rest, _⟩) =>
        let left := canvas.rowsLeft height
        if left < down - 1 then
          endEarly width height { canvas with leftOut := canvas.leftOut + left } Canvas.white
        else
          let moved := { canvas with leftOut := canvas.leftOut + (down - 1) }
          fill width height bits palette (moved.add width (List.replicate right Canvas.black)) rest
    | some (.single places, ⟨rest, _⟩) =>
        let added := canvas.add width (colours places)
        if canvas.hasRoom width places.length then fill width height bits palette added rest
        else endEarly width height added Canvas.white
    | some (.run places, ⟨rest, _⟩) =>
        let added := canvas.add width (colours places)
        if canvas.hasRoom width places.length then fill width height bits palette added rest
        else fill width height bits palette (added.finishRow width Canvas.black) rest
  termination_by bytes.length

end SeamCarving.CommandLine.Bitmap

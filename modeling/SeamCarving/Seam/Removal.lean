import SeamCarving.Image.View
import SeamCarving.Seam.Search

/-!
# Removing a seam

A vertical seam has one entry for each row and takes one pixel out of every row; a horizontal seam does the
same to the columns. A seam is checked in full before anything is removed: it has to have an entry for each
line, every entry has to lie within its line, and the entries of neighbouring lines may differ by one at
most. The first offence, in this order, is reported.
-/

namespace SeamCarving

/-- The direction in which a seam runs. -/
inductive Axis where
  /-- From top to bottom: one column for each row. -/
  | vertical
  /-- From left to right: one row for each column. -/
  | horizontal
  deriving DecidableEq

/-- What is wrong with a seam. -/
inductive Malformation where
  /-- The seam has `entries` entries for `lines` lines. -/
  | entryCount (entries lines : Nat)
  /-- The entry at `line` lies outside a line of `length` pixels. -/
  | outside (entry line length : Nat)
  /-- The entries at `line` and at the line after it are too far apart. -/
  | jump (here next line : Nat)
  deriving DecidableEq

/-- The offence in words. -/
def Malformation.reason : Malformation → String
  | entryCount entries lines => s!"{entries} entries for {lines} lines"
  | outside entry line length => s!"index {entry} at line {line} is outside 0..{length}"
  | jump here next line =>
      s!"jumps from {here} to {next} between lines {line} and {line + 1}"

namespace Seam

/-- The first entry that lies outside lines of `length` pixels, where `line` numbers the first entry. -/
def outside? (length : Nat) (line : Nat) : Seam → Option Malformation
  | [] => none
  | entry :: rest =>
      if length ≤ entry then some (.outside entry line length) else outside? length (line + 1) rest

/-- The first pair of neighbouring entries that differ by more than one, where `line` numbers the first
    entry. -/
def jump? (line : Nat) : Seam → Option Malformation
  | here :: next :: rest =>
      if here + 1 < next ∨ next + 1 < here then some (.jump here next line)
      else jump? (line + 1) (next :: rest)
  | _ => none

/-- The first reason why a seam does not fit `lines` lines of `length` pixels. -/
def malformation? (seam : Seam) (lines length : Nat) : Option Malformation :=
  if seam.length ≠ lines then some (.entryCount seam.length lines)
  else (outside? length 0 seam).or (jump? 0 seam)

theorem length_eq_of_malformation?_eq_none {seam : Seam} {lines length : Nat}
    (sound : seam.malformation? lines length = none) : seam.length = lines := by
  unfold malformation? at sound
  split at sound
  · contradiction
  · next equal => exact Decidable.of_not_not equal

end Seam

/-- Where a pixel stood before the entry `gap` was taken out of its line. -/
def skip (gap place : Nat) : Nat :=
  if place < gap then place else place + 1

theorem skip_lt {gap place length : Nat} (within : place < length - 1) : skip gap place < length := by
  unfold skip
  split <;> omega

namespace View

variable {π : Type}

/-- The image that is left when each row gives up the column that the seam names. -/
def removeVertical (view : View π) (seam : Seam) : Except CarveError (Image π) :=
  if view.width < 2 then
    .error (.degenerateImage view.width view.height)
  else
    match checked : seam.malformation? view.height view.width with
    | some malformation => .error (.malformedSeam malformation.reason)
    | none =>
        let gaps := seam.toArray
        have one_per_row : gaps.size = view.height := by
          simpa [gaps] using Seam.length_eq_of_malformation?_eq_none checked
        .ok <| .ofFn (view.width - 1) view.height fun x y hx hy =>
          view.pixel (skip gaps[y] x) y (skip_lt hx) hy

/-- The image that is left when each column gives up the row that the seam names. -/
def removeHorizontal (view : View π) (seam : Seam) : Except CarveError (Image π) :=
  if view.height < 2 then
    .error (.degenerateImage view.width view.height)
  else
    match checked : seam.malformation? view.width view.height with
    | some malformation => .error (.malformedSeam malformation.reason)
    | none =>
        let gaps := seam.toArray
        have one_per_column : gaps.size = view.width := by
          simpa [gaps] using Seam.length_eq_of_malformation?_eq_none checked
        .ok <| .ofFn view.width (view.height - 1) fun x y hx hy =>
          view.pixel x (skip gaps[x] y) hx (skip_lt hy)

/-- The image that is left when a seam that runs along `axis` is taken out. -/
def removeSeam (view : View π) : Axis → Seam → Except CarveError (Image π)
  | .vertical => view.removeVertical
  | .horizontal => view.removeHorizontal

end View

end SeamCarving

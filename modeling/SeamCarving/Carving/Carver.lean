import SeamCarving.Carving.Schedule
import SeamCarving.Energy.Basic

/-!
# Carving

A seam of a picture is found in the energies of a view of it; a seam that runs from left to right is found in
the transposed view. A carving makes the cuts of a schedule, each with the seam of the image as the cuts
before it have left it. A carver holds an image and a rule, and changes its image only when an operation has
succeeded as a whole.
-/

namespace SeamCarving

variable {π ε : Type} [Coloured π ε] [Add ε] [Sub ε] [Mul ε] [NatCast ε] [LT ε] [DecidableLT ε]

/-- The view in which seams along `axis` run from top to bottom. -/
def View.along {π : Type} (view : View π) : Axis → View π
  | .vertical => view
  | .horizontal => view.transpose

/-- The seam along `axis` through the view. -/
def View.findSeam (view : View π) (rule : LeftEdgeRule) (axis : Axis) : Traced Seam := do
  let seam ← .ofExcept ((view.along axis).energy.seam rule)
  Traced.report (.found axis seam)
  return seam

/-- Takes the seam along `axis` out of the image. -/
def Image.cut (image : Image π) (rule : LeftEdgeRule) (axis : Axis) : Traced (Image π) := do
  let seam ← image.view.findSeam rule axis
  .ofExcept (image.view.removeSeam axis seam)

/-- One step of a planned carving: makes the cut and reports the size that it leaves. -/
def Image.step (rule : LeftEdgeRule) (image : Image π) (cut : Cut) : Traced (Image π) := do
  let smaller ← image.cut rule cut.axis
  Traced.report (.cut cut.phase smaller.width smaller.height)
  return smaller

/-- Makes the cuts of the schedule, one after another. A cut that fails is the last. -/
def Image.cutAll (rule : LeftEdgeRule) (image : Image π) (schedule : Schedule) : Traced (Image π) :=
  match _present : schedule.next? with
  | none => pure image
  | some (cut, rest) => do
      let smaller ← image.step rule cut
      smaller.cutAll rule rest
termination_by schedule.size
decreasing_by simp [Schedule.size_eq_of_next? _present]

/-- The cuts of a schedule are made as if its whole list were there from the start. -/
theorem Image.cutAll_eq_foldlM (rule : LeftEdgeRule) (image : Image π) (schedule : Schedule) :
    image.cutAll rule schedule = schedule.toList.foldlM (Image.step rule) image := by
  fun_induction Image.cutAll rule image schedule with
  | case1 image schedule absent => simp [Schedule.toList_eq_nil absent]
  | case2 image schedule cut rest present ih =>
    simp [Schedule.toList_eq_cons present, ih]

/-- The image carved down to the given size. -/
def Image.carve (image : Image π) (rule : LeftEdgeRule) (width height : Nat) : Traced (Image π) :=
  if image.width < width ∨ image.height < height then
    .fail (.upscale image.width image.height width height)
  else
    image.cutAll rule { columns := image.width - width, rows := image.height - height }

/-- A copy of what the view shows, carved down to the given size with the usual rule for the left edge. -/
def View.carve (view : View π) (width height : Nat) : Traced (Image π) :=
  view.toImage.carve default width height

/-- An image that is being carved, and the rule for the left edge of its cost tables. -/
structure Carver (π : Type) where
  image : Image π
  rule : LeftEdgeRule

namespace Carver

/-- What a carver can be asked to do. -/
inductive Command where
  /-- Find the seam along an axis. -/
  | find (axis : Axis)
  /-- Remove a seam along an axis: the given one, or else the one that is found. -/
  | remove (axis : Axis) (seam : Option Seam)
  /-- Carve the image down to a size. -/
  | carve (width height : Nat)

/-- What an operation that succeeds comes to. -/
structure Result (π : Type) where
  /-- The image that the carver holds afterwards. -/
  image : Image π
  /-- The seam, if the operation was to find one. -/
  seam : Option Seam

/-- The course of an operation on the carver's image. -/
def course (carver : Carver π) : Command → Traced (Result π)
  | .find axis => do
      let seam ← carver.image.view.findSeam carver.rule axis
      return ⟨carver.image, some seam⟩
  | .remove axis (some seam) => do
      let image ← .ofExcept (carver.image.view.removeSeam axis seam)
      return ⟨image, none⟩
  | .remove axis none => do
      let image ← carver.image.cut carver.rule axis
      return ⟨image, none⟩
  | .carve width height => do
      let image ← carver.image.carve carver.rule width height
      return ⟨image, none⟩

/-- The carver after an operation: it holds the image that the operation came to, or the one it had. -/
def perform (carver : Carver π) (command : Command) : Carver π :=
  match (carver.course command).outcome with
  | .ok result => { carver with image := result.image }
  | .error _ => carver

/-- The carver after all the operations, one after another. -/
def performAll (carver : Carver π) (commands : List Command) : Carver π :=
  commands.foldl perform carver

end Carver

end SeamCarving

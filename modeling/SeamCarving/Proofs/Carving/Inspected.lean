import SeamCarving.Proofs.Carving.Cone
import SeamCarving.Proofs.Image.Inspection

/-!
# What a view is asked for

The operations on a view, written as inspections: they are given the sizes of the view and see of its pixels only
those that they ask for, and a place past the edge of the view would be answered from the image underneath without
a complaint. Each of them asks for places of the view only and comes to what the operation answers. So an operation
cannot tell a view from a copy of what the view shows, and what the image underneath holds outside of the view has
no part in any answer (`answers_as_copy`).
-/

namespace SeamCarving

variable {π : Type}

namespace Inspection

/-- The inspection stays within the view, and comes to the result there. -/
structure Finds {α : Type} (inspection : Inspection π α) (view : View π) (result : α) : Prop where
  within : inspection.Within view.width view.height
  answer?_eq : inspection.answer? view = some result

theorem Finds.map {α β : Type} {inspection : Inspection π α} {view : View π} {result : α}
    (finds : inspection.Finds view result) (f : α → β) : (f <$> inspection).Finds view (f result) := by
  refine ⟨finds.within.map f, ?_⟩
  rw [answer?_map, finds.answer?_eq]
  rfl

theorem Finds.along_horizontal {α : Type} {inspection : Inspection π α} {view : View π} {result : α}
    (finds : inspection.Finds view.transpose result) : (inspection.along .horizontal).Finds view result := by
  have within := finds.within
  rw [View.width_transpose, View.height_transpose] at within
  refine ⟨within.along_horizontal, ?_⟩
  rw [answer?_along]
  exact finds.answer?_eq

/-- An image is found by finding each of its pixels. -/
theorem Finds.image {ρ : Type} {view : View π} (image : Image ρ) {paint : Nat → Nat → Inspection π ρ}
    (finds : ∀ x y hx hy, (paint x y).Finds view (image.pixel x y hx hy)) :
    (Image.ofFnM image.width image.height paint).Finds view image := by
  refine ⟨.ofFnM ?_, answer?_ofFnM ?_⟩
  · intro x y hx hy
    exact (finds x y hx hy).within
  · intro x y hx hy
    exact (finds x y hx hy).answer?_eq

theorem finds_look {view : View π} {x y : Nat} (hx : x < view.width) (hy : y < view.height) :
    (look x y).Finds view (view.pixel x y hx hy) :=
  ⟨.look hx hy, answer?_look hx hy⟩

theorem finds_look_of_pixel? {view : View π} {x y : Nat} {pixel : π} (hx : x < view.width)
    (hy : y < view.height) (shown : view.pixel? x y = some pixel) : (look x y).Finds view pixel := by
  rw [view.pixel?_eq_some hx hy, Option.some.injEq] at shown
  exact shown ▸ finds_look hx hy

section

variable {ε : Type} [Coloured π ε] [Add ε] [Sub ε] [Mul ε] [NatCast ε]

/-- The energy at a place of a picture of the given size. Nothing is looked at for a place on the border, and else
    the four pixels around it. -/
def pixelEnergy (width height x y : Nat) : Inspection π (Except CarveError ε) :=
  if width ≤ x ∨ height ≤ y then
    return .error (.outOfBounds x y width height)
  else if x = 0 ∨ y = 0 ∨ width ≤ x + 1 ∨ height ≤ y + 1 then
    return .ok borderEnergy
  else do
    let left ← look (x - 1) y
    let right ← look (x + 1) y
    let above ← look x (y - 1)
    let below ← look x (y + 1)
    return .ok ((Coloured.colour left).squaredDistance (Coloured.colour right) +
      (Coloured.colour above).squaredDistance (Coloured.colour below))

/-- The energies of a picture of the given size, from the colours of all its pixels. -/
def energy (width height : Nat) : Inspection π (Grid ε) :=
  (fun colours : Image (Rgb ε) => colours.view.energy) <$>
    Image.ofFnM width height fun x y => Coloured.colour <$> look x y

theorem finds_pixelEnergy (view : View π) (x y : Nat) :
    (pixelEnergy view.width view.height x y).Finds view (view.pixelEnergy x y) := by
  unfold pixelEnergy View.pixelEnergy energyAt
  by_cases inside : x < view.width ∧ y < view.height
  · rw [if_neg (by omega), if_pos inside]
    by_cases inner : (0 < x ∧ x + 1 < view.width) ∧ (0 < y ∧ y + 1 < view.height)
    · rw [if_neg (by omega), dif_pos inner]
      have left : (look (x - 1) y).Finds view _ := finds_look (by omega) (by omega)
      have right : (look (x + 1) y).Finds view _ := finds_look (by omega) (by omega)
      have above : (look x (y - 1)).Finds view _ := finds_look (by omega) (by omega)
      have below : (look x (y + 1)).Finds view _ := finds_look (by omega) (by omega)
      constructor
      · exact left.within.bind fun _ => right.within.bind fun _ => above.within.bind fun _ =>
          below.within.bind fun _ => .pure _
      · simp only [answer?_bind, left.answer?_eq, right.answer?_eq, above.answer?_eq, below.answer?_eq,
          Option.bind_some, answer?_pure]
    · rw [if_pos (by omega), dif_neg inner]
      exact ⟨.pure _, rfl⟩
  · rw [if_pos (by omega), if_neg inside]
    exact ⟨.pure _, rfl⟩

end

end Inspection

section

variable {ε : Type}

@[simp] theorem Image.colours_view (image : Image (Rgb ε)) : image.view.colours = image := by
  refine Image.ext_pixel rfl rfl ?_
  intro x y hx hy
  exact (image.view.pixel_colours hx hy).trans (image.pixel_view hx hy)

/-- Energies depend on the colours alone. -/
theorem View.energy_colours [Coloured π ε] [Add ε] [Sub ε] [Mul ε] [NatCast ε] (view : View π) :
    (view.colours : Image (Rgb ε)).view.energy = view.energy := by
  rw [View.energy, Image.colours_view]
  rfl

end

namespace Inspection

variable {ε : Type} [Coloured π ε] [Add ε] [Sub ε] [Mul ε] [NatCast ε]

theorem finds_energy (view : View π) : (energy view.width view.height).Finds view view.energy := by
  have colours : (Image.ofFnM view.width view.height fun x y => Coloured.colour <$> look x y).Finds view
      view.colours := by
    refine Finds.image view.colours ?_
    intro x y hx hy
    exact (view.pixel_colours hx hy).symm ▸ (finds_look hx hy).map Coloured.colour
  have energies := colours.map fun colours : Image (Rgb ε) => colours.view.energy
  rw [view.energy_colours] at energies
  exact energies

variable [LT ε] [DecidableLT ε]

/-- The seam along an axis of a picture of the given size. -/
def findSeam (width height : Nat) (rule : LeftEdgeRule) (axis : Axis) : Inspection π (Traced Seam) :=
  let search (energies : Grid ε) : Traced Seam := do
    let seam ← .ofExcept (energies.seam rule)
    Traced.report (.found axis seam)
    return seam
  match axis with
  | .vertical => search <$> energy width height
  | .horizontal => search <$> (energy height width).along .horizontal

theorem finds_findSeam (view : View π) (rule : LeftEdgeRule) (axis : Axis) :
    (findSeam view.width view.height rule axis).Finds view (view.findSeam rule axis) := by
  cases axis with
  | vertical => exact (finds_energy view).map _
  | horizontal =>
      have turned := finds_energy view.transpose
      rw [View.width_transpose, View.height_transpose] at turned
      exact turned.along_horizontal.map _

end Inspection

namespace Inspection

/-- Goes on to what is left without the seam, once the seam has been checked. -/
def checked (width height lines length : Nat) (seam : Seam) (left : Inspection π (Image π)) :
    Inspection π (Except CarveError (Image π)) :=
  if length < 2 then
    return .error (.degenerateImage width height)
  else
    match seam.malformation? lines length with
    | some malformation => return .error (.malformedSeam malformation.reason)
    | none => .ok <$> left

/-- The picture of the given size without a seam along an axis. -/
def removeSeam (width height : Nat) (axis : Axis) (seam : Seam) :
    Inspection π (Except CarveError (Image π)) :=
  match axis with
  | .vertical =>
      checked width height height width seam <|
        Image.ofFnM (width - 1) height fun x y => look (skip (seam.getD y 0) x) y
  | .horizontal =>
      checked width height width height seam <|
        Image.ofFnM width (height - 1) fun x y => look x (skip (seam.getD x 0) y)

section

variable {view : View π} {axis : Axis} {seam : Seam} {image : Image π}

/-- The check refuses what a removal refuses. -/
theorem finds_checked (view : View π) (axis : Axis) (seam : Seam) {left : Inspection π (Image π)}
    (finds : ∀ image, view.Removed axis seam image →
      seam.Fits (view.along axis).height (view.along axis).width → left.Finds view image) :
    (checked view.width view.height (view.along axis).height (view.along axis).width seam left).Finds view
      (view.removeSeam axis seam) := by
  unfold checked
  rcases view.removeSeam_cases axis seam with narrow | ⟨malformation, wide, found⟩ |
    ⟨image, wide, fits, succeeded, removed⟩
  · rw [if_pos narrow, View.removeSeam_of_narrow narrow]
    exact ⟨.pure _, rfl⟩
  · rw [if_neg (Nat.not_lt_of_le wide), View.removeSeam_of_malformed wide found, found]
    exact ⟨.pure _, rfl⟩
  · rw [if_neg (Nat.not_lt_of_le wide), Seam.malformation?_eq_none_iff.2 fits, succeeded]
    exact (finds image removed fits).map Except.ok

/-- What is left after a removal is found by looking past the places of the seam. -/
theorem finds_skip {pixel : π} (removed : view.Removed axis seam image)
    (fits : seam.Fits (view.along axis).height (view.along axis).width) {x y : Nat}
    (hx : x < (view.along axis).width - 1) (hy : y < (view.along axis).height)
    (shown : (image.view.along axis).pixel? x y = some pixel) :
    (look (skip (seam.getD y 0) x) y).Finds (view.along axis) pixel := by
  obtain ⟨gap, entry, -⟩ := fits.exists_entry hy
  rw [List.getD_eq_getElem?_getD, entry, Option.getD_some]
  rw [removed.pixel?_eq x y gap hx hy entry] at shown
  exact finds_look_of_pixel? (skip_lt hx) hy shown

end

theorem finds_removeSeam (view : View π) (axis : Axis) (seam : Seam) :
    (removeSeam view.width view.height axis seam).Finds view (view.removeSeam axis seam) := by
  cases axis with
  | vertical =>
      refine finds_checked view .vertical seam fun image removed fits => ?_
      obtain ⟨width_eq, height_eq⟩ := removed.size_vertical
      rw [← width_eq, ← height_eq]
      refine Finds.image image fun x y hx hy => ?_
      refine finds_skip removed fits (width_eq ▸ hx) (height_eq ▸ hy) ?_
      rw [View.along_vertical, Image.pixel?_view, image.pixel?_eq_some hx hy]
  | horizontal =>
      have finds : (checked view.width view.height view.transpose.height view.transpose.width seam
          (Image.ofFnM view.width (view.height - 1) fun x y => look x (skip (seam.getD x 0) y))).Finds view
          (view.removeSeam .horizontal seam) := by
        refine finds_checked view .horizontal seam fun image removed fits => ?_
        obtain ⟨width_eq, height_eq⟩ := removed.size_horizontal
        rw [← width_eq, ← height_eq]
        refine Finds.image image fun x y hx hy => ?_
        have shown : (look (skip (seam.getD x 0) y) x).Finds view.transpose (image.pixel x y hx hy) := by
          refine finds_skip removed fits ?_ ?_ ?_
          · rw [View.along_horizontal, View.width_transpose]
            omega
          · rw [View.along_horizontal, View.height_transpose]
            omega
          · rw [View.along_horizontal, View.pixel?_transpose, Image.pixel?_view, image.pixel?_eq_some hx hy]
        exact shown.along_horizontal
      rwa [View.width_transpose, View.height_transpose] at finds

variable {ε : Type} [Coloured π ε] [Add ε] [Sub ε] [Mul ε] [NatCast ε] [LT ε] [DecidableLT ε]

/-- The picture of the given size carved down to another one: all its pixels are copied first, and from then on the
    copy is all there is. -/
def carve (width height newWidth newHeight : Nat) : Inspection π (Traced (Image π)) :=
  (fun copy => copy.carve default newWidth newHeight) <$> Image.ofFnM width height look

theorem finds_carve (view : View π) (newWidth newHeight : Nat) :
    (carve view.width view.height newWidth newHeight).Finds view (view.carve newWidth newHeight) := by
  have copied : (Image.ofFnM view.width view.height look).Finds view view.toImage := by
    refine Finds.image view.toImage ?_
    intro x y hx hy
    exact (view.pixel_toImage hx hy).symm ▸ finds_look hx hy
  exact copied.map _

end Inspection

namespace View

/-- No operation on a view tells the two apart. -/
structure AnswersAlike {ε : Type} [Coloured π ε] [Add ε] [Sub ε] [Mul ε] [NatCast ε] [LT ε] [DecidableLT ε]
    (first second : View π) : Prop where
  pixelEnergy_eq : ∀ x y, first.pixelEnergy x y = second.pixelEnergy x y
  energy_eq : first.energy = second.energy
  findSeam_eq : ∀ rule axis, first.findSeam rule axis = second.findSeam rule axis
  removeSeam_eq : ∀ axis seam, first.removeSeam axis seam = second.removeSeam axis seam
  carve_eq : ∀ width height, first.carve width height = second.carve width height

/-- What an inspection finds depends on the pixels that are shown alone. -/
theorem ShowsSame.eq_of_finds {α : Type} {first second : View π} {result other : α}
    (same : first.ShowsSame second) (inspection : (width height : Nat) → Inspection π α)
    (finds : (inspection first.width first.height).Finds first result)
    (finds' : (inspection second.width second.height).Finds second other) : result = other := by
  rw [← same.width_eq, ← same.height_eq] at finds'
  have answers := finds.within.answer?_eq same.pixel?_eq
  rw [finds.answer?_eq, finds'.answer?_eq] at answers
  exact Option.some.inj answers

section

variable {ε : Type} [Coloured π ε] [Add ε] [Sub ε] [Mul ε] [NatCast ε] [LT ε] [DecidableLT ε]

open Inspection in
theorem ShowsSame.answersAlike {first second : View π} (same : first.ShowsSame second) :
    first.AnswersAlike second where
  pixelEnergy_eq x y :=
    same.eq_of_finds (.pixelEnergy · · x y) (finds_pixelEnergy first x y) (finds_pixelEnergy second x y)
  energy_eq := same.eq_of_finds .energy (finds_energy first) (finds_energy second)
  findSeam_eq rule axis :=
    same.eq_of_finds (.findSeam · · rule axis) (finds_findSeam first rule axis) (finds_findSeam second rule axis)
  removeSeam_eq axis seam :=
    same.eq_of_finds (.removeSeam · · axis seam) (finds_removeSeam first axis seam)
      (finds_removeSeam second axis seam)
  carve_eq width height :=
    same.eq_of_finds (.carve · · width height) (finds_carve first width height) (finds_carve second width height)

/-- All operations on a view, whatever they are given, answer as on an image that holds a copy of what the view
    shows. The energies, seams, removals and carvings are found by looking at places of the view only, whatever these
    show. So what an image holds outside of the rectangle that is viewed has no part in any of the answers, and a
    view whose axes have been exchanged twice is the view itself. -/
theorem answers_as_copy (view : View π) :
    (view.ShowsSame view.toImage.view ∧ view.AnswersAlike view.toImage.view) ∧
    ((∀ x y, (Inspection.pixelEnergy view.width view.height x y).Finds view (view.pixelEnergy x y)) ∧
      (Inspection.energy view.width view.height).Finds view view.energy ∧
      (∀ rule axis, (Inspection.findSeam view.width view.height rule axis).Finds view (view.findSeam rule axis)) ∧
      (∀ axis seam, (Inspection.removeSeam view.width view.height axis seam).Finds view (view.removeSeam axis seam)) ∧
      (∀ width height, (Inspection.carve view.width view.height width height).Finds view
        (view.carve width height))) ∧
    (∀ other : View π, other.upright.bounds = view.upright.bounds → other.swapped = view.swapped →
      (∀ x y, view.upright.bounds.Contains x y → view.image.pixel? x y = other.image.pixel? x y) →
        view.AnswersAlike other) ∧
    view.transpose.transpose = view := by
  refine ⟨⟨view.showsSame_toImage, view.showsSame_toImage.answersAlike⟩, ?_, ?_, view.transpose_transpose⟩
  · exact ⟨Inspection.finds_pixelEnergy view, Inspection.finds_energy view, Inspection.finds_findSeam view,
      Inspection.finds_removeSeam view, Inspection.finds_carve view⟩
  · intro other bounds_eq swapped_eq same
    exact (showsSame_of_bounds bounds_eq swapped_eq same).answersAlike

theorem answers_as_copy_litUp :
    ∃ dim vivid, (Image.litUp (fun x _ => decide (3 < x)) 1).view.crop? 1 0 3 3 = some dim ∧
      (Image.litUp (fun x _ => decide (3 < x)) 255).view.crop? 1 0 3 3 = some vivid ∧
      dim.transpose.pixel? 0 3 ≠ vivid.transpose.pixel? 0 3 ∧
      dim.transpose.AnswersAlike vivid.transpose := by
  have same : ∀ x y, (⟨1, 0, 3, 3⟩ : Rectangle).Contains x y →
      (Image.litUp (fun x _ => decide (3 < x)) 1).pixel? x y =
        (Image.litUp (fun x _ => decide (3 < x)) 255).pixel? x y := by
    rintro x y ⟨⟨-, hx⟩, -, hy⟩
    have dark : decide (3 < x) = false := decide_eq_false (Nat.not_lt_of_le (Nat.le_of_lt_succ hx))
    rw [Image.pixel?_litUp _ _ (Nat.lt_of_lt_of_le hx (by decide)) hy,
      Image.pixel?_litUp _ _ (Nat.lt_of_lt_of_le hx (by decide)) hy, dark]
    rfl
  refine ⟨_, _, rfl, rfl, ?_, ?_⟩
  · have outside : (Image.litUp (fun x _ => decide (3 < x)) 1).pixel? 4 0 ≠
        (Image.litUp (fun x _ => decide (3 < x)) 255).pixel? 4 0 := by
      rw [Image.pixel?_litUp _ _ (by decide) (by decide), Image.pixel?_litUp _ _ (by decide) (by decide)]
      decide
    exact outside
  · -- the images underneath differ, so each side is the rectangle by itself
    exact (answers_as_copy _).2.2.1 _ (show (⟨1, 0, 3, 3⟩ : Rectangle) = ⟨1, 0, 3, 3⟩ from rfl)
      (show true = true from rfl) same

end

end View

end SeamCarving

import SeamCarving.CommandLine.Directory
import SeamCarving.Proofs.Carving.Reach
import SeamCarving.Proofs.Carving.Removals
import SeamCarving.Proofs.Carving.Retelling

/-!
# Pixels that show the same colours

Energies are computed from the colours that pixels show, so a change of the pixels that keeps these colours changes
no seam. Removals move pixels without looking at them. Main statement: whatever a carver is asked to do, it does the
same to the changed pixels; so alpha has no part in a carving, and a picture may lose it before or after
(`course_recoloured`).
-/

namespace SeamCarving

/-- The change of the pixels keeps the colours that they show. -/
def KeepsColour {π ρ ε : Type} [Coloured π ε] [Coloured ρ ε] (f : π → ρ) : Prop :=
  ∀ pixel, Coloured.colour (f pixel) = (Coloured.colour pixel : Rgb ε)

/-- The same view of the picture with every pixel changed by `f`. -/
def View.map {π ρ : Type} (f : π → ρ) (view : View π) : View ρ where
  image := view.image.map f
  left := view.left
  top := view.top
  columns := view.columns
  rows := view.rows
  swapped := view.swapped
  columns_fit := view.columns_fit
  rows_fit := view.rows_fit

@[simp] theorem Image.pixel?_map {π ρ : Type} (f : π → ρ) (image : Image π) (x y : Nat) :
    (image.map f).pixel? x y = (image.pixel? x y).map f :=
  image.toGrid.cell?_map f x y

namespace View

section

variable {π ρ : Type} {f : π → ρ}

@[simp] theorem width_map (view : View π) : (view.map f).width = view.width :=
  rfl

@[simp] theorem height_map (view : View π) : (view.map f).height = view.height :=
  rfl

theorem along_map (view : View π) (axis : Axis) : (view.map f).along axis = (view.along axis).map f := by
  cases axis <;> rfl

theorem pixel?_map (view : View π) (x y : Nat) : (view.map f).pixel? x y = (view.pixel? x y).map f := by
  cases turned : view.swapped <;> simp [pixel?, map, turned]

theorem pixel_map (view : View π) {x y : Nat} (hx : x < view.width) (hy : y < view.height) :
    (view.map f).pixel x y hx hy = f (view.pixel x y hx hy) := by
  have read : (view.map f).pixel? x y = (view.pixel? x y).map f := view.pixel?_map x y
  rw [(view.map f).pixel?_eq_some hx hy, view.pixel?_eq_some hx hy] at read
  exact Option.some.inj read

variable {view : View π} {axis : Axis} {seam : Seam} {image : Image π}

theorem Removed.map (removed : view.Removed axis seam image) (f : π → ρ) :
    (view.map f).Removed axis seam (image.map f) := by
  have seen : (image.map f).view.along axis = (image.view.along axis).map f := image.view.along_map axis
  refine ⟨?_, ?_, ?_⟩
  · rw [seen, along_map, width_map, width_map, removed.width_eq]
  · rw [seen, along_map, height_map, height_map, removed.height_eq]
  · intro x y gap hx hy entry
    rw [along_map] at hx hy ⊢
    rw [seen, pixel?_map, pixel?_map, removed.pixel?_eq x y gap hx hy entry]

/-- A removal does not look at what it moves. -/
theorem removeSeam_map (view : View π) (f : π → ρ) (axis : Axis) (seam : Seam) :
    (view.map f).removeSeam axis seam = (view.removeSeam axis seam).map (Image.map f) := by
  rcases view.removeSeam_cases axis seam with narrow | ⟨malformation, wide, found⟩ |
    ⟨image, wide, fits, succeeded, removed⟩
  · rw [removeSeam_of_narrow narrow, removeSeam_of_narrow (by rwa [along_map])]
    rfl
  · rw [removeSeam_of_malformed wide found,
      removeSeam_of_malformed (by rwa [along_map]) (by rwa [along_map])]
    rfl
  · rw [succeeded, (removed.map f).removeSeam_eq (by rwa [along_map]) (by rwa [along_map])]
    rfl

end

end View

section

variable {π ρ ε : Type} [Coloured π ε] [Coloured ρ ε] {f : π → ρ}

theorem View.colours_map (keeps : KeepsColour f) (view : View π) :
    ((view.map f).colours : Image (Rgb ε)) = view.colours := by
  refine Image.ext_pixel rfl rfl ?_
  intro x y hx hy
  calc ((view.map f).colours : Image (Rgb ε)).pixel x y hx hy
    _ = Coloured.colour ((view.map f).pixel x y hx hy) := (view.map f).pixel_colours hx hy
    _ = Coloured.colour (view.pixel x y hx hy) := by rw [view.pixel_map hx hy, keeps _]
    _ = (view.colours : Image (Rgb ε)).pixel x y hx hy := (view.pixel_colours hx hy).symm

variable [Add ε] [Sub ε] [Mul ε] [NatCast ε]

theorem View.energy_map (keeps : KeepsColour f) (view : View π) :
    ((view.map f).energy : Grid ε) = view.energy := by
  unfold energy
  rw [view.colours_map keeps]
  rfl

variable [LT ε] [DecidableLT ε]

theorem View.findSeam_map (keeps : KeepsColour f) (view : View π) (rule : LeftEdgeRule) (axis : Axis) :
    (view.map f).findSeam rule axis = view.findSeam rule axis := by
  rw [findSeam, findSeam, along_map, energy_map keeps]

namespace Image

theorem findSeam_map (keeps : KeepsColour f) (image : Image π) (rule : LeftEdgeRule) (axis : Axis) :
    (image.map f).view.findSeam rule axis = (image.view.findSeam rule axis).retold id id :=
  (image.view.findSeam_map keeps rule axis).trans (Traced.retold_id _).symm

theorem cut_map (keeps : KeepsColour f) (image : Image π) (rule : LeftEdgeRule) (axis : Axis) :
    (image.map f).cut rule axis = (image.cut rule axis).retold id (map f) := by
  rw [cut, findSeam_map keeps]
  refine Traced.bind_eq_retold ?_
  intro seam
  exact congrArg Traced.ofExcept (image.view.removeSeam_map f axis seam)

theorem step_map (keeps : KeepsColour f) (image : Image π) (rule : LeftEdgeRule) (cut : Cut) :
    (image.map f).step rule cut = (image.step rule cut).retold id (map f) := by
  rw [step, cut_map keeps]
  exact Traced.bind_eq_retold fun smaller => rfl

/-- A carving of the changed pixels is the carving of the others, told in the same words. -/
theorem carve_map (keeps : KeepsColour f) (image : Image π) (rule : LeftEdgeRule) (width height : Nat) :
    (image.map f).carve rule width height = (image.carve rule width height).retold id (map f) := by
  by_cases larger : image.width < width ∨ image.height < height
  · rw [carve_of_larger rule larger, carve_of_larger rule (show (image.map f).width < width ∨ _ from larger)]
    rfl
  · rw [carve_of_fits rule larger, carve_of_fits rule (show ¬ ((image.map f).width < width ∨ _) from larger),
      cutAll_eq_foldlM, cutAll_eq_foldlM]
    have steps : ∀ (image : Image π) (cut : Cut),
        (image.map f).step rule (id cut) = (image.step rule cut).retold id (map f) :=
      fun image cut => image.step_map keeps rule cut
    have whole := Traced.foldlM_eq_retold steps
      (Schedule.toList ⟨image.width - width, image.height - height, .vertical⟩) image
    rwa [List.map_id] at whole

end Image

namespace Carver

/-- The carver with every pixel changed by `f`. -/
def map {π ρ : Type} (f : π → ρ) (carver : Carver π) : Carver ρ :=
  ⟨carver.image.map f, carver.rule⟩

/-- The result with every pixel changed by `f`. -/
def Result.map {π ρ : Type} (f : π → ρ) (result : Result π) : Result ρ :=
  ⟨result.image.map f, result.seam⟩

theorem course_map (keeps : KeepsColour f) (carver : Carver π) (command : Command) :
    (carver.map f).course command = (carver.course command).retold id (Result.map f) := by
  cases command with
  | find axis =>
      rw [course, map, Image.findSeam_map keeps]
      exact Traced.bind_eq_retold fun seam => rfl
  | remove axis given =>
      cases given with
      | some seam =>
          have removed : (carver.image.map f).view.removeSeam axis seam = _ :=
            carver.image.view.removeSeam_map f axis seam
          rw [course_remove, course_remove, map, removed]
          cases carver.image.view.removeSeam axis seam <;> rfl
      | none =>
          rw [course, map, Image.cut_map keeps]
          exact Traced.bind_eq_retold fun image => rfl
  | carve width height =>
      rw [course, map, Image.carve_map keeps]
      exact Traced.bind_eq_retold fun image => rfl

theorem perform_map (keeps : KeepsColour f) (carver : Carver π) (command : Command) :
    (carver.map f).perform command = (carver.perform command).map f := by
  unfold perform
  rw [course_map keeps, Traced.retold]
  cases (carver.course command).outcome <;> rfl

/-- Whatever a carver is asked to do, the changed pixels move as the others do. -/
theorem performAll_map (keeps : KeepsColour f) (carver : Carver π) (commands : List Command) :
    (carver.map f).performAll commands = (carver.performAll commands).map f := by
  induction commands generalizing carver with
  | nil => rfl
  | cons command commands ih =>
      calc (carver.map f).performAll (command :: commands)
        _ = ((carver.map f).perform command).performAll commands := rfl
        _ = ((carver.perform command).map f).performAll commands := by rw [perform_map keeps]
        _ = ((carver.perform command).performAll commands).map f := ih _

end Carver

end

namespace Pixel

variable {layout : Layout} {χ ε : Type} [Channel χ ε]

@[simp] theorem colour_toRgb (pixel : Pixel layout χ) : pixel.toRgb.colour = pixel.colour :=
  rfl

/-- Alpha and the order of the channels belong to no colour. -/
theorem keepsColour_toRgb : KeepsColour (toRgb : Pixel layout χ → Pixel .rgb χ) :=
  fun pixel => congrArg (Rgb.map Channel.value) pixel.colour_toRgb

end Pixel

theorem Image.map_map {π ρ σ : Type} (f : π → ρ) (g : ρ → σ) (image : Image π) :
    (image.map f).map g = image.map (g ∘ f) := by
  refine ext_pixel? rfl rfl ?_
  intro x y hx hy
  rw [pixel?_map, pixel?_map, pixel?_map, Option.map_map]

/-- The colours of what a carving leaves depend on the colours of the image. -/
theorem Image.carve_colour {layout : Layout} {χ ε : Type} [Channel χ ε] [Add ε] [Sub ε] [Mul ε] [NatCast ε] [LT ε]
    [DecidableLT ε] (image : Image (Pixel layout χ)) (rule : LeftEdgeRule) (width height : Nat) :
    (image.carve rule width height).retold id (map Pixel.colour) =
      (((image.map Pixel.colour).map Pixel.ofColour).carve rule width height).retold id (map Pixel.colour) := by
  have stripped : (image.map Pixel.colour).map Pixel.ofColour = image.map Pixel.toRgb :=
    image.map_map Pixel.colour Pixel.ofColour
  have shown : map Pixel.colour ∘ map (Pixel.toRgb : Pixel layout χ → Pixel .rgb χ) = map Pixel.colour :=
    funext fun image => image.map_map Pixel.toRgb Pixel.colour
  rw [stripped, image.carve_map Pixel.keepsColour_toRgb, Traced.retold_retold, shown]
  rfl

/-- A picture of four columns and rows whose pixels all have the given alpha. -/
def Image.veiled (alpha : UInt8) : Image (Pixel .rgba UInt8) :=
  .ofFn 4 4 fun x y _ _ => ⟨#v[.ofNat x, .ofNat (x * y), 7, alpha]⟩

theorem Image.pixel?_veiled (alpha : UInt8) {x y : Nat} (hx : x < 4) (hy : y < 4) :
    (veiled alpha).pixel? x y = some ⟨#v[.ofNat x, .ofNat (x * y), 7, alpha]⟩ :=
  pixel?_ofFn _ hx hy

/-- A change of the pixels that keeps the colours commutes with all that a carver does: after any operations it
    holds the changed image, and the next one succeeds or fails alike, with the same seams and the same reports. So
    two images that differ in nothing but alpha have the same seams, and a picture may be turned into one without
    alpha before it is carved or after. -/
theorem Carver.course_recoloured :
    (∀ {π ρ ε : Type} [Coloured π ε] [Coloured ρ ε] [Add ε] [Sub ε] [Mul ε] [NatCast ε] [LT ε] [DecidableLT ε]
        {f : π → ρ}, KeepsColour f →
      (∀ (image : Image π) (rule : LeftEdgeRule) (width height : Nat),
        ((image.map f).carve rule width height).outcome =
          (image.carve rule width height).outcome.map (Image.map f) ∧
        ((image.map f).carve rule width height).events = (image.carve rule width height).events) ∧
      ∀ (carver : Carver π) (before : List Command) (command : Command),
        let current := carver.performAll before
        (carver.map f).performAll before = current.map f ∧
        ((current.map f).course command).outcome = (current.course command).outcome.map (Result.map f) ∧
        ((current.map f).course command).events = (current.course command).events) ∧
    (∀ {layout layout' : Layout} {χ ε : Type} [Channel χ ε] [Add ε] [Sub ε] [Mul ε] [NatCast ε] [LT ε]
        [DecidableLT ε] (first : Image (Pixel layout χ)) (second : Image (Pixel layout' χ)),
      first.map Pixel.colour = second.map Pixel.colour →
      ∀ (rule : LeftEdgeRule) (width height : Nat),
        (first.carve rule width height).events = (second.carve rule width height).events ∧
        (first.carve rule width height).outcome.map (Image.map Pixel.colour) =
          (second.carve rule width height).outcome.map (Image.map Pixel.colour)) ∧
    (∀ (picture : CommandLine.Picture) (rule : LeftEdgeRule) (width height : Nat),
      (picture.toRgb.carve rule width height).outcome =
        (picture.image.carve rule width height).outcome.map
          (fun carved => (⟨picture.layout, carved⟩ : CommandLine.Picture).toRgb) ∧
      (picture.toRgb.carve rule width height).events = (picture.image.carve rule width height).events) := by
  refine ⟨?_, ?_, ?_⟩
  · intro π ρ ε _ _ _ _ _ _ _ _ f keeps
    constructor
    · intro image rule width height
      rw [image.carve_map keeps]
      exact ⟨rfl, List.map_id _⟩
    · intro carver before command
      refine ⟨carver.performAll_map keeps before, ?_⟩
      rw [course_map keeps]
      exact ⟨rfl, List.map_id _⟩
  · intro layout layout' χ ε _ _ _ _ _ _ _ first second same rule width height
    have colours := first.carve_colour rule width height
    rw [same, ← second.carve_colour rule width height] at colours
    have events := congrArg Traced.events colours
    rw [Traced.retold, Traced.retold, List.map_id, List.map_id] at events
    exact ⟨events, congrArg Traced.outcome colours⟩
  · intro picture rule width height
    rw [CommandLine.Picture.toRgb, picture.image.carve_map Pixel.keepsColour_toRgb]
    exact ⟨rfl, List.map_id _⟩

theorem Carver.course_recoloured_veiled :
    KeepsColour (Pixel.toRgb : Pixel .rgba UInt8 → Pixel .rgb UInt8) ∧
    (Image.veiled 0).map Pixel.colour = (Image.veiled 255).map Pixel.colour ∧
    ((Image.veiled 0).carve .lookahead 3 3).events = ((Image.veiled 255).carve .lookahead 3 3).events ∧
    ∃ result, ((Image.veiled 0).carve .lookahead 3 3).outcome = .ok result ∧
      (((Image.veiled 0).map Pixel.toRgb).carve .lookahead 3 3).outcome = .ok (result.map Pixel.toRgb) := by
  have same : (Image.veiled 0).map Pixel.colour = (Image.veiled 255).map Pixel.colour := by
    refine Image.ext_pixel? (show 4 = 4 from rfl) (show 4 = 4 from rfl) ?_
    intro x y hx hy
    rw [Image.pixel?_map, Image.pixel?_map, Image.pixel?_veiled 0 hx hy, Image.pixel?_veiled 255 hx hy]
    rfl
  obtain ⟨result, ended⟩ := (Image.veiled 0).exists_carve .lookahead
    (show ¬ (4 < 3 ∨ 4 < 3) by decide) (attains_iff.2 (by decide))
  refine ⟨Pixel.keepsColour_toRgb, same, (course_recoloured.2.1 _ _ same .lookahead 3 3).1, result, ended, ?_⟩
  rw [((course_recoloured.1 Pixel.keepsColour_toRgb).1 _ .lookahead 3 3).1, ended]
  rfl

end SeamCarving

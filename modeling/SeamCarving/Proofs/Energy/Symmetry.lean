import SeamCarving.Proofs.Energy.Around
import SeamCarving.Proofs.Energy.FloatLaws

/-!
# Energies of reflected pictures

A rectangle can be reflected in its diagonal, which exchanges its axes, in its upright middle line and in its level
middle line. A reflection turns what is around a place, so that a neighbour on one side becomes the one on another;
the energy does not see this as long as addition commutes and a difference may be taken either way before it is
squared. Main statement: the energies of a reflected picture are the reflected energies
(`View.energyMap_equivariant`), for floats as well as for integers.
-/

namespace SeamCarving

/-- The laws of arithmetic by which the energy does not change when sides are exchanged. -/
class Reflective (ε : Type) [Add ε] [Sub ε] [Mul ε] : Prop where
  add_comm : ∀ first second : ε, first + second = second + first
  sub_mul_self_comm : ∀ first second : ε,
    (first - second) * (first - second) = (second - first) * (second - first)

instance reflectiveFloat : Reflective Float where
  add_comm := floatAdd_comm
  sub_mul_self_comm := floatSub_mul_self_comm

instance reflectiveInt : Reflective Int where
  add_comm := Int.add_comm
  sub_mul_self_comm first second := by
    rw [← Int.neg_sub second first, Int.neg_mul_neg]

/-- The reflections of a rectangle. -/
inductive Reflection
  /-- In the diagonal from the upper left corner, by which rows and columns are exchanged. -/
  | diagonal
  /-- In the upright middle line, by which left and right are exchanged. -/
  | sideways
  /-- In the level middle line, by which top and bottom are exchanged. -/
  | upsideDown
  deriving DecidableEq, Repr

namespace Reflection

/-- The width and the height of a reflected rectangle. -/
def size : Reflection → Nat × Nat → Nat × Nat
  | diagonal, size => size.swap
  | sideways, size => size
  | upsideDown, size => size

/-- Where a place of a rectangle of the given width and height stands after the reflection. -/
def place : Reflection → Nat × Nat → Nat × Nat → Nat × Nat
  | diagonal, _, place => place.swap
  | sideways, size, place => (size.1 - 1 - place.1, place.2)
  | upsideDown, size, place => (place.1, size.2 - 1 - place.2)

/-- What is around a place after the reflection. -/
def around {α : Type} : Reflection → Around α → Around α
  | diagonal, ⟨left, right, above, below⟩ => ⟨above, below, left, right⟩
  | sideways, ⟨left, right, above, below⟩ => ⟨right, left, above, below⟩
  | upsideDown, ⟨left, right, above, below⟩ => ⟨left, right, below, above⟩

@[simp] theorem size_size (reflection : Reflection) (size : Nat × Nat) :
    reflection.size (reflection.size size) = size := by
  cases reflection <;> rfl

/-- A place of the rectangle is reflected to a place of the reflected one. -/
theorem place_lt (reflection : Reflection) {size place : Nat × Nat} (inside : place.1 < size.1 ∧ place.2 < size.2) :
    (reflection.place size place).1 < (reflection.size size).1 ∧
      (reflection.place size place).2 < (reflection.size size).2 := by
  cases reflection with
  | diagonal => exact inside.symm
  | sideways => exact ⟨show size.1 - 1 - place.1 < size.1 by omega, inside.2⟩
  | upsideDown => exact ⟨inside.1, show size.2 - 1 - place.2 < size.2 by omega⟩

end Reflection

section

variable {ε : Type} [Add ε] [Sub ε] [Mul ε] [Reflective ε]

theorem Rgb.squaredDistance_comm (first second : Rgb ε) :
    first.squaredDistance second = second.squaredDistance first := by
  have square (before after : ε) : squaredDifference before after = squaredDifference after before :=
    Reflective.sub_mul_self_comm after before
  rw [squaredDistance, squaredDistance, square first.red, square first.green, square first.blue]

/-- The energy of a place does not change when what is around it is reflected. -/
theorem Around.energy_reflected {π : Type} [Coloured π ε] (reflection : Reflection) (around : Around π) :
    (reflection.around around).energy = around.energy := by
  obtain ⟨left, right, above, below⟩ := around
  unfold Around.energy
  cases reflection with
  | diagonal => exact Reflective.add_comm _ _
  | sideways => exact congrArg (· + _) (Rgb.squaredDistance_comm _ _)
  | upsideDown => exact congrArg (_ + ·) (Rgb.squaredDistance_comm _ _)

end

namespace View

variable {π : Type}

/-- The width and the height of the view. -/
def size (view : View π) : Nat × Nat :=
  (view.width, view.height)

/-- The second view shows the reflected picture of the first: at each place it shows the pixel that the first view
    shows at the reflected place. -/
structure Reflects (reflection : Reflection) (first second : View π) : Prop where
  size_eq : second.size = reflection.size first.size
  pixel?_eq : ∀ x y, x < second.width → y < second.height →
    second.pixel? x y =
      first.pixel? (reflection.place second.size (x, y)).1 (reflection.place second.size (x, y)).2

theorem reflects_transpose (view : View π) : view.Reflects .diagonal view.transpose := by
  constructor
  · exact Prod.ext view.width_transpose view.height_transpose
  · intro x y hx hy
    exact view.pixel?_transpose x y

variable {reflection : Reflection} {first second : View π}

/-- A place of the second view is reflected to one of the first. -/
theorem Reflects.place_lt (reflects : first.Reflects reflection second) {x y : Nat} (hx : x < second.width)
    (hy : y < second.height) :
    (reflection.place second.size (x, y)).1 < first.width ∧
      (reflection.place second.size (x, y)).2 < first.height := by
  have inside : (x, y).1 < second.size.1 ∧ (x, y).2 < second.size.2 := ⟨hx, hy⟩
  have back : reflection.size second.size = first.size := by
    rw [reflects.size_eq, Reflection.size_size]
  have within := reflection.place_lt inside
  rwa [back] at within

theorem Reflects.inner_iff (reflects : first.Reflects reflection second) {x y : Nat} (hx : x < second.width)
    (hy : y < second.height) :
    first.Inner (reflection.place second.size (x, y)) ↔ second.Inner (x, y) := by
  obtain ⟨width_eq, height_eq⟩ := Prod.ext_iff.1 reflects.size_eq
  cases reflection with
  | diagonal =>
      dsimp only [Reflection.size, Reflection.place, Inner, size, Prod.swap] at *
      rw [width_eq, height_eq]
      exact and_comm
  | sideways =>
      dsimp only [Reflection.size, Reflection.place, Inner, size] at *
      omega
  | upsideDown =>
      dsimp only [Reflection.size, Reflection.place, Inner, size] at *
      omega

/-- Around a place there is what is around the reflected place, reflected. -/
theorem Reflects.around?_eq (reflects : first.Reflects reflection second) {x y : Nat} (hx : x < second.width)
    (hy : y < second.height) :
    second.around? (x, y) = (first.around? (reflection.place second.size (x, y))).map reflection.around := by
  by_cases inner : second.Inner (x, y)
  · have inner' := (reflects.inner_iff hx hy).2 inner
    obtain ⟨around, found⟩ : ∃ around, first.around? (reflection.place second.size (x, y)) = some around :=
      ⟨_, around?_eq_some_of_inner inner' inner'.1.2 inner'.2.2⟩
    obtain ⟨⟨afterLeft, beforeRight⟩, belowTop, aboveBottom⟩ := id inner
    have left := reflects.pixel?_eq (x - 1) y (by omega) hy
    have right := reflects.pixel?_eq (x + 1) y beforeRight hy
    have above := reflects.pixel?_eq x (y - 1) hx (by omega)
    have below := reflects.pixel?_eq x (y + 1) hx aboveBottom
    rw [found, Option.map_some, around?_eq_some_iff, left, right, above, below]
    obtain ⟨-, shown_left, shown_right, shown_above, shown_below⟩ := around?_eq_some_iff.1 found
    refine ⟨inner, ?_⟩
    -- counted from the other end, the next place is the one before
    cases reflection with
    | diagonal => exact ⟨shown_above, shown_below, shown_left, shown_right⟩
    | sideways =>
        have before : second.size.1 - 1 - (x - 1) = second.size.1 - 1 - x + 1 := by
          dsimp only [size]
          omega
        have after : second.size.1 - 1 - (x + 1) = second.size.1 - 1 - x - 1 := by omega
        dsimp only [Reflection.place] at *
        rw [before, after]
        exact ⟨shown_right, shown_left, shown_above, shown_below⟩
    | upsideDown =>
        have before : second.size.2 - 1 - (y - 1) = second.size.2 - 1 - y + 1 := by
          dsimp only [size]
          omega
        have after : second.size.2 - 1 - (y + 1) = second.size.2 - 1 - y - 1 := by omega
        dsimp only [Reflection.place] at *
        rw [before, after]
        exact ⟨shown_left, shown_right, shown_below, shown_above⟩
  · rw [around?_eq_none_iff.2 inner, around?_eq_none_iff.2 (mt (reflects.inner_iff hx hy).1 inner)]
    rfl

variable {ε : Type} [Coloured π ε] [Add ε] [Sub ε] [Mul ε] [NatCast ε]

/-- The energies of a view as a picture. -/
def energyMap (view : View π) : Image ε :=
  ⟨view.energy, Grid.wellFormed_ofFn _ _ _⟩

theorem pixel?_energyMap (view : View π) {x y : Nat} (hx : x < view.width) (hy : y < view.height) :
    (view.energyMap : Image ε).pixel? x y = some (view.terrain.energy x y) :=
  view.reads_energy.cell?_eq x y hx hy

variable [Reflective ε]

/-- A place of a reflected picture has the energy of the reflected place. -/
theorem Reflects.terrain_energy_eq (reflects : first.Reflects reflection second) {x y : Nat}
    (hx : x < second.width) (hy : y < second.height) :
    (second.terrain : Terrain ε).energy x y =
      first.terrain.energy (reflection.place second.size (x, y)).1 (reflection.place second.size (x, y)).2 := by
  calc (second.terrain : Terrain ε).energy x y
    _ = (second.around? (x, y)).elim borderEnergy Around.energy := second.terrain_energy_eq (x, y)
    _ = (first.around? (reflection.place second.size (x, y))).elim borderEnergy Around.energy := by
        rw [reflects.around?_eq hx hy]
        cases first.around? (reflection.place second.size (x, y)) with
        | none => rfl
        | some around => exact around.energy_reflected reflection
    _ = first.terrain.energy _ _ := (first.terrain_energy_eq _).symm

/-- The energies of a reflected picture are the reflected energies, cell for cell. -/
theorem Reflects.energyMap (reflects : first.Reflects reflection second) :
    (first.energyMap : Image ε).view.Reflects reflection second.energyMap.view := by
  refine ⟨reflects.size_eq, ?_⟩
  intro x y hx hy
  have within := reflects.place_lt hx hy
  have size_eq : (second.energyMap : Image ε).view.size = second.size := rfl
  rw [size_eq, Image.pixel?_view, Image.pixel?_view, second.pixel?_energyMap hx hy, reflects.terrain_energy_eq hx hy]
  exact (first.pixel?_energyMap within.1 within.2).symm

end View

namespace Image

variable {π : Type}

/-- The reflected picture. -/
def reflect (image : Image π) : Reflection → Image π
  | .diagonal => image.transpose
  | .sideways => .ofFn image.width image.height fun x y hx hy => image.pixel (image.width - 1 - x) y (by omega) hy
  | .upsideDown => .ofFn image.width image.height fun x y hx hy => image.pixel x (image.height - 1 - y) hx (by omega)

theorem reflects_reflect (image : Image π) (reflection : Reflection) :
    image.view.Reflects reflection (image.reflect reflection).view := by
  cases reflection with
  | diagonal =>
      constructor
      · exact Prod.ext image.width_transpose image.height_transpose
      · intro x y hx hy
        rw [pixel?_view (image.reflect .diagonal)]
        exact (image.view.transpose.pixel?_toImage hx hy).trans (image.view.pixel?_transpose x y)
  | sideways =>
      refine ⟨rfl, ?_⟩
      intro x y (hx : x < image.width) (hy : y < image.height)
      have within : image.width - 1 - x < image.width := by omega
      rw [pixel?_view, pixel?_view]
      exact (pixel?_ofFn _ hx hy).trans (image.pixel?_eq_some within hy).symm
  | upsideDown =>
      refine ⟨rfl, ?_⟩
      intro x y (hx : x < image.width) (hy : y < image.height)
      have within : image.height - 1 - y < image.height := by omega
      rw [pixel?_view, pixel?_view]
      exact (pixel?_ofFn _ hx hy).trans (image.pixel?_eq_some hx within).symm

/-- There is only one reflected picture. -/
theorem eq_reflect {image other : Image π} {reflection : Reflection}
    (reflects : image.view.Reflects reflection other.view) : other = image.reflect reflection := by
  have reflected := image.reflects_reflect reflection
  obtain ⟨width_eq, height_eq⟩ : other.width = (image.reflect reflection).width ∧
      other.height = (image.reflect reflection).height :=
    Prod.ext_iff.1 (reflects.size_eq.trans reflected.size_eq.symm)
  refine ext_pixel? width_eq height_eq ?_
  intro x y hx hy
  have same := reflected.pixel?_eq x y (Nat.lt_of_lt_of_eq hx width_eq) (Nat.lt_of_lt_of_eq hy height_eq)
  rw [reflected.size_eq, ← reflects.size_eq, ← reflects.pixel?_eq x y hx hy, pixel?_view, pixel?_view] at same
  exact same.symm

end Image

section

variable {π ε : Type} [Coloured π ε] [Add ε] [Sub ε] [Mul ε] [NatCast ε] [Reflective ε]

theorem View.Reflects.energyMap_eq {reflection : Reflection} {first second : View π}
    (reflects : first.Reflects reflection second) :
    (second.energyMap : Image ε) = first.energyMap.reflect reflection :=
  Image.eq_reflect reflects.energyMap

/-- The energies of a picture that is reflected again and again are reflected again and again. -/
theorem Image.energyMap_foldl_reflect (image : Image π) (reflections : List Reflection) :
    ((reflections.foldl reflect image).view.energyMap : Image ε) =
      reflections.foldl reflect image.view.energyMap := by
  induction reflections generalizing image with
  | nil => rfl
  | cons reflection rest ih =>
      rw [List.foldl_cons, List.foldl_cons, ih, (image.reflects_reflect reflection).energyMap_eq]

/-- The energies of a view with its axes exchanged are those of the view with their axes exchanged, the energies of a
    picture after any reflections are its energies after the same reflections, and whenever one view shows the
    reflected picture of another, it has at each place the energy that the other has at the reflected place. -/
theorem View.energyMap_equivariant :
    (∀ view : View π, (view.transpose.energyMap : Image ε) = view.energyMap.transpose) ∧
    (∀ (image : Image π) (reflections : List Reflection),
      ((reflections.foldl Image.reflect image).view.energyMap : Image ε) =
        reflections.foldl Image.reflect image.view.energyMap) ∧
    ∀ (reflection : Reflection) (first second : View π), first.Reflects reflection second →
      (second.energyMap : Image ε) = first.energyMap.reflect reflection ∧
      ∀ x y, x < second.width → y < second.height →
        let place := reflection.place second.size (x, y)
        ∃ energy : ε, second.energy.cell? x y = some energy ∧ first.energy.cell? place.1 place.2 = some energy := by
  refine ⟨fun view => view.reflects_transpose.energyMap_eq, Image.energyMap_foldl_reflect, ?_⟩
  intro reflection first second reflects
  refine ⟨reflects.energyMap_eq, ?_⟩
  intro x y hx hy
  have within := reflects.place_lt hx hy
  refine ⟨_, second.pixel?_energyMap hx hy, ?_⟩
  rw [reflects.terrain_energy_eq hx hy]
  exact first.pixel?_energyMap within.1 within.2

end

/-- A dark picture of four columns and three rows with a bright pixel at its left end. -/
def Image.spark {ε : Type} (dark bright : ε) : Image (Rgb ε) :=
  .ofFn 4 3 fun x y _ _ => if x = 0 ∧ y = 1 then ⟨bright, dark, dark⟩ else ⟨dark, dark, dark⟩

theorem View.energyMap_equivariant_spark :
    let image : Image (Rgb Float) := Image.spark (UInt8.toFloat 0) (UInt8.toFloat 255)
    (image.reflect .sideways).view.energy.cell? 2 1 = some (UInt16.toFloat 65025) := by
  intro image
  have reflected := View.energyMap_equivariant.2.2 .sideways image.view _ (image.reflects_reflect .sideways)
  obtain ⟨energy, after, before⟩ := reflected.2 2 1 (by decide) (by decide)
  have known : image.view.energy.cell? 1 1 = some (UInt16.toFloat 65025) := by decide +kernel
  rw [after, ← known]
  exact before.symm

end SeamCarving

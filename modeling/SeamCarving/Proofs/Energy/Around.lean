import SeamCarving.Proofs.Energy.Border

/-!
# What is around a pixel

The energy of a place is a function of the four pixels around it. `View.around?` finds these pixels; a place on the
border does not have all of them. Main statements: a place has four neighbours exactly if it is inner
(`around?_eq_none_iff`), all of them are pixels of the view (`around?_eq_some_of_inner`), and the energy of a place is
the border energy or that of what is around it (`terrain_energy_eq`).
-/

namespace SeamCarving

/-- Something for each of the four neighbours of a place. -/
structure Around (α : Type) where
  left : α
  right : α
  above : α
  below : α
  deriving DecidableEq, Repr

/-- The energy of a place with these pixels around it: the squared distance of the colours left and right of it and
    that of the colours above and below, in this order. -/
def Around.energy {π ε : Type} [Coloured π ε] [Add ε] [Sub ε] [Mul ε] (around : Around π) : ε :=
  Rgb.squaredDistance (Coloured.colour around.left) (Coloured.colour around.right) +
    Rgb.squaredDistance (Coloured.colour around.above) (Coloured.colour around.below)

namespace View

variable {π : Type} (view : View π)

/-- The pixels around a place, absent on the border and outside of the view. -/
def around? (place : Nat × Nat) : Option (Around π) :=
  if view.Inner place then do
    let left ← view.pixel? (place.1 - 1) place.2
    let right ← view.pixel? (place.1 + 1) place.2
    let above ← view.pixel? place.1 (place.2 - 1)
    let below ← view.pixel? place.1 (place.2 + 1)
    return ⟨left, right, above, below⟩
  else
    none

variable {view} {place : Nat × Nat}

/-- An inner place has four neighbours, all of them pixels of the view. -/
theorem around?_eq_some_of_inner (inner : view.Inner place) (beforeRight : place.1 + 1 < view.width)
    (aboveBottom : place.2 + 1 < view.height) :
    view.around? place = some
      { left := view.pixel (place.1 - 1) place.2 (by omega) (by omega)
        right := view.pixel (place.1 + 1) place.2 beforeRight (by omega)
        above := view.pixel place.1 (place.2 - 1) (by omega) (by omega)
        below := view.pixel place.1 (place.2 + 1) (by omega) aboveBottom } := by
  have left := view.pixel?_eq_some (show place.1 - 1 < view.width by omega) (show place.2 < view.height by omega)
  have right := view.pixel?_eq_some beforeRight (show place.2 < view.height by omega)
  have above := view.pixel?_eq_some (show place.1 < view.width by omega) (show place.2 - 1 < view.height by omega)
  have below := view.pixel?_eq_some (show place.1 < view.width by omega) aboveBottom
  rw [around?, if_pos inner, left, right, above, below]
  rfl

theorem around?_eq_some_iff {around : Around π} :
    view.around? place = some around ↔ view.Inner place ∧
      view.pixel? (place.1 - 1) place.2 = some around.left ∧
      view.pixel? (place.1 + 1) place.2 = some around.right ∧
      view.pixel? place.1 (place.2 - 1) = some around.above ∧
      view.pixel? place.1 (place.2 + 1) = some around.below := by
  obtain ⟨left, right, above, below⟩ := around
  unfold around?
  split
  · next inner => simp [inner, Option.bind_eq_some_iff]
  · next border => simp [border]

theorem around?_eq_none_iff : view.around? place = none ↔ ¬ view.Inner place := by
  constructor
  · intro absent inner
    rw [around?_eq_some_of_inner inner inner.1.2 inner.2.2] at absent
    contradiction
  · intro border
    rw [around?, if_neg border]

variable {ε : Type} [Coloured π ε] [Add ε] [Sub ε] [Mul ε] [NatCast ε]

/-- The energy of a place comes from what is around it, and is the border energy if there is something missing. -/
theorem terrain_energy_eq (view : View π) (place : Nat × Nat) :
    (view.terrain : Terrain ε).energy place.1 place.2 = (view.around? place).elim borderEnergy Around.energy := by
  by_cases inner : view.Inner place
  · rw [around?_eq_some_of_inner inner inner.1.2 inner.2.2, energy_terrain, energyAt]
    exact dif_pos inner
  · rw [around?_eq_none_iff.2 inner, view.energy_of_border inner]
    rfl

end View

end SeamCarving

import Mathlib.Algebra.Order.Ring.Int
import SeamCarving.Energy.Basic
import SeamCarving.Proofs.Grid.Reading
import SeamCarving.Proofs.Image.Pixels
import SeamCarving.Proofs.Seam.Terrain

/-!
# The energies of a picture and its border

A place is inner if it has four neighbours (`View.Inner`), and on the border otherwise. The energies of a view form a
terrain whose first and last rows and columns all hold the one border energy. No float is less than itself, so a search
for the least energy of such a row stops at its first column. In exact arithmetic no energy is negative, and a path
that starts on the border never costs less than a border cell (`borderEnergy_le_cost`).
-/

namespace SeamCarving

namespace View

variable {π : Type}

/-- The place has four neighbours in the view. -/
def Inner (view : View π) (place : Nat × Nat) : Prop :=
  (0 < place.1 ∧ place.1 + 1 < view.width) ∧ (0 < place.2 ∧ place.2 + 1 < view.height)

instance (view : View π) (place : Nat × Nat) : Decidable (view.Inner place) :=
  inferInstanceAs (Decidable ((_ ∧ _) ∧ (_ ∧ _)))

theorem inner_transpose (view : View π) (place : Nat × Nat) :
    view.transpose.Inner place.swap ↔ view.Inner place := by
  unfold Inner
  rw [width_transpose, height_transpose]
  exact and_comm

end View

section

variable {ε : Type} [Add ε] [Sub ε] [Mul ε] [NatCast ε]

theorem energyAt_of_border {width height x y : Nat}
    (colour : (x y : Nat) → x < width → y < height → Rgb ε)
    (border : ¬ ((0 < x ∧ x + 1 < width) ∧ (0 < y ∧ y + 1 < height))) :
    energyAt width height colour x y = borderEnergy := by
  rw [energyAt, dif_neg border]

namespace View

variable {π : Type} [Coloured π ε]

/-- The energies of all places of a view. -/
def terrain (view : View π) : Terrain ε where
  width := view.width
  height := view.height
  energy := energyAt view.width view.height fun x y hx hy => Coloured.colour (view.pixel x y hx hy)

@[simp] theorem height_terrain (view : View π) : (view.terrain : Terrain ε).height = view.height :=
  rfl

theorem energy_terrain (view : View π) :
    (view.terrain : Terrain ε).energy =
      energyAt view.width view.height fun x y hx hy => Coloured.colour (view.pixel x y hx hy) :=
  rfl

theorem energy_eq_ofFn (view : View π) :
    (view.energy : Grid ε) = .ofFn view.width view.height view.terrain.energy := by
  change Grid.ofFn view.width view.height
    (energyAt view.width view.height (view.colours : Image (Rgb ε)).pixel) = _
  rw [pixel_colours_eq]
  rfl

theorem reads_energy (view : View π) :
    (view.energy : Grid ε).Reads view.terrain.width view.terrain.height view.terrain.energy := by
  rw [energy_eq_ofFn]
  exact Grid.reads_ofFn _ _ _

theorem pixelEnergy_eq (view : View π) {x y : Nat} (hx : x < view.width) (hy : y < view.height) :
    view.pixelEnergy x y = .ok ((view.terrain : Terrain ε).energy x y) :=
  if_pos ⟨hx, hy⟩

theorem energy_of_border (view : View π) {x y : Nat}
    (border : ¬ ((0 < x ∧ x + 1 < view.width) ∧ (0 < y ∧ y + 1 < view.height))) :
    (view.terrain : Terrain ε).energy x y = borderEnergy := by
  rw [energy_terrain, energyAt_of_border _ border]

end View

end

theorem unpackedFloat_compare_self_ne_lt (number : Float.Model.UnpackedFloat) :
    number.compare number ≠ some .lt := by
  cases number with
  | notANumber => decide
  | infinity sign => cases sign <;> decide
  | zero sign => cases sign <;> decide
  | finite sign mantissa exponent positive =>
      have alike : (compare exponent exponent).then (compare mantissa mantissa) = .eq := by
        simp
      cases sign with
      | negative =>
          change some ((compare exponent exponent).then (compare mantissa mantissa)).swap ≠ some .lt
          rw [alike]
          decide
      | positive =>
          change some ((compare exponent exponent).then (compare mantissa mantissa)) ≠ some .lt
          rw [alike]
          decide

/-- No float is less than itself, whether or not it is a number. -/
instance irreflFloat : Std.Irrefl (· < · : Float → Float → Prop) where
  irrefl number less := by
    have below : number.toModel.unpack.lt number.toModel.unpack = true := of_decide_eq_true less
    exact unpackedFloat_compare_self_ne_lt _ (eq_of_beq below)

section Exact

variable {π : Type} [Coloured π Int]

theorem squaredDifference_nonneg (before after : Int) : 0 ≤ squaredDifference before after :=
  mul_self_nonneg (after - before)

theorem Rgb.squaredDistance_nonneg (before after : Rgb Int) : 0 ≤ before.squaredDistance after := by
  have red := squaredDifference_nonneg before.red after.red
  have green := squaredDifference_nonneg before.green after.green
  have blue := squaredDifference_nonneg before.blue after.blue
  unfold squaredDistance
  omega

theorem borderEnergy_pos : (0 : Int) < borderEnergy := by
  decide

theorem View.energy_nonneg (view : View π) (x y : Nat) : 0 ≤ view.terrain.energy x y := by
  rw [energy_terrain, energyAt]
  split
  · exact Int.add_nonneg (Rgb.squaredDistance_nonneg _ _) (Rgb.squaredDistance_nonneg _ _)
  · exact Int.le_of_lt borderEnergy_pos

/-- Every path starts in the first row, so it costs a border cell at least. -/
theorem View.borderEnergy_le_cost (view : View π) (rule : LeftEdgeRule) (y x : Nat) :
    borderEnergy ≤ view.terrain.cost rule y x := by
  induction y generalizing x with
  | zero =>
      rw [Terrain.cost_zero, view.energy_of_border (by omega)]
  | succ y ih =>
      have own := view.energy_nonneg x (y + 1)
      have inherited := ih (view.terrain.parent rule y x)
      rw [Terrain.cost_succ]
      omega

end Exact

end SeamCarving

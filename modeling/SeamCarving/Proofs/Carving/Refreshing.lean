import SeamCarving.Proofs.Carving.Origin
import SeamCarving.Proofs.Carving.Retelling
import SeamCarving.Proofs.Energy.Border

/-!
# Energies that a removal leaves alone

The energy of a place comes from its four neighbours, and a seam that is taken out moves a place and its neighbours
alike unless it passes right beside the place. So of the energies that were computed before a removal only those next
to the seam have to be computed again. `Image.refresh` does this, and `Image.carveRefreshing` is a carving that
computes all energies once, before its first cut. Main statement: a pixel that is two places or more away from the
seam keeps its energy, the refreshed energies are those of what is left, and the carving that refreshes them comes to
what the carving comes to that computes all of them for each cut (`View.removal_keeps_energies`).
-/

namespace SeamCarving

/-- Places that are not right beside the gap, and their neighbours in the same line and in the next ones, are moved
    alike. -/
theorem exists_shift {gap place : Nat} (far : place + 2 ≤ gap ∨ gap < place) :
    ∃ shift, (place + 2 ≤ gap ∧ shift = 0 ∨ gap < place ∧ shift = 1) ∧
      ∀ other near, near = gap ∧ Seam.Adjacent place other ∨ Seam.Adjacent gap near ∧ other = place →
        skip near other = other + shift := by
  unfold Seam.Adjacent skip
  rcases far with before | after
  · refine ⟨0, Or.inl ⟨before, rfl⟩, ?_⟩
    intro other near beside
    rw [if_pos (by omega)]
    rfl
  · refine ⟨1, Or.inr ⟨after, rfl⟩, ?_⟩
    intro other near beside
    rw [if_neg (by omega)]

/-- A place away from the gap is moved to a place that is not right beside the gap either. -/
theorem exists_moved_of_far {gap place length : Nat} (within : place < length) (gap_within : gap < length)
    (far : place + 2 ≤ gap ∨ gap + 2 ≤ place) :
    ∃ moved, (if place < gap then place else place - 1) = moved ∧ skip gap moved = place ∧ moved < length - 1 ∧
      (moved + 2 ≤ gap ∨ gap < moved) := by
  rcases far with before | after
  · exact ⟨place, if_pos (by omega), if_pos (by omega), by omega, Or.inl before⟩
  · refine ⟨place - 1, if_neg (by omega), ?_, by omega, Or.inr (by omega)⟩
    rw [skip_of_le (by omega), Nat.sub_add_cancel (by omega)]

namespace View

variable {π : Type}

/-- Around a place of the first view is what is around a place of the second view: both are on the border, or their
    neighbours show the same pixels. -/
structure AlikeAround (first second : View π) (place place' : Nat × Nat) : Prop where
  inner_iff : first.Inner place ↔ second.Inner place'
  left : first.Inner place →
    first.pixel? (place.1 - 1) place.2 = second.pixel? (place'.1 - 1) place'.2
  right : first.Inner place →
    first.pixel? (place.1 + 1) place.2 = second.pixel? (place'.1 + 1) place'.2
  above : first.Inner place →
    first.pixel? place.1 (place.2 - 1) = second.pixel? place'.1 (place'.2 - 1)
  below : first.Inner place →
    first.pixel? place.1 (place.2 + 1) = second.pixel? place'.1 (place'.2 + 1)

section

variable {first second : View π} {place place' : Nat × Nat}

theorem AlikeAround.transpose (alike : first.AlikeAround second place place') :
    first.transpose.AlikeAround second.transpose place.swap place'.swap := by
  constructor
  · rw [inner_transpose, inner_transpose]
    exact alike.inner_iff
  all_goals
    rw [inner_transpose, pixel?_transpose, pixel?_transpose]
  · exact alike.above
  · exact alike.below
  · exact alike.left
  · exact alike.right

theorem AlikeAround.along (alike : first.AlikeAround second place place') (axis : Axis) :
    (first.along axis).AlikeAround (second.along axis) (axis.turn place) (axis.turn place') := by
  cases axis with
  | vertical => exact alike
  | horizontal => exact alike.transpose

/-- What is alike seen along an axis is alike. -/
theorem AlikeAround.of_along {axis : Axis}
    (alike : (first.along axis).AlikeAround (second.along axis) place place') :
    first.AlikeAround second (axis.turn place) (axis.turn place') := by
  have upright := alike.along axis
  rwa [along_along, along_along] at upright

variable {ε : Type} [Coloured π ε] [Add ε] [Sub ε] [Mul ε] [NatCast ε]

/-- The energy of a place is made of nothing but what is around it. -/
theorem AlikeAround.energy_eq (alike : first.AlikeAround second place place') :
    (first.terrain : Terrain ε).energy place.1 place.2 = second.terrain.energy place'.1 place'.2 := by
  rw [energy_terrain, energy_terrain]
  by_cases inner : first.Inner place
  · have inner' := alike.inner_iff.1 inner
    have ⟨⟨afterLeft, beforeRight⟩, belowTop, aboveBottom⟩ := inner
    have ⟨⟨afterLeft', beforeRight'⟩, belowTop', aboveBottom'⟩ := inner'
    have left : first.pixel (place.1 - 1) place.2 (by omega) (by omega) =
        second.pixel (place'.1 - 1) place'.2 (by omega) (by omega) :=
      pixel_eq_of_pixel? _ _ _ _ (alike.left inner)
    have right : first.pixel (place.1 + 1) place.2 beforeRight (by omega) =
        second.pixel (place'.1 + 1) place'.2 beforeRight' (by omega) :=
      pixel_eq_of_pixel? _ _ _ _ (alike.right inner)
    have above : first.pixel place.1 (place.2 - 1) (by omega) (by omega) =
        second.pixel place'.1 (place'.2 - 1) (by omega) (by omega) :=
      pixel_eq_of_pixel? _ _ _ _ (alike.above inner)
    have below : first.pixel place.1 (place.2 + 1) (by omega) aboveBottom =
        second.pixel place'.1 (place'.2 + 1) (by omega) aboveBottom' :=
      pixel_eq_of_pixel? _ _ _ _ (alike.below inner)
    rw [energyAt, energyAt, dif_pos ⟨⟨afterLeft, beforeRight⟩, belowTop, aboveBottom⟩,
      dif_pos ⟨⟨afterLeft', beforeRight'⟩, belowTop', aboveBottom'⟩, left, right, above, below]
  · have border := mt alike.inner_iff.2 inner
    rw [energyAt_of_border _ inner, energyAt_of_border _ border]

end

/-- Away from the seam, there is around a place of what is left what was around the place that it comes from. -/
theorem Removed.alikeAround {view : View π} {axis : Axis} {seam : Seam} {image : Image π}
    (removed : view.Removed axis seam image) (fits : seam.Fits (view.along axis).height (view.along axis).width)
    {place line gap : Nat} (hx : place < (view.along axis).width - 1) (hy : line < (view.along axis).height)
    (entry : seam[line]? = some gap) (far : place + 2 ≤ gap ∨ gap < place) :
    (image.view.along axis).AlikeAround (view.along axis) (place, line) (skip gap place, line) := by
  have width_eq := removed.width_eq
  have height_eq := removed.height_eq
  have within := (fits.inside_of_entry entry).2
  obtain ⟨shift, side, moves⟩ := exists_shift far
  rw [moves place gap (Or.inl ⟨rfl, by unfold Seam.Adjacent; omega⟩)]
  constructor
  · unfold Inner
    simp only
    omega
  all_goals
    rintro ⟨⟨afterLeft, beforeRight⟩, belowTop, aboveBottom⟩
    simp only at afterLeft beforeRight belowTop aboveBottom ⊢
  · have moved := moves (place - 1) gap (Or.inl ⟨rfl, by unfold Seam.Adjacent; omega⟩)
    rw [removed.pixel?_eq _ _ gap (by omega) hy entry, moved, Nat.sub_add_comm afterLeft]
  · have moved := moves (place + 1) gap (Or.inl ⟨rfl, by unfold Seam.Adjacent; omega⟩)
    rw [removed.pixel?_eq _ _ gap (by omega) hy entry, moved, Nat.add_right_comm]
  · obtain ⟨near, entry', -⟩ := fits.exists_entry (show line - 1 < (view.along axis).height by omega)
    have close : Seam.Adjacent near gap := fits.adjacent entry' (by rwa [Nat.sub_add_cancel belowTop])
    have moved := moves place near (Or.inr ⟨close.symm, rfl⟩)
    rw [removed.pixel?_eq _ _ near hx (by omega) entry', moved]
  · obtain ⟨near, entry', -⟩ := fits.exists_entry (show line + 1 < (view.along axis).height by omega)
    have moved := moves place near (Or.inr ⟨fits.adjacent entry entry', rfl⟩)
    rw [removed.pixel?_eq _ _ near hx (by omega) entry', moved]

end View

/-! ## Energies that are refreshed -/

namespace Grid

variable {α : Type}

/-- The cell at `(x, y)`, which it is an error to look for outside of the grid. -/
def read (grid : Grid α) (x y : Nat) : Except CarveError α :=
  match grid.cell? x y with
  | some value => .ok value
  | none => .error (.outOfBounds x y grid.width grid.height)

end Grid

section

variable {π ε : Type} [Coloured π ε] [Add ε] [Sub ε] [Mul ε] [NatCast ε]

/-- The energy of one place of what is left after a removal, seen along `sight`, if `former` has the energies of the
    picture as it was. It is computed only if the seam has gone right before or right after the place. -/
def Image.refreshAt (left : Image π) (axis : Axis) (seam : Seam) (sight : Axis) (former : Grid ε) (x y : Nat) :
    Except CarveError ε :=
  let place := axis.turn (sight.turn (x, y))
  if seam[place.2]? = some place.1 ∨ seam[place.2]? = some (place.1 + 1) then
    (left.view.along sight).pixelEnergy x y
  else
    let source := sight.turn (axis.turn (seam.before place))
    former.read source.1 source.2

/-- The energies of all that is left after a removal, seen along `sight`. -/
def Image.refresh (left : Image π) (axis : Axis) (seam : Seam) (sight : Axis) (former : Grid ε) :
    Except CarveError (Grid ε) :=
  let view := left.view.along sight
  Grid.ofFnM view.width view.height (left.refreshAt axis seam sight former)

theorem View.read_energy (view : View π) {x y : Nat} (hx : x < view.width) (hy : y < view.height) :
    (view.energy : Grid ε).read x y = .ok (view.terrain.energy x y) := by
  rw [Grid.read, view.reads_energy.cell?_eq x y hx hy]

variable {view : View π} {axis : Axis} {seam : Seam} {image : Image π} {place line gap : Nat}

/-- Away from the seam a place has the energy of the place that it comes from, however both are seen. -/
theorem View.Removed.energy_eq (removed : view.Removed axis seam image)
    (fits : seam.Fits (view.along axis).height (view.along axis).width) (hx : place < (view.along axis).width - 1)
    (hy : line < (view.along axis).height) (entry : seam[line]? = some gap)
    (far : place + 2 ≤ gap ∨ gap < place) (sight : Axis) :
    let here := sight.turn (axis.turn (place, line))
    let source := sight.turn (axis.turn (skip gap place, line))
    ((image.view.along sight).terrain : Terrain ε).energy here.1 here.2 =
      (view.along sight).terrain.energy source.1 source.2 :=
  ((removed.alikeAround fits hx hy entry far).of_along.along sight).energy_eq

/-- Away from the seam a place shows the pixel that it has from another place, is on the border if that was, and has
    the energy that was there. -/
theorem View.Removed.keeps (removed : view.Removed axis seam image)
    (fits : seam.Fits (view.along axis).height (view.along axis).width) (hx : place < (view.along axis).width - 1)
    (hy : line < (view.along axis).height) (entry : seam[line]? = some gap)
    (far : place + 2 ≤ gap ∨ gap < place) :
    let before := axis.turn (skip gap place, line)
    let after := axis.turn (place, line)
    image.view.pixel? after.1 after.2 = view.pixel? before.1 before.2 ∧
    (image.view.Inner after ↔ view.Inner before) ∧
    ∃ energy : ε, view.energy.cell? before.1 before.2 = some energy ∧
      image.view.energy.cell? after.1 after.2 = some energy := by
  intro before after
  have inside : before.1 < view.width ∧ before.2 < view.height := inside_of_along (skip_lt hx) hy
  have inside' : after.1 < image.width ∧ after.2 < image.height :=
    image.view.inside_of_along (removed.width_eq ▸ hx) (removed.height_eq ▸ hy)
  have alike := removed.alikeAround fits hx hy entry far
  have shown := removed.pixel?_eq place line gap hx hy entry
  have same : (image.view.terrain : Terrain ε).energy after.1 after.2 = view.terrain.energy before.1 before.2 :=
    removed.energy_eq fits hx hy entry far .vertical
  refine ⟨?_, alike.of_along.inner_iff, _, view.reads_energy.cell?_eq _ _ inside.1 inside.2, ?_⟩
  · rwa [image.view.pixel?_along axis (place, line), view.pixel?_along axis (skip gap place, line)] at shown
  · rw [image.view.reads_energy.cell?_eq _ _ inside'.1 inside'.2]
    exact congrArg some same

theorem View.Removed.refreshAt_eq (removed : view.Removed axis seam image)
    (fits : seam.Fits (view.along axis).height (view.along axis).width) (sight : Axis) {x y : Nat}
    (hx : x < (image.view.along sight).width) (hy : y < (image.view.along sight).height) :
    image.refreshAt axis seam sight (view.along sight).energy x y =
      .ok (((image.view.along sight).terrain : Terrain ε).energy x y) := by
  obtain ⟨hx', hy'⟩ := inside_of_along hx hy
  obtain ⟨hu, hv⟩ := image.view.lt_along axis hx' hy'
  obtain ⟨⟨place, line⟩, here⟩ : ∃ place, axis.turn (sight.turn (x, y)) = place := ⟨_, rfl⟩
  simp only [Prod.mk.eta, here, removed.width_eq, removed.height_eq] at hu hv
  obtain ⟨gap, entry, -⟩ := fits.exists_entry hv
  simp only [Image.refreshAt, here, entry, Option.some.injEq]
  split
  · exact View.pixelEnergy_eq _ hx hy
  · next far =>
      have same : ((image.view.along sight).terrain : Terrain ε).energy _ _ = _ :=
        removed.energy_eq fits hu hv entry (by omega) sight
      have back : sight.turn (axis.turn (place, line)) = (x, y) := by
        rw [← here, axis.turn_turn, sight.turn_turn]
      have source : seam.before (place, line) = (skip gap place, line) := by
        rw [Seam.before_mk, entry, Option.getD_some]
      obtain ⟨inside_x, inside_y⟩ := inside_of_along (skip_lt hu) hv
      obtain ⟨hi, hj⟩ := view.lt_along sight inside_x inside_y
      rw [back] at same
      rw [same, source]
      exact View.read_energy _ hi hj

theorem View.Removed.refresh_eq (removed : view.Removed axis seam image)
    (fits : seam.Fits (view.along axis).height (view.along axis).width) (sight : Axis) :
    image.refresh axis seam sight (view.along sight).energy =
      .ok ((image.view.along sight).energy : Grid ε) := by
  rw [(image.view.along sight).energy_eq_ofFn]
  exact Grid.ofFnM_eq_pure fun x y hx hy => removed.refreshAt_eq fits sight hx hy

end

/-! ## Carving with refreshed energies -/

/-- An image and the energies of all its pixels, for each axis as they are computed of what is seen along it. Not in
    every arithmetic are the ones the others with their axes exchanged: the two distances that make up an energy are
    added in another order. -/
structure Charted (π ε : Type) where
  image : Image π
  energies : Axis → Grid ε

section

variable {π ε : Type} [Coloured π ε] [Add ε] [Sub ε] [Mul ε] [NatCast ε]

/-- The image with its energies, all of which are computed. -/
def Image.chart (image : Image π) : Charted π ε where
  image := image
  energies sight := (image.view.along sight).energy

@[simp] theorem Image.image_chart (image : Image π) : (image.chart : Charted π ε).image = image :=
  rfl

@[simp] theorem Image.energies_chart (image : Image π) (sight : Axis) :
    (image.chart : Charted π ε).energies sight = (image.view.along sight).energy :=
  rfl

/-- Takes the seam out of the image and refreshes the energies. -/
def Charted.remove (charted : Charted π ε) (axis : Axis) (seam : Seam) : Except CarveError (Charted π ε) := do
  let left ← charted.image.view.removeSeam axis seam
  let upright ← left.refresh axis seam .vertical (charted.energies .vertical)
  let turned ← left.refresh axis seam .horizontal (charted.energies .horizontal)
  let energies : Axis → Grid ε
    | .vertical => upright
    | .horizontal => turned
  return ⟨left, energies⟩

/-- A removal leaves the energies that would be computed of what it leaves. -/
theorem Charted.remove_chart (image : Image π) (axis : Axis) (seam : Seam) :
    (image.chart : Charted π ε).remove axis seam = (image.view.removeSeam axis seam).map Image.chart := by
  rw [remove, image.image_chart]
  cases succeeded : image.view.removeSeam axis seam with
  | error error => rfl
  | ok left =>
      obtain ⟨-, fits⟩ := View.fits_of_removeSeam succeeded
      have removed := View.removed_of_removeSeam succeeded
      have upright : _ = Except.ok (left.view.along .vertical).energy := removed.refresh_eq fits .vertical
      have turned : _ = Except.ok (left.view.along .horizontal).energy := removed.refresh_eq fits .horizontal
      simp only [Image.energies_chart, bind, Except.bind, upright, turned]
      refine congrArg (fun energies => Except.ok (Charted.mk left energies)) ?_
      funext sight
      cases sight <;> rfl

variable [LT ε] [DecidableLT ε]

/-- The seam along `axis` through the energies at hand. -/
def Charted.findSeam (charted : Charted π ε) (rule : LeftEdgeRule) (axis : Axis) : Traced Seam := do
  let seam ← .ofExcept ((charted.energies axis).seam rule)
  Traced.report (.found axis seam)
  return seam

/-- Takes the seam along `axis` out of the image. -/
def Charted.cut (charted : Charted π ε) (rule : LeftEdgeRule) (axis : Axis) : Traced (Charted π ε) := do
  let seam ← charted.findSeam rule axis
  .ofExcept (charted.remove axis seam)

/-- One step of a planned carving. -/
def Charted.step (rule : LeftEdgeRule) (charted : Charted π ε) (cut : Cut) : Traced (Charted π ε) := do
  let smaller ← charted.cut rule cut.axis
  Traced.report (.cut cut.phase smaller.image.width smaller.image.height)
  return smaller

theorem Charted.findSeam_chart (image : Image π) (rule : LeftEdgeRule) (axis : Axis) :
    (image.chart : Charted π ε).findSeam rule axis = image.view.findSeam rule axis :=
  rfl

theorem Charted.cut_chart (image : Image π) (rule : LeftEdgeRule) (axis : Axis) :
    (image.chart : Charted π ε).cut rule axis = (image.cut rule axis).retold id Image.chart := by
  rw [cut, findSeam_chart, ← (image.view.findSeam rule axis).retold_id]
  refine Traced.bind_eq_retold ?_
  intro seam
  exact congrArg Traced.ofExcept (remove_chart image axis seam)

theorem Charted.step_chart (rule : LeftEdgeRule) (image : Image π) (cut : Cut) :
    (image.chart : Charted π ε).step rule cut = (image.step rule cut).retold id Image.chart := by
  rw [step, cut_chart]
  exact Traced.bind_eq_retold fun smaller => rfl

/-- The image carved down to the given size. Energies are computed before the first cut and refreshed after each. -/
def Image.carveRefreshing (image : Image π) (rule : LeftEdgeRule) (width height : Nat) : Traced (Image π) :=
  if image.width < width ∨ image.height < height then
    .fail (.upscale image.width image.height width height)
  else do
    let schedule : Schedule := { columns := image.width - width, rows := image.height - height }
    let smaller ← schedule.toList.foldlM (Charted.step rule) image.chart
    return smaller.image

theorem Image.carveRefreshing_eq_carve (image : Image π) (rule : LeftEdgeRule) (width height : Nat) :
    image.carveRefreshing rule width height = image.carve rule width height := by
  unfold carveRefreshing carve
  split
  · rfl
  · let schedule : Schedule := { columns := image.width - width, rows := image.height - height }
    have loop : (schedule.toList.map id).foldlM (Charted.step rule) (image.chart : Charted π ε) =
        (schedule.toList.foldlM (Image.step rule) image).retold id Image.chart :=
      Traced.foldlM_eq_retold (Charted.step_chart rule) _ _
    rw [List.map_id] at loop
    calc schedule.toList.foldlM (Charted.step rule) image.chart >>= fun smaller => pure smaller.image
      _ = schedule.toList.foldlM (Image.step rule) image := by
        rw [loop]
        exact Traced.retold_bind_pure image_chart _
      _ = image.cutAll rule schedule := (image.cutAll_eq_foldlM rule schedule).symm

/-- A removal moves every pixel that is two places or more away from the seam to a place with the energy that the pixel
    had before, on the border or not as it was before. So the energies of what is left, however it is seen, are there
    once those next to the seam are refreshed, and a carving that refreshes them after each of its cuts runs like the
    one that computes all energies for each cut. -/
theorem View.removal_keeps_energies (view : View π) :
    (∀ axis seam image, view.removeSeam axis seam = .ok image →
      (∀ place line gap, place < (view.along axis).width → seam[line]? = some gap →
        place + 2 ≤ gap ∨ gap + 2 ≤ place →
        let before := axis.turn (place, line)
        let after := axis.turn (if place < gap then place else place - 1, line)
        image.view.pixel? after.1 after.2 = view.pixel? before.1 before.2 ∧
        (image.view.Inner after ↔ view.Inner before) ∧
        ∃ energy : ε, view.energy.cell? before.1 before.2 = some energy ∧
          image.view.energy.cell? after.1 after.2 = some energy) ∧
      ∀ sight, image.refresh axis seam sight (view.along sight).energy =
        .ok ((image.view.along sight).energy : Grid ε)) ∧
    ∀ (image : Image π) (rule : LeftEdgeRule) (width height : Nat),
      image.carveRefreshing rule width height = image.carve rule width height := by
  refine ⟨?_, fun image rule width height => image.carveRefreshing_eq_carve rule width height⟩
  intro axis seam image succeeded
  obtain ⟨-, fits⟩ := fits_of_removeSeam succeeded
  have removed := removed_of_removeSeam succeeded
  refine ⟨?_, fun sight => removed.refresh_eq fits sight⟩
  intro place line gap within entry far
  obtain ⟨crossed, gap_within⟩ := fits.inside_of_entry entry
  obtain ⟨moved, moved_eq, source, stays, away⟩ := exists_moved_of_far within gap_within far
  rw [moved_eq, ← source]
  exact removed.keeps fits stays crossed entry away

theorem View.removal_keeps_energies_block :
    let view := (Image.block (0 : Int) 1).view
    ∃ image, view.removeSeam .vertical [2, 3, 3, 2] = .ok image ∧ image.view.Inner (1, 1) ∧
      image.view.energy.cell? 1 1 = some 4 ∧
      image.refresh .vertical [2, 3, 3, 2] .horizontal view.transpose.energy = .ok image.view.transpose.energy := by
  intro view
  have fits : Seam.Fits [2, 3, 3, 2] view.height view.width := ⟨rfl, by decide, by decide⟩
  obtain ⟨image, succeeded, -⟩ := view.exists_removeSeam .vertical (by decide) fits
  obtain ⟨keeps, refreshed⟩ := view.removal_keeps_energies.1 .vertical [2, 3, 3, 2] image succeeded
  obtain ⟨-, inner, energy, before, after⟩ := keeps 1 1 3 (by decide) rfl (by decide)
  have known : view.energy.cell? 1 1 = some (4 : Int) := by decide +kernel
  obtain rfl : 4 = energy := Option.some.inj (known.symm.trans before)
  exact ⟨image, succeeded, inner.2 (by decide), after, refreshed .horizontal⟩

end

end SeamCarving

import SeamCarving.Proofs.Carving.Ending

/-!
# What a seam depends on

A seam ends in the first column of the last row but one and moves by one column with each row, so the costs that
decide it belong to a cone of cells that gets narrower towards that end. Outside of the cone only one energy of
each row is read, where a left edge looks ahead. Two terrains that agree on these places have the same seam, and
as an energy depends on the neighbours of its place, two pictures that agree on a slightly larger triangle have the
same seam (`findSeam_of_sameOn_triangle`).
-/

namespace SeamCarving

section

variable {ε : Type} [LT ε] [DecidableLT ε]

/-- The choice of a parent reads costs up to the column after its own, and looks ahead from the left edge
    alone. -/
theorem Terrain.choose_congr {width x : Nat} {rule : LeftEdgeRule} {above above' : Nat → ε} {ahead ahead' : ε}
    (near : ∀ column, column ≤ x + 1 → above column = above' column)
    (edge : x = 0 → ahead = ahead') :
    choose width rule above ahead x = choose width rule above' ahead' x := by
  have straight := near x (by omega)
  have right := near (x + 1) (by omega)
  cases x with
  | zero =>
      have rival : rule.rival above ahead = rule.rival above' ahead' := by
        cases rule with
        | lookahead => exact edge rfl
        | previous => exact right
      simp only [choose, rival, straight]
  | succ left =>
      have leftUp := near left (by omega)
      simp only [choose, straight, right, leftUp]

end

namespace Terrain

variable {ε : Type}

/-- Two terrains of one size have the same energies wherever a seam that ends in the first column depends on
    them. -/
structure Agree (first second : Terrain ε) : Prop where
  width_eq : first.width = second.width
  height_eq : first.height = second.height
  /-- The cells from which the first column of the last row but one can be reached. -/
  cone : ∀ x y, x + y + 2 ≤ first.height → first.energy x y = second.energy x y
  /-- The cells that a left edge looks ahead to. -/
  ahead : ∀ y, y < first.height → first.energy 1 y = second.energy 1 y

variable [LT ε] [DecidableLT ε] [Add ε] {first second : Terrain ε}

theorem Agree.parent_eq (agree : first.Agree second) (rule : LeftEdgeRule) {x y : Nat}
    (inside : x + y + 3 ≤ first.height)
    (costs : ∀ column, column ≤ x + 1 → first.cost rule y column = second.cost rule y column) :
    first.parent rule y x = second.parent rule y x := by
  unfold parent
  rw [← agree.width_eq]
  refine choose_congr costs ?_
  rintro rfl
  exact agree.ahead (y + 2) (by omega)

/-- The cone gets wider towards the first row, so it holds the parents of all its cells. -/
theorem Agree.cost_eq (agree : first.Agree second) (rule : LeftEdgeRule) {x y : Nat}
    (inside : x + y + 2 ≤ first.height) : first.cost rule y x = second.cost rule y x := by
  induction y generalizing x with
  | zero => exact agree.cone x 0 inside
  | succ y ih =>
      have parents : first.parent rule y x = second.parent rule y x :=
        agree.parent_eq rule (by omega) fun column near => ih (by omega)
      have near := (first.adjacent_parent rule y x).2
      have inherited : first.cost rule y (first.parent rule y x) = second.cost rule y (first.parent rule y x) :=
        ih (by omega)
      rw [cost_succ, cost_succ, agree.cone x (y + 1) inside, inherited, parents]

theorem Agree.ascent_eq (agree : first.Agree second) (rule : LeftEdgeRule) {x y : Nat}
    (inside : x + y + 2 ≤ first.height) : first.ascent rule y x = second.ascent rule y x := by
  induction y generalizing x with
  | zero => rfl
  | succ y ih =>
      have parents : first.parent rule y x = second.parent rule y x :=
        agree.parent_eq rule (by omega) fun column near => agree.cost_eq rule (by omega)
      have near := (first.adjacent_parent rule y x).2
      have above : first.ascent rule y (first.parent rule y x) = second.ascent rule y (first.parent rule y x) :=
        ih (by omega)
      rw [ascent, ascent, above, parents]

theorem Agree.seam_eq (agree : first.Agree second) (rule : LeftEdgeRule) (high : 2 ≤ first.height)
    (left : first.endpoint = 0) (left' : second.endpoint = 0) : first.seam rule = second.seam rule := by
  have above : first.ascent rule (first.height - 2) 0 = second.ascent rule (first.height - 2) 0 :=
    agree.ascent_eq rule (by omega)
  rw [seam, seam, left, left', ← agree.height_eq, above]

end Terrain

section

variable {ε : Type} [Add ε] [Sub ε] [Mul ε] [NatCast ε]

/-- The energy of a place depends on the sizes and on the four neighbours of the place. -/
theorem energyAt_congr {width height width' height' x y : Nat}
    {colour : (x y : Nat) → x < width → y < height → Rgb ε}
    {colour' : (x y : Nat) → x < width' → y < height' → Rgb ε}
    (width_eq : width = width') (height_eq : height = height')
    (across : ∀ i (hi : i < width) (hy : y < height), i + 1 = x ∨ i = x + 1 →
      colour i y hi hy = colour' i y (width_eq ▸ hi) (height_eq ▸ hy))
    (down : ∀ j (hx : x < width) (hj : j < height), j + 1 = y ∨ j = y + 1 →
      colour x j hx hj = colour' x j (width_eq ▸ hx) (height_eq ▸ hj)) :
    energyAt width height colour x y = energyAt width' height' colour' x y := by
  subst width_eq height_eq
  unfold energyAt
  by_cases inner : (0 < x ∧ x + 1 < width) ∧ (0 < y ∧ y + 1 < height)
  · rw [dif_pos inner, dif_pos inner]
    have left := across (x - 1) (by omega) (by omega) (Or.inl (by omega))
    have right := across (x + 1) (by omega) (by omega) (Or.inr rfl)
    have up := down (y - 1) (by omega) (by omega) (Or.inl (by omega))
    have below := down (y + 1) (by omega) (by omega) (Or.inr rfl)
    rw [left, right, up, below]
  · rw [dif_neg inner, dif_neg inner]

end

namespace View

variable {π : Type}

/-- Both views show the same pixel at every place of the first that belongs to the region. -/
def SameOn (first second : View π) (region : Nat → Nat → Prop) : Prop :=
  ∀ x y, x < first.width → y < first.height → region x y → first.pixel? x y = second.pixel? x y

theorem SameOn.mono {first second : View π} {region smaller : Nat → Nat → Prop}
    (same : first.SameOn second region) (within : ∀ x y, smaller x y → region x y) :
    first.SameOn second smaller := by
  intro x y hx hy inside
  exact same x y hx hy (within x y inside)

theorem SameOn.transpose {first second : View π} {region : Nat → Nat → Prop}
    (same : first.SameOn second region) :
    first.transpose.SameOn second.transpose fun x y => region y x := by
  intro x y hx hy inside
  rw [width_transpose] at hx
  rw [height_transpose] at hy
  rw [pixel?_transpose, pixel?_transpose]
  exact same y x hy hx inside

theorem SameOn.pixel_eq {first second : View π} {region : Nat → Nat → Prop} {x y : Nat}
    (same : first.SameOn second region) (hx : x < first.width) (hy : y < first.height)
    (hx' : x < second.width) (hy' : y < second.height) (inside : region x y) :
    first.pixel x y hx hy = second.pixel x y hx' hy' :=
  pixel_eq_of_pixel? hx hy hx' hy' (same x y hx hy inside)

section

variable {ε : Type} [Coloured π ε] [Add ε] [Sub ε] [Mul ε] [NatCast ε] {first second : View π}

theorem SameOn.energy_eq {bound x y : Nat} (same : first.SameOn second fun x y => x + y ≤ bound)
    (width_eq : first.width = second.width) (height_eq : first.height = second.height)
    (inside : x + y + 1 ≤ bound) :
    (first.terrain : Terrain ε).energy x y = second.terrain.energy x y := by
  rw [energy_terrain, energy_terrain]
  refine energyAt_congr width_eq height_eq ?_ ?_
  · intro i hi hy next
    rw [same.pixel_eq hi hy (width_eq ▸ hi) (height_eq ▸ hy) (by omega)]
  · intro j hx hj next
    rw [same.pixel_eq hx hj (width_eq ▸ hx) (height_eq ▸ hj) (by omega)]

theorem SameOn.agree_terrain (same : first.SameOn second fun x y => x + y ≤ first.height)
    (width_eq : first.width = second.width) (height_eq : first.height = second.height) :
    (first.terrain : Terrain ε).Agree second.terrain := by
  refine ⟨width_eq, height_eq, ?_, ?_⟩
  · intro x y inside
    rw [height_terrain] at inside
    exact same.energy_eq width_eq height_eq (by omega)
  · intro y inside
    rw [height_terrain] at inside
    -- what is looked ahead to in the last row is outside the triangle, but there all is border
    by_cases last : y + 1 = first.height
    · rw [first.energy_of_border (by omega), second.energy_of_border (by omega)]
    · exact same.energy_eq width_eq height_eq (by omega)

variable [LT ε] [DecidableLT ε] [Std.Irrefl (· < · : ε → ε → Prop)]

theorem SameOn.findSeam_eq {axis : Axis} (rule : LeftEdgeRule)
    (same : (first.along axis).SameOn (second.along axis) fun x y => x + y ≤ (first.along axis).height)
    (width_eq : (first.along axis).width = (second.along axis).width)
    (height_eq : (first.along axis).height = (second.along axis).height)
    (wide : 3 ≤ (first.along axis).width) (high : 3 ≤ (first.along axis).height) :
    ∃ seam, (first.findSeam rule axis).outcome = .ok seam ∧
      (second.findSeam rule axis).outcome = .ok seam := by
  have large := (first.large_along axis).1 ⟨wide, high⟩
  have large' := (second.large_along axis).1 ⟨width_eq ▸ wide, height_eq ▸ high⟩
  have agree : ((first.along axis).terrain : Terrain ε).Agree (second.along axis).terrain :=
    same.agree_terrain width_eq height_eq
  have seams : first.seamAlong rule axis = second.seamAlong rule axis :=
    agree.seam_eq rule (show 2 ≤ (first.along axis).height by omega)
      (first.along axis).endpoint_terrain (second.along axis).endpoint_terrain
  refine ⟨_, by rw [first.findSeam_of_large rule axis large], ?_⟩
  rw [second.findSeam_of_large rule axis large', seams]

/-- Two pictures of one size have the same vertical seam if they agree on the triangle between the upper left
    corner, the column that is as far to the right as the picture is high, and the row that is as far down, and
    the same horizontal seam if they agree on the triangle that belongs to their width. So what is to the right
    of that column has no part in the vertical seam. -/
theorem findSeam_of_sameOn_triangle (rule : LeftEdgeRule) (width_eq : first.width = second.width)
    (height_eq : first.height = second.height) (wide : 3 ≤ first.width) (high : 3 ≤ first.height) :
    (first.SameOn second (fun x y => x + y ≤ first.height) →
      ∃ seam, (first.findSeam rule .vertical).outcome = .ok seam ∧
        (second.findSeam rule .vertical).outcome = .ok seam) ∧
    (first.SameOn second (fun x y => x + y ≤ first.width) →
      ∃ seam, (first.findSeam rule .horizontal).outcome = .ok seam ∧
        (second.findSeam rule .horizontal).outcome = .ok seam) ∧
    (first.SameOn second (fun x _ => x ≤ first.height) →
      ∃ seam, (first.findSeam rule .vertical).outcome = .ok seam ∧
        (second.findSeam rule .vertical).outcome = .ok seam) := by
  refine ⟨?_, ?_, ?_⟩
  · intro same
    exact SameOn.findSeam_eq rule same width_eq height_eq wide high
  · intro same
    have turned : first.transpose.SameOn second.transpose fun x y => x + y ≤ first.transpose.height := by
      refine same.transpose.mono ?_
      intro x y inside
      rw [height_transpose] at inside
      omega
    exact SameOn.findSeam_eq rule turned (by simpa using height_eq) (by simpa using width_eq)
      (by simpa using high) (by simpa using wide)
  · intro same
    have triangle : first.SameOn second fun x y => x + y ≤ first.height :=
      same.mono fun x y inside => by omega
    exact SameOn.findSeam_eq rule triangle width_eq height_eq wide high

end

end View

/-- A dark picture of six columns and three rows, with another shade wherever `lit` says so. -/
def Image.litUp (lit : Nat → Nat → Bool) (shade : UInt8) : Image (Pixel .luma UInt8) :=
  .ofFn 6 3 fun x y _ _ => .ofShade (if lit x y then shade else 0)

theorem Image.pixel?_litUp (lit : Nat → Nat → Bool) (shade : UInt8) {x y : Nat} (hx : x < 6) (hy : y < 3) :
    (litUp lit shade).pixel? x y = some (.ofShade (if lit x y then shade else 0)) :=
  pixel?_ofFn _ hx hy

theorem View.sameOn_litUp (lit : Nat → Nat → Bool) (shade shade' : UInt8) :
    (Image.litUp lit shade).view.SameOn (Image.litUp lit shade').view fun x y => lit x y = false := by
  intro x y hx hy dark
  rw [Image.pixel?_view, Image.pixel?_view, Image.pixel?_litUp lit shade hx hy,
    Image.pixel?_litUp lit shade' hx hy, dark]
  rfl

theorem Image.size_litUp (lit : Nat → Nat → Bool) (shade : UInt8) :
    (litUp lit shade).view.width = 6 ∧ (litUp lit shade).view.height = 3 :=
  ⟨rfl, rfl⟩

theorem View.findSeam_of_sameOn_triangle_litUp :
    let dark := (Image.litUp (fun x y => decide (3 < x + y)) 0).view
    let bright := (Image.litUp (fun x y => decide (3 < x + y)) 255).view
    let dim := (Image.litUp (fun x _ => decide (3 < x)) 1).view
    let vivid := (Image.litUp (fun x _ => decide (3 < x)) 255).view
    ((dark.SameOn bright fun x y => x + y ≤ 3) ∧
      ∃ seam, (dark.findSeam .lookahead .vertical).outcome = .ok seam ∧
        (bright.findSeam .lookahead .vertical).outcome = .ok seam) ∧
    ((dark.transpose.SameOn bright.transpose fun x y => x + y ≤ 3) ∧
      ∃ seam, (dark.transpose.findSeam .previous .horizontal).outcome = .ok seam ∧
        (bright.transpose.findSeam .previous .horizontal).outcome = .ok seam) ∧
    ((dim.SameOn vivid fun x _ => x ≤ 3) ∧
      ∃ seam, (dim.findSeam .lookahead .vertical).outcome = .ok seam ∧
        (vivid.findSeam .lookahead .vertical).outcome = .ok seam) := by
  intro dark bright dim vivid
  have darkSize : dark.width = 6 ∧ dark.height = 3 := Image.size_litUp _ _
  have brightSize : bright.width = 6 ∧ bright.height = 3 := Image.size_litUp _ _
  have dimSize : dim.width = 6 ∧ dim.height = 3 := Image.size_litUp _ _
  have vividSize : vivid.width = 6 ∧ vivid.height = 3 := Image.size_litUp _ _
  have triangle : dark.SameOn bright fun x y => x + y ≤ 3 :=
    (sameOn_litUp (fun x y => decide (3 < x + y)) 0 255).mono fun x y inside => decide_eq_false (by omega)
  have turned : dark.transpose.SameOn bright.transpose fun x y => x + y ≤ 3 :=
    triangle.transpose.mono fun x y inside => by omega
  have columns : dim.SameOn vivid fun x _ => x ≤ 3 :=
    (sameOn_litUp (fun x _ => decide (3 < x)) 1 255).mono fun x y inside => decide_eq_false (by omega)
  clear_value dark bright dim vivid
  have upright := findSeam_of_sameOn_triangle .lookahead (show dark.width = bright.width by omega)
    (show dark.height = bright.height by omega) (by omega) (by omega)
  have sideways := findSeam_of_sameOn_triangle .previous
    (show dark.transpose.width = bright.transpose.width by simp; omega)
    (show dark.transpose.height = bright.transpose.height by simp; omega) (by simp; omega) (by simp; omega)
  have narrow := findSeam_of_sameOn_triangle .lookahead (show dim.width = vivid.width by omega)
    (show dim.height = vivid.height by omega) (by omega) (by omega)
  rw [darkSize.2] at upright
  rw [width_transpose, darkSize.2] at sideways
  rw [dimSize.2] at narrow
  exact ⟨⟨triangle, upright.1 triangle⟩, ⟨turned, sideways.2.1 turned⟩, columns, narrow.2.2 columns⟩

end SeamCarving

import SeamCarving.Proofs.Carving.Finding

/-!
# How a seam ends

The last row of energies is all border, so the search for its cheapest cell stops in the first column; and as
that row has no part in the costs, the seam stands in the first column of the row above it as well. From there
it can move by one column with each row only. Main statement: the end of every seam is the same whatever the
picture shows, and a rule that looks ahead fixes one entry more (`findSeam_ends_at_edge`).
-/

namespace SeamCarving

/-- The seam through so many lines ends on the first place of its last two lines, and so is never further from
    the first place than from the last line but one. -/
structure Seam.EndsAtEdge (seam : Seam) (lines : Nat) : Prop where
  last : seam[lines - 1]? = some 0
  lastButOne : seam[lines - 2]? = some 0
  le_distance : ∀ line, line ≤ lines - 2 → ∃ entry, seam[line]? = some entry ∧ entry ≤ lines - 2 - line

section

variable {ε : Type} [LT ε] [DecidableLT ε] [Add ε]

theorem Terrain.seam_endsAtEdge (terrain : Terrain ε) (rule : LeftEdgeRule) (high : 2 ≤ terrain.height)
    (left : terrain.endpoint = 0) : (terrain.seam rule).EndsAtEdge terrain.height := by
  have last := terrain.getElem?_seam_last rule high
  have lastButOne := terrain.getElem?_seam_lastButOne rule high
  rw [left] at last lastButOne
  refine ⟨last, lastButOne, ?_⟩
  intro line above
  obtain ⟨entry, found, bound⟩ := terrain.ascent_le rule (terrain.height - 2) 0 above
  refine ⟨entry, ?_, by omega⟩
  rw [terrain.getElem?_seam rule high (by omega), left]
  exact found

end

namespace View

section

variable {π ε : Type} [Coloured π ε] [Add ε] [Sub ε] [Mul ε] [NatCast ε] [LT ε] [DecidableLT ε]
  [Std.Irrefl (· < · : ε → ε → Prop)]

theorem endpoint_terrain (view : View π) :
    (view.terrain : Terrain ε).endpoint = 0 := by
  have even : ∀ x, x < view.width →
      (view.terrain : Terrain ε).energy x (view.height - 1) = borderEnergy := by
    intro x hx
    exact view.energy_of_border (by omega)
  exact leftmostLeast_eq_zero even

theorem seamAlong_endsAtEdge (view : View π) (rule : LeftEdgeRule) (axis : Axis)
    (large : 3 ≤ view.width ∧ 3 ≤ view.height) :
    (view.seamAlong rule axis).EndsAtEdge (view.along axis).height := by
  have sizes := (view.large_along axis).2 large
  exact Terrain.seam_endsAtEdge _ rule (show 2 ≤ (view.along axis).height by omega)
    (view.along axis).endpoint_terrain

end

section

variable {π : Type} [Coloured π Int]

theorem parent_lookahead (view : View π) {row : Nat} (last : view.height ≤ row + 4) :
    view.terrain.parent .lookahead (row + 1) 0 = 1 := by
  have rival : view.terrain.energy 1 (row + 3) = borderEnergy := view.energy_of_border (by omega)
  have own : view.terrain.energy 0 (row + 1) = borderEnergy := view.energy_of_border (by omega)
  have inherited := view.borderEnergy_le_cost .lookahead row (view.terrain.parent .lookahead row 0)
  have border := borderEnergy_pos
  have dearer : view.terrain.energy 1 (row + 3) < view.terrain.cost .lookahead (row + 1) 0 := by
    rw [Terrain.cost_succ, rival, own]
    omega
  rw [Terrain.parent, Terrain.choose]
  exact if_pos dearer

theorem seamAlong_lookahead (view : View π) (axis : Axis) (high : 4 ≤ (view.along axis).height) :
    ∃ before, view.seamAlong .lookahead axis = before ++ [1, 0, 0] := by
  obtain ⟨row, height_eq⟩ := Nat.exists_eq_add_of_le' high
  have left := (view.along axis).endpoint_terrain
  have turn := (view.along axis).parent_lookahead (Nat.le_of_eq height_eq)
  refine ⟨(view.along axis).terrain.ascent .lookahead row
    ((view.along axis).terrain.parent .lookahead row 1), ?_⟩
  rw [seamAlong, Terrain.seam, left, height_terrain, height_eq,
    show row + 4 - 2 = row + 1 + 1 by omega, Terrain.ascent, turn, Terrain.ascent]
  simp

end

/-- Every seam ends on the first place of its last two lines, whatever the pixels and the rule, as long as no
    number is less than itself. With exact numbers and the rule that looks ahead, a seam through four lines or
    more steps onto that place from the one next to it. -/
theorem findSeam_ends_at_edge :
    (∀ {π ε : Type} [Coloured π ε] [Add ε] [Sub ε] [Mul ε] [NatCast ε] [LT ε] [DecidableLT ε]
        [Std.Irrefl (· < · : ε → ε → Prop)] (view : View π) (rule : LeftEdgeRule),
      3 ≤ view.width → 3 ≤ view.height →
        (∃ seam, (view.findSeam rule .vertical).outcome = .ok seam ∧ seam.EndsAtEdge view.height) ∧
        (∃ seam, (view.findSeam rule .horizontal).outcome = .ok seam ∧ seam.EndsAtEdge view.width)) ∧
    (∀ {π : Type} [Coloured π Int] (view : View π), 3 ≤ view.width → 3 ≤ view.height →
      (4 ≤ view.height →
        ∃ above, (view.findSeam .lookahead .vertical).outcome = .ok (above ++ [1, 0, 0])) ∧
      (4 ≤ view.width →
        ∃ before, (view.findSeam .lookahead .horizontal).outcome = .ok (before ++ [1, 0, 0]))) := by
  constructor
  · intro π ε _ _ _ _ _ _ _ _ view rule wide high
    have vertical := view.seamAlong_endsAtEdge rule .vertical ⟨wide, high⟩
    have horizontal := view.seamAlong_endsAtEdge rule .horizontal ⟨wide, high⟩
    rw [along_vertical] at vertical
    rw [along_horizontal, height_transpose] at horizontal
    constructor
    · exact ⟨_, by rw [view.findSeam_of_large rule .vertical ⟨wide, high⟩], vertical⟩
    · exact ⟨_, by rw [view.findSeam_of_large rule .horizontal ⟨wide, high⟩], horizontal⟩
  · intro π _ view wide high
    constructor
    · intro higher
      obtain ⟨above, seam_eq⟩ := view.seamAlong_lookahead .vertical higher
      exact ⟨above, by rw [view.findSeam_of_large .lookahead .vertical ⟨wide, high⟩, seam_eq]⟩
    · intro wider
      obtain ⟨before, seam_eq⟩ := view.seamAlong_lookahead .horizontal (by simpa using wider)
      exact ⟨before, by rw [view.findSeam_of_large .lookahead .horizontal ⟨wide, high⟩, seam_eq]⟩

theorem findSeam_ends_at_edge_block :
    (3 ≤ (Image.block (0 : Float) 255).view.width ∧ 3 ≤ (Image.block (0 : Float) 255).view.height ∧
      (∃ seam, ((Image.block (0 : Float) 255).view.findSeam .previous .vertical).outcome = .ok seam ∧
        seam.EndsAtEdge 4) ∧
      (∃ seam, ((Image.block (0 : Float) 255).view.findSeam .previous .horizontal).outcome = .ok seam ∧
        seam.EndsAtEdge 4)) ∧
    (4 ≤ (Image.block (0 : Int) 255).view.width ∧ 4 ≤ (Image.block (0 : Int) 255).view.height ∧
      (∃ above, ((Image.block (0 : Int) 255).view.findSeam .lookahead .vertical).outcome =
        .ok (above ++ [1, 0, 0])) ∧
      (∃ before, ((Image.block (0 : Int) 255).view.findSeam .lookahead .horizontal).outcome =
        .ok (before ++ [1, 0, 0]))) := by
  have floats := findSeam_ends_at_edge.1 (Image.block (0 : Float) 255).view .previous (by decide) (by decide)
  have integers := findSeam_ends_at_edge.2 (Image.block (0 : Int) 255).view (by decide) (by decide)
  exact ⟨⟨by decide, by decide, floats⟩, by decide, by decide, integers.1 (by decide),
    integers.2 (by decide)⟩

end View

end SeamCarving

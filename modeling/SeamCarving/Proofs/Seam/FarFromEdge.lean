import SeamCarving.Proofs.Seam.Recurrence

/-!
# Far from the left edge

The rule for the left edge decides the parents of the first column alone, but a cost is inherited by the cells next
to it, so with each row one more column may hold costs that depend on the rule. A path climbs by one column a row at
most, so one that starts far enough to the right never looks at such a cell. Main statement: a seam that ends at
least as many columns from the left edge as there are rows between the first and the last has no use for the rule
(`Grid.seam_eq_of_far_column`).
-/

namespace SeamCarving

variable {ε : Type} [LT ε] [DecidableLT ε]

namespace Terrain

/-- A cell that is not on the left edge looks at the three costs above it, and at no rule. -/
theorem choose_eq_of_pos {width x : Nat} {above above' : Nat → ε} (rule rule' : LeftEdgeRule) (ahead ahead' : ε)
    (inner : 0 < x) (near : ∀ column, Seam.Adjacent column x → above column = above' column) :
    choose width rule above ahead x = choose width rule' above' ahead' x := by
  obtain ⟨left, rfl⟩ := Nat.exists_eq_add_one.2 inner
  have straight := near (left + 1) ⟨by omega, by omega⟩
  have leftUp := near left ⟨by omega, by omega⟩
  have rightUp := near (left + 2) ⟨by omega, by omega⟩
  simp only [choose, straight, leftUp, rightUp]

variable [Add ε] (terrain : Terrain ε) (rule rule' : LeftEdgeRule)

theorem parent_eq_of_near {x y : Nat} (inner : 0 < x)
    (near : ∀ column, Seam.Adjacent column x → terrain.cost rule y column = terrain.cost rule' y column) :
    terrain.parent rule y x = terrain.parent rule' y x :=
  choose_eq_of_pos rule rule' _ _ inner near

/-- The rule takes part in the costs of a row only in as many columns as there are rows above it. -/
theorem cost_eq_of_far {x y : Nat} (far : y ≤ x) : terrain.cost rule y x = terrain.cost rule' y x := by
  induction y generalizing x with
  | zero => rfl
  | succ y ih =>
      have chosen : terrain.parent rule y x = terrain.parent rule' y x := by
        refine terrain.parent_eq_of_near rule rule' (by omega) ?_
        rintro column ⟨near, -⟩
        exact ih (by omega)
      have near := (terrain.adjacent_parent rule' y x).1
      have inherited := ih (show y ≤ terrain.parent rule' y x by omega)
      rw [cost_succ, cost_succ, chosen, inherited]

theorem parent_eq_of_far {x y : Nat} (far : y + 1 ≤ x) : terrain.parent rule y x = terrain.parent rule' y x := by
  refine terrain.parent_eq_of_near rule rule' (by omega) ?_
  rintro column ⟨near, -⟩
  exact terrain.cost_eq_of_far rule rule' (by omega)

/-- A path that starts that far to the right stays as far, in each row of its own, all the way up. -/
theorem ascent_eq_of_far {x y : Nat} (far : y ≤ x) : terrain.ascent rule y x = terrain.ascent rule' y x := by
  induction y generalizing x with
  | zero => rfl
  | succ y ih =>
      have near := (terrain.adjacent_parent rule' y x).1
      have above := ih (show y ≤ terrain.parent rule' y x by omega)
      rw [ascent, ascent, terrain.parent_eq_of_far rule rule' far, above]

theorem seam_eq_of_far (far : terrain.height - 2 ≤ terrain.endpoint) :
    terrain.seam rule = terrain.seam rule' := by
  rw [seam, seam, terrain.ascent_eq_of_far rule rule' far]

end Terrain

namespace Grid

variable [Inhabited ε] [Add ε]

/-- Under either rule the seam ends in the same column, and if the number of this column is at least that of the
    rows between the first and the last, the whole seam is the same. A grid whose storage is too short for its sizes
    has no seam under either rule. -/
theorem seam_eq_of_far_column (energy : Grid ε) (wide : 3 ≤ energy.width) (high : 3 ≤ energy.height) :
    if energy.cells.size < energy.width * energy.height then
      ∀ rule, energy.seam rule = .error (.badDimensions energy.width energy.height energy.cells.size)
    else
      ∃ column, (∀ rule, ∃ seam, energy.seam rule = .ok seam ∧ seam[energy.height - 1]? = some column) ∧
        (energy.height - 2 ≤ column → ∃ seam, ∀ rule, energy.seam rule = .ok seam) := by
  split
  · next short =>
      intro rule
      exact seam_of_short rule short wide high
  · next enough =>
      have stored := Nat.le_of_not_lt enough
      have large := large_terrain wide high
      refine ⟨energy.terrain.endpoint, ?_, ?_⟩
      · intro rule
        exact ⟨_, seam_eq_of_stored rule stored wide high, energy.terrain.getElem?_seam_last rule large.2⟩
      · intro far
        refine ⟨energy.terrain.seam default, ?_⟩
        intro rule
        rw [seam_eq_of_stored rule stored wide high, energy.terrain.seam_eq_of_far rule default far]

end Grid

/-- Three lanes in which the cost of a cell depends on the rule, above the given last row. -/
def Grid.forked (bottom : Float × Float × Float) : Grid Float :=
  ⟨3, 4, #[5, 1, 5, 0, 2, 5, 0, 9, 0, bottom.1, bottom.2.1, bottom.2.2]⟩

theorem Grid.seam_eq_of_far_column_forked :
    let energy := forked (1, 1, 0)
    3 ≤ energy.width ∧ 3 ≤ energy.height ∧
    energy.terrain.cost .lookahead 1 0 ≠ energy.terrain.cost .previous 1 0 ∧
    ∃ seam, seam[3]? = some 2 ∧ energy.height - 2 ≤ 2 ∧ ∀ rule, energy.seam rule = .ok seam := by
  intro energy
  have wide : 3 ≤ energy.width := by decide
  have high : 3 ≤ energy.height := by decide
  have enough : ¬ energy.cells.size < energy.width * energy.height := by decide
  have far := seam_eq_of_far_column energy wide high
  rw [if_neg enough] at far
  obtain ⟨column, ends, same⟩ := far
  have known : energy.seam .lookahead = .ok [1, 1, 2, 2] := by decide +kernel
  obtain ⟨seam, found, last⟩ := ends .lookahead
  obtain rfl : [1, 1, 2, 2] = seam := Except.ok.inj (known.symm.trans found)
  obtain rfl : 2 = column := Option.some.inj last
  obtain ⟨shared, all⟩ := same (by decide)
  obtain rfl : [1, 1, 2, 2] = shared := Except.ok.inj (known.symm.trans (all .lookahead))
  exact ⟨wide, high, by decide +kernel, _, rfl, by decide, all⟩

/-- One column further to the left the rules may part. -/
example : (Grid.forked (1, 0, 1)).seam .lookahead = .ok [1, 1, 1, 1] ∧
    (Grid.forked (1, 0, 1)).seam .previous = .ok [1, 0, 1, 1] := by
  decide +kernel

end SeamCarving

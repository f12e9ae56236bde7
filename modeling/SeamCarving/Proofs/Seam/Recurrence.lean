import SeamCarving.Proofs.Energy.FloatOrder
import SeamCarving.Proofs.Seam.Relaxation

/-!
# The seam of a grid by recurrence

A filled grid shows a terrain, and the seam through the grid is the seam of this terrain: its costs are never
written into a table, its last column comes from the last row alone, and every other column is the parent of the
one below it. Main statement: the search answers exactly that seam (`Grid.seam_follows_recurrence`). Among floats
that are numbers the last column is the leftmost of the cheapest; what is not a number takes part in the search
as well, but has no place in an order.
-/

namespace SeamCarving

variable {ε : Type}

/-- The terrain that a grid shows. Outside of the grid, where no search looks, all energies are the same. -/
def Grid.terrain [Inhabited ε] (energy : Grid ε) : Terrain ε where
  width := energy.width
  height := energy.height
  energy x y := (energy.cell? x y).getD default

section

variable [Inhabited ε] {energy : Grid ε}

@[simp] theorem Grid.width_terrain : energy.terrain.width = energy.width :=
  rfl

@[simp] theorem Grid.height_terrain : energy.terrain.height = energy.height :=
  rfl

theorem Grid.large_terrain (wide : 3 ≤ energy.width) (high : 3 ≤ energy.height) :
    2 ≤ energy.terrain.width ∧ 2 ≤ energy.terrain.height := by
  rw [width_terrain, height_terrain]
  omega

theorem Grid.reads_terrain_of_stored (stored : energy.width * energy.height ≤ energy.cells.size) :
    energy.Reads energy.terrain.width energy.terrain.height energy.terrain.energy := by
  refine ⟨rfl, rfl, ?_⟩
  intro x y hx hy
  obtain ⟨cell, found⟩ := exists_cell?_of_stored stored hx hy
  simp only [terrain, found, Option.getD_some]

theorem Grid.reads_terrain (filled : energy.WellFormed) :
    energy.Reads energy.terrain.width energy.terrain.height energy.terrain.energy :=
  reads_terrain_of_stored (Nat.le_of_eq filled.symm)

end

namespace Terrain

variable [LT ε] [DecidableLT ε]

/-- The endpoint depends on the last row alone, whatever stands above it and however many rows there are. -/
theorem endpoint_congr {first second : Terrain ε} (width_eq : first.width = second.width)
    (bottom : ∀ x, x < first.width →
      first.energy x (first.height - 1) = second.energy x (second.height - 1)) :
    first.endpoint = second.endpoint := by
  rw [endpoint, endpoint, ← width_eq]
  exact leftmostLeast_congr bottom

variable [Add ε]

/-- The seam read from its end: it stands in the endpoint of the terrain on the last two rows, and above them
    each entry is the parent of the entry of the row below. -/
structure Follows (terrain : Terrain ε) (rule : LeftEdgeRule) (seam : Seam) : Prop where
  length_eq : seam.length = terrain.height
  last : seam[terrain.height - 1]? = some terrain.endpoint
  lastButOne : seam[terrain.height - 2]? = some terrain.endpoint
  climbs : ∀ y x, y + 2 < terrain.height → seam[y + 1]? = some x →
    seam[y]? = some (terrain.parent rule y x)

theorem seam_follows (terrain : Terrain ε) (rule : LeftEdgeRule) (high : 2 ≤ terrain.height) :
    terrain.Follows rule (terrain.seam rule) := by
  constructor
  · exact terrain.length_seam rule high
  · exact terrain.getElem?_seam_last rule high
  · exact terrain.getElem?_seam_lastButOne rule high
  · intro y x above here
    have passed := terrain.take_seam rule high (by omega) here
    have read : (terrain.seam rule)[y]? = (terrain.ascent rule (y + 1) x)[y]? := by
      rw [← passed, List.getElem?_take_of_lt (by omega)]
    have last := terrain.getLast?_ascent rule y (terrain.parent rule y x)
    rw [List.getLast?_eq_getElem?, length_ascent] at last
    rw [read, ascent, List.getElem?_append_left (by simp)]
    exact last

end Terrain

namespace Grid

section

variable [Inhabited ε] [LT ε] [DecidableLT ε]

theorem endpoint_terrain_congr {energy other : Grid ε} (width_eq : other.width = energy.width)
    (bottom : ∀ x, x < energy.width →
      other.cell? x (other.height - 1) = energy.cell? x (energy.height - 1)) :
    other.terrain.endpoint = energy.terrain.endpoint := by
  refine Terrain.endpoint_congr width_eq ?_
  intro x hx
  have inside : x < energy.width := by
    rw [← width_eq]
    exact hx
  simp only [terrain, bottom x inside]

/-- The seam through a grid of three columns and rows or more is that of the terrain it shows, if its storage has a
    cell for each of them. -/
theorem seam_eq_of_stored [Add ε] {energy : Grid ε} (rule : LeftEdgeRule)
    (stored : energy.width * energy.height ≤ energy.cells.size) (wide : 3 ≤ energy.width)
    (high : 3 ≤ energy.height) : energy.seam rule = .ok (energy.terrain.seam rule) := by
  rw [seam_eq (reads_terrain_of_stored stored), width_terrain, height_terrain, if_neg (by omega)]

theorem seam_eq_seam_terrain [Add ε] {energy : Grid ε} (rule : LeftEdgeRule) (filled : energy.WellFormed)
    (wide : 3 ≤ energy.width) (high : 3 ≤ energy.height) :
    energy.seam rule = .ok (energy.terrain.seam rule) :=
  seam_eq_of_stored rule (Nat.le_of_eq filled.symm) wide high

end

/-- The search through a grid, which overwrites its energies with costs, answers the seam of the recurrence,
    which overwrites nothing, whatever the energies are and however they compare. The last two entries of the seam
    are equal, and any other grid with the same last row has them too. If the entries of the last row are floats
    and all are numbers, these entries name the leftmost of its least energies. -/
theorem seam_follows_recurrence :
    (∀ {ε : Type} [Inhabited ε] [Add ε] [LT ε] [DecidableLT ε] (energy : Grid ε) (rule : LeftEdgeRule),
      energy.WellFormed → 3 ≤ energy.width → 3 ≤ energy.height →
      ∃ seam, energy.seam rule = .ok seam ∧ seam = energy.terrain.seam rule ∧
        energy.terrain.Follows rule seam ∧
        ∀ (other : Grid ε) (rule' : LeftEdgeRule), other.WellFormed → 3 ≤ other.height →
          other.width = energy.width →
          (∀ x, x < energy.width →
            other.cell? x (other.height - 1) = energy.cell? x (energy.height - 1)) →
          ∃ seam', other.seam rule' = .ok seam' ∧
            seam'[other.height - 1]? = seam[energy.height - 1]? ∧
            seam'[other.height - 2]? = seam[energy.height - 2]?) ∧
    (∀ (energy : Grid Float) (rule : LeftEdgeRule),
      energy.WellFormed → 3 ≤ energy.width → 3 ≤ energy.height →
      (∀ x, x < energy.width → (energy.terrain.energy x (energy.height - 1)).isNaN = false) →
      ∃ seam column, energy.seam rule = .ok seam ∧ seam[energy.height - 1]? = some column ∧
        IsLeftmostLeast (fun x => energy.terrain.energy x (energy.height - 1)) energy.width column) := by
  constructor
  · intro ε _ _ _ _ energy rule filled wide high
    have follows := energy.terrain.seam_follows rule (large_terrain wide high).2
    refine ⟨_, seam_eq_seam_terrain rule filled wide high, rfl, follows, ?_⟩
    intro other rule' filled' high' width_eq bottom
    have endpoint_eq : other.terrain.endpoint = energy.terrain.endpoint :=
      endpoint_terrain_congr width_eq bottom
    have follows' := other.terrain.seam_follows rule' (large_terrain (by omega) high').2
    refine ⟨_, seam_eq_seam_terrain rule' filled' (by omega) high', ?_, ?_⟩
    · exact follows'.last.trans (by rw [endpoint_eq]; exact follows.last.symm)
    · exact follows'.lastButOne.trans (by rw [endpoint_eq]; exact follows.lastButOne.symm)
  · intro energy rule filled wide high numbers
    have follows := energy.terrain.seam_follows rule (large_terrain wide high).2
    have ranked : ∀ x x', x < energy.width → x' < energy.width →
        (energy.terrain.energy x (energy.height - 1) < energy.terrain.energy x' (energy.height - 1) ↔
          floatRank (energy.terrain.energy x (energy.height - 1)) <
            floatRank (energy.terrain.energy x' (energy.height - 1))) := by
      intro x x' hx hx'
      exact floatLt_iff_rank_lt (numbers x hx) (numbers x' hx')
    refine ⟨_, energy.terrain.endpoint, seam_eq_seam_terrain rule filled wide high, follows.last, ?_⟩
    exact isLeftmostLeast_leftmostLeast floatRank (by omega) ranked

/-- Four lanes whose last row is cheapest in the second column and in the third. -/
def tiedBottom (top : Float) : Grid Float :=
  ⟨4, 3, #[top, 1, 1, 1, 1, 1, 1, 1, 7, 3, 3, 3]⟩

theorem seam_follows_recurrence_tiedBottom :
    let odd := tiedBottom (0 / 0)
    let even : Grid Float := ⟨4, 4, #[0, 9, 0, 9, 9, 0, 9, 0, 0, 9, 0, 9, 7, 3, 3, 3]⟩
    ((odd.WellFormed ∧ 3 ≤ odd.width ∧ 3 ≤ odd.height) ∧ (even.WellFormed ∧ 3 ≤ even.height) ∧
      even.width = odd.width ∧ (∀ x, x < 4 → even.cell? x 3 = odd.cell? x 2) ∧
      ∃ seam, odd.seam .lookahead = .ok seam ∧ seam = odd.terrain.seam .lookahead ∧
        odd.terrain.Follows .lookahead seam ∧
        ∃ seam', even.seam .previous = .ok seam' ∧ seam'[3]? = seam[2]? ∧ seam'[2]? = seam[1]?) ∧
    (∀ x, x < 4 → (odd.terrain.energy x 2).isNaN = false) ∧
      ∃ seam column, odd.seam .previous = .ok seam ∧ seam[2]? = some column ∧
        IsLeftmostLeast (fun x => odd.terrain.energy x 2) 4 column := by
  intro odd even
  have numbers : ∀ x, x < 4 → (odd.terrain.energy x 2).isNaN = false := by decide
  have bottom : ∀ x, x < 4 → even.cell? x 3 = odd.cell? x 2 := by decide
  have first := seam_follows_recurrence.1 odd .lookahead (by decide) (by decide) (by decide)
  obtain ⟨seam, found, equal, follows, others⟩ := first
  exact ⟨⟨by decide, by decide, rfl, bottom, seam, found, equal, follows,
    others even .previous (by decide) (by decide) rfl bottom⟩, numbers,
    seam_follows_recurrence.2 odd .previous (by decide) (by decide) (by decide) numbers⟩

end Grid

end SeamCarving

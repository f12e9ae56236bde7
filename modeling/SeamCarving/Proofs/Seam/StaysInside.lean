import SeamCarving.Proofs.Seam.Refusal
import SeamCarving.Proofs.Seam.Sweep
import SeamCarving.Seam.Search

/-!
# The search stays inside its tables

The search for a seam as a sweep over stored tables, with places that are machine words and accesses that check no
bounds. Its places come from arithmetic on the loop variables and from the parents that it has stored itself, so they
are within the tables as long as every stored parent is a column of the table. Main statement: whatever the energies
are and however they compare, every access is to a place of the tables, no word wraps around, the parents are always
columns next to their cells, and the sweep ends with what the search answers (`Grid.search_stays_inside`).
-/

namespace SeamCarving

variable {ε : Type}

/-- The table that is stored in words. -/
def Tables.tableau (tables : Tables ε) : Tableau ε :=
  ⟨tables.cost, tables.parent.map UInt32.toNat⟩

/-- The tables before any row is relaxed: all cells hold their energies and are their own parents. -/
def Tables.start (energy : Grid ε) : Tables ε :=
  ⟨energy, .ofFn energy.width energy.height fun x _ => .ofNat x⟩

namespace Tables

variable {energy : Grid ε}

theorem sound_start (filled : energy.WellFormed) (wide : energy.width < UInt32.size) :
    (start energy).Sound energy.width energy.height := by
  refine ⟨⟨filled, rfl, rfl⟩, ⟨Grid.wellFormed_ofFn _ _ _, rfl, rfl⟩, ?_⟩
  intro x y parent stored
  simp only [start, Grid.cell?_ofFn] at stored
  split at stored
  · next inside =>
      obtain rfl := Option.some.inj stored
      rw [UInt32.toNat_ofNat_of_lt' (Nat.lt_trans inside.1 wide)]
      exact ⟨inside.1, Nat.le_succ x, Nat.le_succ x⟩
  · contradiction

theorem tableau_start (wide : energy.width < UInt32.size) : (start energy).tableau = Tableau.start energy := by
  have columns : ∀ index : Fin (energy.width * energy.height),
      (UInt32.ofNat (index % energy.width)).toNat = index % energy.width := by
    intro index
    have some_column : 0 < energy.width := Nat.pos_of_mul_pos_right (Nat.zero_lt_of_lt index.isLt)
    exact UInt32.toNat_ofNat_of_lt' (Nat.lt_trans (Nat.mod_lt _ some_column) wide)
  simp only [tableau, start, Tableau.start, Grid.map, Grid.ofFn, Array.map_ofFn]
  congr 3
  funext index
  exact columns index

end Tables

/-! ## The choice of a parent -/

section

variable [LT ε] [DecidableLT ε]

/-- The rule chooses a column of the table, the one of the cell or one next to it. -/
theorem Grid.parentOf?_adjacent {cost : Grid ε} {rule : LeftEdgeRule} {x above parent : Nat} (wide : 2 ≤ cost.width)
    (hx : x < cost.width) (chosen : cost.parentOf? rule x above = some parent) :
    parent < cost.width ∧ Seam.Adjacent parent x := by
  unfold Seam.Adjacent
  cases x with
  | zero =>
      cases rule
      all_goals
        simp only [parentOf?, Option.bind_eq_bind, Option.bind_eq_some_iff] at chosen
        obtain ⟨_, -, _, -, chosen⟩ := chosen
        obtain rfl := Option.some.inj chosen
        split <;> omega
  | succ left =>
      simp only [parentOf?, Option.bind_eq_bind, Option.bind_eq_some_iff] at chosen
      obtain ⟨_, -, _, -, chosen⟩ := chosen
      split at chosen
      · obtain rfl := Option.some.inj chosen
        split <;> omega
      · obtain ⟨_, -, chosen⟩ := Option.bind_eq_some_iff.1 chosen
        obtain rfl := Option.some.inj chosen
        split
        · omega
        · split <;> omega

namespace Sweep

/-- The column of the parent of the cell in column `x` of row `y`. -/
def parentOf (rule : LeftEdgeRule) (width x y : UInt32) : Sweep ε UInt32 := do
  let last ← checked (Seam.wordDifference? width 1)
  let above ← checked (Seam.wordDifference? y 1)
  let up ← costAt x above
  if x = 0 then
    let right ← match rule with
      | .lookahead => do
          let ahead ← checked (wordSum? y 1)
          costAt 1 ahead
      | .previous => costAt 1 above
    return if right < up then 1 else 0
  else
    let left ← checked (Seam.wordDifference? x 1)
    let leftUp ← costAt left above
    if x = last then
      return if leftUp < up then left else x
    else
      let right ← checked (wordSum? x 1)
      let rightUp ← costAt right above
      return if rightUp < up ∧ leftUp < rightUp then right
        else if leftUp < up ∧ leftUp < rightUp then left
        else x

section

variable {rule : LeftEdgeRule} {tables : Tables ε} {wordWidth x y : UInt32} {width height above : Nat}
  (sound : tables.Sound width height) (width_eq : wordWidth.toNat = width) (wide : 3 ≤ width)
  (high : height < UInt32.size) (hx : x.toNat < width) (row_eq : y.toNat = above + 1) (inner : above + 2 < height)
include sound width_eq wide high hx row_eq inner

/-- A cell between the first row and the last asks for its neighbours above it, and at the left edge perhaps for one
    in the next row, and never for one that it does not have. -/
theorem safe_parentOf :
    (parentOf rule wordWidth x y).Safe width height
      (fun parent now => tables.cost.parentOf? rule x.toNat above = some parent.toNat ∧ tables = now) tables := by
  have one : (1 : UInt32).toNat = 1 := rfl
  have bound : width < UInt32.size := width_eq ▸ wordWidth.toNat_lt
  have cost_width := sound.cost.width_eq
  obtain ⟨last, last_difference, last_eq⟩ := Seam.wordDifference?_one (show 0 < wordWidth.toNat by omega)
  obtain ⟨up, up_difference, up_eq⟩ := Seam.wordDifference?_one (show 0 < y.toNat by omega)
  obtain rfl : up.toNat = above := by omega
  rw [parentOf, last_difference, up_difference, checked_some_bind, checked_some_bind]
  refine (safe_costAt sound bound hx (by omega)).bind ?_
  rintro straight _ - ⟨read, rfl⟩
  split
  · next edge =>
      subst edge
      have zero : (0 : UInt32).toNat = 0 := rfl
      have right_column : (1 : UInt32).toNat < width := by omega
      rw [zero] at read ⊢
      cases rule with
      | lookahead =>
          obtain ⟨ahead, ahead_sum, ahead_eq⟩ := wordSum?_one (show y.toNat + 1 < UInt32.size by omega)
          have ahead_row : ahead.toNat = up.toNat + 2 := by omega
          simp only [ahead_sum, checked_some_bind]
          refine (safe_costAt sound bound right_column (by omega)).bind ?_
          rintro right _ - ⟨readRight, rfl⟩
          rw [one, ahead_row] at readRight
          refine .done sound ⟨?_, rfl⟩
          simp [Grid.parentOf?, read, readRight, apply_ite UInt32.toNat]
      | previous =>
          refine (safe_costAt sound bound right_column (by omega)).bind ?_
          rintro right _ - ⟨readRight, rfl⟩
          rw [one] at readRight
          refine .done sound ⟨?_, rfl⟩
          simp [Grid.parentOf?, read, readRight, apply_ite UInt32.toNat]
  · next apart =>
      have column_pos : x.toNat ≠ 0 := fun zero => apart (UInt32.toNat_inj.1 zero)
      obtain ⟨left, left_difference, left_eq⟩ := Seam.wordDifference?_one (Nat.pos_of_ne_zero column_pos)
      rw [left_difference, checked_some_bind]
      refine (safe_costAt sound bound (by omega) (by omega)).bind ?_
      rintro leftUp _ - ⟨readLeft, rfl⟩
      rw [← left_eq] at read ⊢
      split
      · next rightmost =>
          have last_column : left.toNat + 2 = tables.cost.width := by
            rw [← rightmost] at last_eq
            omega
          refine .done sound ⟨?_, rfl⟩
          simp [Grid.parentOf?, read, readLeft, last_column, apply_ite UInt32.toNat, ← left_eq]
      · next middle =>
          have before : x.toNat ≠ last.toNat := fun same => middle (UInt32.toNat_inj.1 same)
          have inner_column : left.toNat + 2 ≠ tables.cost.width := by omega
          obtain ⟨right, right_sum, right_eq⟩ := wordSum?_one (show x.toNat + 1 < UInt32.size by omega)
          have right_column : right.toNat = left.toNat + 2 := by omega
          rw [right_sum, checked_some_bind]
          refine (safe_costAt sound bound (by omega) (by omega)).bind ?_
          rintro rightUp _ - ⟨readRight, rfl⟩
          rw [right_column] at readRight
          refine .done sound ⟨?_, rfl⟩
          simp [Grid.parentOf?, read, readLeft, readRight, inner_column, right_column, apply_ite UInt32.toNat,
            ← left_eq]

end

end Sweep

end

/-! ## Rows -/

namespace Sweep

section

variable [LT ε] [DecidableLT ε] [Add ε]

/-- Relaxes the cell in column `x` of row `y`. -/
def relax (rule : LeftEdgeRule) (width y x : UInt32) : Sweep ε Unit := do
  let parent ← parentOf rule width x y
  setParent x y parent
  let above ← checked (Seam.wordDifference? y 1)
  let inherited ← costAt parent above
  let own ← costAt x y
  setCost x y (own + inherited)

/-- Relaxes row `y`, from left to right. -/
def relaxRow (rule : LeftEdgeRule) (width y : UInt32) : Sweep ε Unit :=
  (words 0 width.toNat).foldlM (fun _ x => relax rule width y x) ()

/-- Relaxes all rows between the first and the last, from top to bottom. -/
def relaxRows (rule : LeftEdgeRule) (width height : UInt32) : Sweep ε Unit := do
  let bottom ← checked (Seam.wordDifference? height 1)
  (words 1 bottom.toNat).foldlM (fun _ y => relaxRow rule width y) ()

variable {rule : LeftEdgeRule} {tables : Tables ε} {wordWidth y : UInt32} {width height above : Nat}
  (sound : tables.Sound width height) (width_eq : wordWidth.toNat = width) (wide : 3 ≤ width)
include sound width_eq wide

theorem safe_relax {x : UInt32} (high : height < UInt32.size) (hx : x.toNat < width) (row_eq : y.toNat = above + 1)
    (inner : above + 2 < height) :
    (relax rule wordWidth y x).Safe width height
      (fun _ now => Tableau.relax rule above tables.tableau x.toNat = some now.tableau) tables := by
  have bound : width < UInt32.size := width_eq ▸ wordWidth.toNat_lt
  have cost_width := sound.cost.width_eq
  obtain ⟨up, up_difference, up_eq⟩ := Seam.wordDifference?_one (show 0 < y.toNat by omega)
  obtain rfl : up.toNat = above := by omega
  rw [relax]
  refine (safe_parentOf sound width_eq wide high hx row_eq inner).bind ?_
  rintro parent _ - ⟨chosen, rfl⟩
  obtain ⟨inside, adjacent⟩ := Grid.parentOf?_adjacent (by omega) (by omega) chosen
  rw [cost_width] at inside
  refine (safe_setParent sound bound hx (by omega) inside adjacent).bind ?_
  rintro _ _ sound' ⟨parents, recorded, rfl⟩
  rw [up_difference, checked_some_bind]
  refine (safe_costAt sound' bound inside (by omega)).bind ?_
  rintro inherited _ - ⟨readParent, rfl⟩
  refine (safe_costAt sound' bound hx (by omega)).bind ?_
  rintro own _ - ⟨readOwn, rfl⟩
  refine (safe_setCost sound' bound hx (by omega) (own + inherited)).mono ?_
  rintro _ _ - ⟨cost, written, rfl⟩
  have recorded' := tables.parent.setCell?_map UInt32.toNat x.toNat y.toNat parent
  rw [recorded, Option.map_some] at recorded'
  rw [row_eq] at recorded' readOwn written
  simp only at readParent readOwn written
  simp [Tableau.relax, Tables.tableau, chosen, readParent, readOwn, written, recorded']

theorem safe_relaxRow (high : height < UInt32.size) (row_eq : y.toNat = above + 1) (inner : above + 2 < height) :
    (relaxRow rule wordWidth y).Safe width height
      (fun _ now => Tableau.relaxRow rule tables.tableau above = some now.tableau) tables := by
  have bound : width < UInt32.size := width_eq ▸ wordWidth.toNat_lt
  have columns : tables.tableau.cost.width = width := sound.cost.width_eq
  rw [relaxRow, width_eq]
  refine (safe_foldlM (fun count _ now =>
    (List.range count).foldlM (Tableau.relax rule above) tables.tableau = some now.tableau)
    (Nat.zero_le width) (Nat.le_of_lt bound) ?_ sound rfl).mono ?_
  · intro x _ now _ hx sound' former
    refine (safe_relax sound' width_eq wide high hx row_eq inner).mono ?_
    intro _ next _ relaxed
    rw [List.range_succ, List.foldlM_append, former]
    simpa using relaxed
  · intro _ now _ relaxed
    rw [Tableau.relaxRow, columns]
    exact relaxed

theorem safe_relaxRows {wordHeight : UInt32} (height_eq : wordHeight.toNat = height) (high : 3 ≤ height) :
    (relaxRows rule wordWidth wordHeight).Safe width height
      (fun _ now => Tableau.relaxRows rule tables.tableau = some now.tableau) tables := by
  have bound : height < UInt32.size := height_eq ▸ wordHeight.toNat_lt
  have rows : tables.tableau.cost.height = height := sound.cost.height_eq
  obtain ⟨bottom, bottom_difference, bottom_eq⟩ := Seam.wordDifference?_one (show 0 < wordHeight.toNat by omega)
  have last_row : bottom.toNat = height - 2 + 1 := by omega
  rw [relaxRows, bottom_difference, checked_some_bind, last_row]
  refine (safe_foldlM (fun row _ now =>
    (List.range (row - 1)).foldlM (Tableau.relaxRow rule) tables.tableau = some now.tableau)
    (show 1 ≤ height - 2 + 1 by omega) (by omega) ?_ sound rfl).mono ?_
  · intro y _ now below before sound' former
    obtain ⟨above, row_eq⟩ := Nat.exists_eq_add_of_le' below
    refine (safe_relaxRow sound' width_eq wide bound row_eq (by omega)).mono ?_
    intro _ next _ relaxed
    rw [row_eq, Nat.add_sub_cancel] at former ⊢
    rw [List.range_succ, List.foldlM_append, former]
    simpa using relaxed
  · intro _ now _ relaxed
    rw [Tableau.relaxRows, rows]
    exact relaxed

end

/-! ## The last row -/

section

variable [LT ε] [DecidableLT ε]

/-- The better of the best column so far and column `x` of a row: `x` only if it is strictly cheaper. -/
def better (row best x : UInt32) : Sweep ε UInt32 := do
  let candidate ← costAt x row
  let least ← costAt best row
  return if candidate < least then x else best

/-- The column of the cheapest cell of a row, the leftmost of several. -/
def cheapestColumn (width row : UInt32) : Sweep ε UInt32 :=
  (words 0 width.toNat).foldlM (better row) 0

theorem safe_cheapestColumn {tables : Tables ε} {wordWidth row : UInt32} {width height : Nat}
    (sound : tables.Sound width height) (width_eq : wordWidth.toNat = width) (wide : 3 ≤ width)
    (hy : row.toNat < height) :
    (cheapestColumn wordWidth row).Safe width height
      (fun best now => (tables.cost.cheapestColumn? row.toNat = some best.toNat ∧ best.toNat < width) ∧ tables = now)
      tables := by
  have bound : width < UInt32.size := width_eq ▸ wordWidth.toNat_lt
  rw [cheapestColumn, width_eq]
  refine (safe_foldlM (fun count best now =>
    ((List.range count).foldlM (tables.cost.better row.toNat) 0 = some best.toNat ∧ best.toNat < width) ∧ tables = now)
    (Nat.zero_le width) (Nat.le_of_lt bound) ?_ sound ⟨⟨rfl, show 0 < width by omega⟩, rfl⟩).mono ?_
  · rintro x best _ - hx - ⟨⟨found, inside⟩, rfl⟩
    refine (safe_costAt sound bound hx hy).bind ?_
    rintro candidate _ - ⟨readCandidate, rfl⟩
    refine (safe_costAt sound bound inside hy).bind ?_
    rintro least _ - ⟨readLeast, rfl⟩
    refine .done sound ⟨⟨?_, ?_⟩, rfl⟩
    · rw [List.range_succ, List.foldlM_append, found]
      simp [Grid.better, readCandidate, readLeast, apply_ite UInt32.toNat]
    · split <;> assumption
  · rintro best now - ⟨⟨found, inside⟩, same⟩
    rw [Grid.cheapestColumn?, sound.cost.width_eq]
    exact ⟨⟨found, inside⟩, same⟩

end

/-! ## The way up -/

/-- Puts a column before those below, and passes on to its parent. -/
def climbFrom : List UInt32 × UInt32 → UInt32 → Sweep ε (List UInt32 × UInt32)
  | (below, column), y => do
      let parent ← parentAt column y
      return (column :: below, parent)

/-- Follows the parents from the last row up to the first. -/
def climb (height column : UInt32) : Sweep ε (List UInt32) := do
  let (seam, _) ← (words 0 height.toNat).reverse.foldlM climbFrom ([], column)
  return seam

theorem words_succ (row : Nat) : words 0 (row + 1) = words 0 row ++ [.ofNat row] := by
  simp [words, List.range'_1_concat]

section

variable {tables : Tables ε} {width height : Nat} (sound : tables.Sound width height) (wide : width < UInt32.size)
  {column : UInt32} (hx : column.toNat < width)
include sound wide hx

theorem safe_climbFrom {y : UInt32} (hy : y.toNat < height) (below : List UInt32) :
    (climbFrom (below, column) y).Safe width height
      (fun next now => (next.1 = column :: below ∧ tables.parent.cell? column.toNat y.toNat = some next.2) ∧
        tables = now) tables := by
  refine (safe_parentAt sound wide hx hy).bind ?_
  rintro parent _ - ⟨read, rfl⟩
  exact .done sound ⟨⟨rfl, read⟩, rfl⟩

/-- The way up passes the columns that the parents lead through. The parent of a cell of the first row is read as well,
    but nothing is done with it. -/
theorem safe_foldlM_climbFrom (high : height < UInt32.size) {row : Nat} (hy : row < height) (below : List UInt32) :
    ((words 0 (row + 1)).reverse.foldlM climbFrom (below, column)).Safe width height
      (fun passed now => tables.tableau.parent.climb row column.toNat (below.map UInt32.toNat) =
        some (passed.1.map UInt32.toNat) ∧ tables = now) tables := by
  induction row generalizing column below with
  | zero =>
      refine (safe_climbFrom sound wide hx (show (UInt32.ofNat 0).toNat < height from hy) below).bind ?_
      rintro ⟨_, parent⟩ _ - ⟨⟨rfl, -⟩, rfl⟩
      exact .done sound ⟨rfl, rfl⟩
  | succ row ih =>
      have row_eq : (UInt32.ofNat (row + 1)).toNat = row + 1 := UInt32.toNat_ofNat_of_lt' (by omega)
      rw [words_succ, List.reverse_append, List.reverse_singleton, List.singleton_append, List.foldlM_cons]
      refine (safe_climbFrom sound wide hx (by omega) below).bind ?_
      rintro ⟨_, parent⟩ _ - ⟨⟨rfl, read⟩, rfl⟩
      rw [row_eq] at read
      have recorded : tables.tableau.parent.cell? column.toNat (row + 1) = some parent.toNat := by
        rw [Tables.tableau, Grid.cell?_map, read, Option.map_some]
      refine (ih (sound.next _ _ _ read).1 (Nat.lt_of_succ_lt hy) (column :: below)).mono ?_
      rintro passed now - ⟨climbed, same⟩
      refine ⟨?_, same⟩
      rw [Grid.climb, recorded]
      exact climbed

theorem safe_climb {wordHeight : UInt32} (height_eq : wordHeight.toNat = height) (high : 1 ≤ height) :
    (climb wordHeight column).Safe width height
      (fun seam now => tables.tableau.parent.climb (height - 1) column.toNat [] = some (seam.map UInt32.toNat) ∧
        tables = now) tables := by
  have bound : height < UInt32.size := height_eq ▸ wordHeight.toNat_lt
  obtain ⟨bottom, rfl⟩ := Nat.exists_eq_add_of_le' high
  rw [climb, height_eq]
  refine (safe_foldlM_climbFrom sound wide hx bound (Nat.lt_succ_self bottom) []).bind ?_
  rintro ⟨seam, _⟩ now sound' passed
  exact .done sound' passed

end

/-! ## The whole search -/

variable [LT ε] [DecidableLT ε] [Add ε]

/-- The seam through tables of the given sizes. -/
def seam (rule : LeftEdgeRule) (width height : UInt32) : Sweep ε (Except CarveError (List UInt32)) := do
  if width < 3 ∨ height < 3 then
    return .error (.degenerateImage width.toNat height.toNat)
  else
    relaxRows rule width height
    let bottom ← checked (Seam.wordDifference? height 1)
    let column ← cheapestColumn width bottom
    let seam ← climb height column
    return .ok seam

theorem safe_seam {energy : Grid ε} (rule : LeftEdgeRule) (filled : energy.WellFormed)
    (wide : energy.width < UInt32.size) (high : energy.height < UInt32.size) :
    (seam rule (.ofNat energy.width) (.ofNat energy.height)).Safe energy.width energy.height
      (fun outcome _ => outcome.map (List.map UInt32.toNat) = energy.seam rule) (Tables.start energy) := by
  have three : (3 : UInt32).toNat = 3 := rfl
  have width_eq := UInt32.toNat_ofNat_of_lt' wide
  have height_eq := UInt32.toNat_ofNat_of_lt' high
  have sound := Tables.sound_start filled wide
  simp only [seam, UInt32.lt_iff_toNat_lt, width_eq, height_eq, three, Grid.seam]
  split
  · exact .done sound rfl
  · next large =>
      obtain ⟨bottom, bottom_difference, bottom_eq⟩ :=
        Seam.wordDifference?_one (show 0 < (UInt32.ofNat energy.height).toNat by omega)
      have bottom_row : bottom.toNat = energy.height - 1 := by omega
      refine (safe_relaxRows sound width_eq (by omega) height_eq (by omega)).bind ?_
      intro _ relaxed sound' rows
      rw [bottom_difference, checked_some_bind]
      refine (safe_cheapestColumn sound' width_eq (by omega) (by omega)).bind ?_
      rintro column _ - ⟨⟨found, inside⟩, rfl⟩
      refine (safe_climb sound' wide inside height_eq (by omega)).bind ?_
      rintro seam _ - ⟨climbed, rfl⟩
      refine .done sound' ?_
      rw [Tables.tableau_start wide] at rows
      rw [bottom_row] at found
      have searched : energy.seam? rule = some (seam.map UInt32.toNat) := by
        rw [Grid.seam?, rows, Option.bind_eq_bind, Option.bind_some]
        change (relaxed.cost.cheapestColumn? (energy.height - 1)).bind _ = _
        rw [found]
        exact climbed
      rw [searched]
      rfl

end Sweep

variable [LT ε] [DecidableLT ε] [Add ε]

/-- A search for a seam that asks for cells by their addresses alone stays inside its tables, whatever the energies are
    and however they compare. Wherever the search has come to, it is over or its next access is made and is to a place
    of the tables, so that no arithmetic has left the machine words, no address is past the end of the storage and none
    is of a cell in another row than is asked for. The tables keep their sizes, and every parent that they hold is a
    column of the table, the one of its cell or one next to it. The search does end, with the seam or the error that is
    the answer of the search by places. -/
theorem Grid.search_stays_inside (energy : Grid ε) (rule : LeftEdgeRule) (filled : energy.WellFormed)
    (wide : energy.width < UInt32.size) (high : energy.height < UInt32.size) :
    let start : Sweep ε (Except CarveError (List UInt32)) × Tables ε :=
      (.seam rule (.ofNat energy.width) (.ofNat energy.height), .start energy)
    (∀ sweep tables, Sweep.Reaches start (sweep, tables) →
      ((∃ outcome, sweep = .done outcome) ∨
        ∃ x y next, sweep.place? = some (x, y) ∧ (x.toNat < energy.width ∧ y.toNat < energy.height) ∧
          Sweep.step? (sweep, tables) = some next) ∧
      (tables.cost.Sized energy.width energy.height ∧ tables.parent.Sized energy.width energy.height) ∧
      ∀ x y parent, tables.parent.cell? x y = some parent →
        parent.toNat < energy.width ∧ Seam.Adjacent parent.toNat x) ∧
    ∃ outcome tables, Sweep.Reaches start (.done outcome, tables) ∧
      outcome.map (List.map UInt32.toNat) = energy.seam rule := by
  intro start
  have safe : start.1.Safe energy.width energy.height
      (fun outcome _ => outcome.map (List.map UInt32.toNat) = energy.seam rule) start.2 :=
    Sweep.safe_seam rule filled wide high
  constructor
  · intro sweep tables reached
    have here := safe.of_reaches reached
    exact ⟨here.done_or_steps, ⟨here.sound.cost, here.sound.parent⟩, here.sound.next⟩
  · exact safe.exists_done

/-- Three lanes whose cheapest first cell is seen from the left edge only when looking behind. -/
def cheapBehind : Grid Nat :=
  ⟨3, 4, #[5, 1, 5, 0, 0, 0, 0, 9, 0, 0, 0, 0]⟩

/-- With a rule that looks ahead the second cell that is asked for is the one two rows below the first. -/
theorem Grid.search_stays_inside_cheapBehind :
    let start : Sweep Nat (Except CarveError (List UInt32)) × Tables Nat :=
      (.seam .lookahead (.ofNat cheapBehind.width) (.ofNat cheapBehind.height), .start cheapBehind)
    (cheapBehind.WellFormed ∧ cheapBehind.width < UInt32.size ∧ cheapBehind.height < UInt32.size) ∧
      (∃ sweep tables, Sweep.Reaches start (sweep, tables) ∧ sweep.place? = some (1, 2) ∧
        ∃ next, Sweep.step? (sweep, tables) = some next) ∧
      ∃ outcome tables, Sweep.Reaches start (.done outcome, tables) ∧
        outcome.map (List.map UInt32.toNat) = .ok [1, 1, 0, 0] := by
  intro start
  have filled : cheapBehind.WellFormed := by decide
  have wide : cheapBehind.width < UInt32.size := by decide
  have high : cheapBehind.height < UInt32.size := by decide
  have answered : cheapBehind.seam .lookahead = .ok [1, 1, 0, 0] := by decide
  obtain ⟨inside, ends⟩ := search_stays_inside cheapBehind .lookahead filled wide high
  rw [answered] at ends
  obtain ⟨⟨sweep, tables⟩, made, ahead⟩ :
      ∃ after, Sweep.step? start = some after ∧ after.1.place? = some (1, 2) := ⟨_, rfl, rfl⟩
  have reached : Sweep.Reaches start (sweep, tables) := .single made
  refine ⟨⟨filled, wide, high⟩, ⟨sweep, tables, reached, ahead, ?_⟩, ends⟩
  rcases (inside sweep tables reached).1 with ⟨outcome, rfl⟩ | ⟨x, y, next, -, -, stepped⟩
  · contradiction
  · exact ⟨next, stepped⟩

end SeamCarving

import Mathlib.Data.List.Intervals
import SeamCarving.Proofs.Grid.Editing

/-!
# How bands divide a storage

Bands are cut from a storage by its length and the width of the grid alone, so they can be taken of any grid, also if
its sizes do not describe its storage, and of any number of rows. A band can be written to, which is to write to the
places of the storage that it has been cut from. Main statement: the bands divide the storage, so that each of its
places is in one band only, and in a filled grid they consist of whole rows (`bands_divide`).
-/

namespace SeamCarving.Grid

variable {α : Type}

/-! ## Places -/

/-- The places in the storage of the cells of each band. -/
def bandPlaces (grid : Grid α) (rows : Nat) : List (List Nat) :=
  pieces (grid.bandLength rows) (List.range grid.cells.size)

/-- The cells of the bands are those that the storage holds at their places. -/
theorem bands_eq_bandPlaces (grid : Grid α) (rows : Nat) :
    (grid.bands rows).map (List.map some) = (grid.bandPlaces rows).map (List.map (grid.cells[·]?)) := by
  have stored : grid.cells.toList.map some = (List.range grid.cells.size).map (grid.cells[·]?) := by
    refine List.ext_getElem (by simp) ?_
    intro place inside _
    have within : place < grid.cells.size := by simpa using inside
    simp [within]
  rw [bands, bandPlaces, ← pieces_map, ← pieces_map, stored]

theorem flatten_bandPlaces (grid : Grid α) (rows : Nat) :
    (grid.bandPlaces rows).flatten = List.range grid.cells.size :=
  flatten_pieces _ _

/-- One write for each cell of each band, by its place in the storage. The new value may depend on the position of the
    band and on the place within it. -/
def bandWrites (grid : Grid α) (rows : Nat) (value : Nat → Nat → α) : List (Edit α) :=
  ((grid.bandPlaces rows).mapIdx fun band places =>
    places.mapIdx fun offset place => .setStored place (value band offset)).flatten

theorem bandWrites_eq (grid : Grid α) (rows : Nat) (value : Nat → Nat → α) :
    grid.bandWrites rows value = (List.range grid.cells.size).map fun place =>
      .setStored place (value (place / grid.bandLength rows) (place % grid.bandLength rows)) := by
  refine (flatten_mapIdx_pieces (fun band offset place => Edit.setStored place (value band offset))
    (grid.bandLength_pos rows) (List.range grid.cells.size)).trans ?_
  refine List.ext_getElem (by simp) ?_
  intro place inside _
  simp

/-- Writing to the cells of the storage one after another is never refused. -/
theorem exists_foldlM_setStored (grid : Grid α) (value : Nat → α) {count : Nat} (within : count ≤ grid.cells.size) :
    ∃ cells : Array α,
      (List.range count).foldlM (fun now place => edit? now (.setStored place (value place))) grid =
        some { grid with cells } ∧
      cells.size = grid.cells.size ∧ ∀ place, place < count → cells[place]? = some (value place) := by
  induction count with
  | zero => exact ⟨grid.cells, rfl, rfl, fun place before => absurd before (Nat.not_lt_zero place)⟩
  | succ count ih =>
      obtain ⟨cells, written, size_eq, values⟩ := ih (Nat.le_of_succ_le within)
      have inside : count < cells.size := by omega
      refine ⟨cells.set count (value count) inside, ?_, by rw [Array.size_set, size_eq], ?_⟩
      · rw [List.range_succ, List.foldlM_append, written, Option.bind_eq_bind, Option.bind_some, List.foldlM_cons,
          edit?, setStored?, dif_pos inside]
        rfl
      · intro place before
        rcases Nat.lt_succ_iff_lt_or_eq.1 before with earlier | rfl
        · rw [Array.getElem?_set_ne inside (Nat.ne_of_gt earlier), values place earlier]
        · exact Array.getElem?_set_self inside

/-- The cells of the bands are written to one after another, with what the bands are painted with. -/
theorem foldlM_bandWrites (grid : Grid α) (rows : Nat) (value : Nat → Nat → α) :
    (grid.bandWrites rows value).foldlM edit? grid =
      some (grid.mapBands rows fun band offset _ => value band offset) := by
  obtain ⟨cells, written, size_eq, values⟩ := grid.exists_foldlM_setStored
    (fun place => value (place / grid.bandLength rows) (place % grid.bandLength rows)) (Nat.le_refl _)
  have same : cells = (grid.mapBands rows fun band offset _ => value band offset).cells := by
    refine Array.ext_getElem? fun place => ?_
    rw [getElem?_mapBands]
    by_cases inside : place < grid.cells.size
    · rw [values place inside, Array.getElem?_eq_getElem inside]
      rfl
    · rw [Array.getElem?_eq_none (by omega), Array.getElem?_eq_none (by omega)]
      rfl
  rw [bandWrites_eq, List.foldlM_map, written, same]
  rfl

/-! ## The length of a band -/

/-- `bandLength` with machine words, absent if the cells of so many rows cannot be counted. -/
def wordBandLength? (grid : Grid α) (rows : UInt64) : Option UInt64 := do
  let cells ← wideProduct? (UInt32.ofNat grid.width).toUInt64 rows
  return max cells 1

theorem exists_wordBandLength? {grid : Grid α} (wide : grid.width < UInt32.size) {rows : UInt64}
    (countable : grid.BandsCountable rows.toNat) :
    ∃ length, grid.wordBandLength? rows = some length ∧ length.toNat = grid.bandLength rows.toNat := by
  have width_eq := toNat_wideWidth wide
  obtain ⟨cells, product, cells_eq⟩ :=
    wideProduct?_of_lt (show (UInt32.ofNat grid.width).toUInt64.toNat * rows.toNat < UInt64.size by
      rwa [width_eq])
  refine ⟨max cells 1, ?_, ?_⟩
  · rw [wordBandLength?, product]
    rfl
  · rw [UInt64.toNat_max, cells_eq, width_eq, Nat.max_comm]
    rfl

/-! ## Whole rows -/

/-- Rows that follow one another in the storage are a stretch of it. -/
theorem exists_rows {grid : Grid α} {first stop : Nat} (ordered : first ≤ stop)
    (fits : stop * grid.width ≤ grid.cells.size) :
    ∃ rows : List (Array α), (List.Ico first stop).map grid.row? = rows.map some ∧
      (rows.map Array.toList).flatten =
        (grid.cells.toList.drop (first * grid.width)).take ((stop - first) * grid.width) := by
  induction stop, ordered using Nat.le_induction with
  | base => exact ⟨[], by simp, by simp⟩
  | succ stop ordered ih =>
      obtain ⟨rows, read, cells⟩ := ih (by rw [Nat.succ_mul] at fits; omega)
      refine ⟨rows ++ [grid.cells.extract (stop * grid.width) (stop * grid.width + grid.width)], ?_, ?_⟩
      · rw [List.Ico.succ_top ordered, List.map_append, read, List.map_append, List.map_singleton,
          row?_eq_some fits, List.map_singleton]
      · obtain ⟨count, rfl⟩ := Nat.exists_eq_add_of_le ordered
        have begins : (first + count) * grid.width = first * grid.width + count * grid.width := Nat.add_mul ..
        have longer : (first + count + 1 - first) * grid.width = count * grid.width + grid.width := by
          rw [Nat.add_assoc, Nat.add_sub_cancel_left, Nat.succ_mul]
        rw [Nat.add_sub_cancel_left] at cells
        rw [List.map_append, List.flatten_append, cells, List.map_singleton, List.flatten_singleton,
          Array.toList_extract, List.extract_eq_take_drop, Nat.add_sub_cancel_left, longer, List.take_add,
          List.drop_drop, begins]

section

variable {grid : Grid α} {rows : Nat}

theorem bands_eq_nil_iff : grid.bands rows = [] ↔ grid.cells = #[] := by
  have some_band : 0 < (grid.bands rows).length ↔ 0 * grid.bandLength rows < grid.cells.toList.length :=
    lt_length_pieces_iff (grid.bandLength_pos rows)
  rw [Nat.zero_mul, grid.cells.length_toList] at some_band
  have no_band : (grid.bands rows).length = 0 ↔ grid.cells.size = 0 := by omega
  exact List.length_eq_zero_iff.symm.trans (no_band.trans Array.size_eq_zero_iff)

/-- In a filled grid the bands of whole rows consist of these rows. -/
theorem WellFormed.getElem?_bands (filled : grid.WellFormed) (wide : 0 < grid.width) (some_row : 0 < rows)
    (band : Nat) :
    (band < (grid.bands rows).length ↔ band * rows < grid.height) ∧
    (band * rows < grid.height →
      ∃ lines : List (Array α),
        (List.Ico (band * rows) (min grid.height ((band + 1) * rows))).map grid.row? = lines.map some ∧
          (grid.bands rows)[band]? = some (lines.map Array.toList).flatten) := by
  have length_eq : grid.bandLength rows = rows * grid.width := by
    rw [bandLength, Nat.mul_comm]
    exact Nat.max_eq_right (Nat.mul_pos some_row wide)
  have size_eq : grid.cells.toList.length = grid.height * grid.width := by
    rw [Array.length_toList, filled, Nat.mul_comm]
  have begins : band * grid.bandLength rows < grid.cells.toList.length ↔ band * rows < grid.height := by
    rw [size_eq, length_eq, ← Nat.mul_assoc]
    exact Nat.mul_lt_mul_right wide
  refine ⟨(lt_length_pieces_iff (grid.bandLength_pos rows)).trans begins, ?_⟩
  intro above
  obtain ⟨stop, stop_eq⟩ : ∃ stop, min grid.height ((band + 1) * rows) = stop := ⟨_, rfl⟩
  have ordered : band * rows ≤ stop := by
    rw [Nat.succ_mul] at stop_eq
    omega
  have fits : stop * grid.width ≤ grid.cells.size := by
    rw [← Array.length_toList, size_eq, ← stop_eq]
    exact Nat.mul_le_mul_right grid.width (Nat.min_le_left _ _)
  obtain ⟨lines, read, cells⟩ := exists_rows ordered fits
  refine ⟨lines, stop_eq ▸ read, ?_⟩
  rw [bands, getElem?_pieces (grid.bandLength_pos rows), if_pos (begins.2 above), cells, length_eq, ← Nat.mul_assoc]
  refine congrArg some (List.take_eq_take_iff.2 ?_)
  -- the last band is cut short by the end of the storage, with which its rows end as well
  rw [List.length_drop, size_eq, ← Nat.sub_mul, Nat.mul_min_mul_right, Nat.mul_min_mul_right]
  congr 1
  rw [Nat.succ_mul] at stop_eq
  omega

end

/-- The bands of a grid divide its storage, whatever its sizes are: their cells follow one another as they are stored,
    and each place of the storage is one of a single band. All bands but the last have as many cells as so many rows,
    and one if rows have none; the last has some too and no more, and an empty storage has no bands. What is written
    into the cells of a band reaches the cells of the storage, and with the number of its band written into each cell
    the storage tells its own division. In a filled grid the bands consist of whole rows, the next ones each. -/
theorem bands_divide {grid : Grid α} {rows : Nat} (countable : grid.width * rows < UInt64.size) :
    ∃ bands, grid.bands? rows = some bands ∧
      (bands.flatten = grid.cells.toList ∧ (grid.bandPlaces rows).flatten = List.range grid.cells.size ∧
        bands.map (List.map some) = (grid.bandPlaces rows).map (List.map (grid.cells[·]?))) ∧
      (∀ index band, bands[index]? = some band →
        (index + 1 < bands.length → band.length = max 1 (grid.width * rows)) ∧ 0 < band.length ∧
          band.length ≤ max 1 (grid.width * rows)) ∧
      (bands = [] ↔ grid.cells = #[]) ∧
      (∀ value : Nat → Nat → α, ∃ written,
        (grid.bandWrites rows value).foldlM edit? grid = some written ∧
        grid.mapBands? rows (fun band offset _ => value band offset) = some written ∧
        (written.width = grid.width ∧ written.height = grid.height ∧ written.cells.size = grid.cells.size) ∧
        ∀ place, place < grid.cells.size → written.cells[place]? =
          some (value (place / max 1 (grid.width * rows)) (place % max 1 (grid.width * rows)))) ∧
      (grid.WellFormed → 0 < grid.width → 0 < rows → ∀ index,
        (index < bands.length ↔ index * rows < grid.height) ∧
        (index * rows < grid.height → ∃ lines : List (Array α),
          (List.Ico (index * rows) (min grid.height ((index + 1) * rows))).map grid.row? = lines.map some ∧
            bands[index]? = some (lines.map Array.toList).flatten)) ∧
      (grid.width < UInt32.size → ∀ word : UInt64, word.toNat = rows → ∃ length,
        grid.wordBandLength? word = some length ∧ length.toNat = max 1 (grid.width * rows)) := by
  refine ⟨grid.bands rows, if_pos countable, ⟨grid.flatten_bands rows, grid.flatten_bandPlaces rows,
    grid.bands_eq_bandPlaces rows⟩, ?_, bands_eq_nil_iff, ?_, ?_, ?_⟩
  · intro index band here
    exact length_of_getElem?_pieces (grid.bandLength_pos rows) here
  · intro value
    refine ⟨_, grid.foldlM_bandWrites rows value, if_pos countable, ⟨rfl, rfl, grid.size_mapBands rows _⟩, ?_⟩
    intro place inside
    rw [getElem?_mapBands, Array.getElem?_eq_getElem inside]
    rfl
  · intro filled wide some_row index
    exact filled.getElem?_bands wide some_row index
  · rintro wide word rfl
    exact exists_wordBandLength? wide countable

/-- Five rows of four cells, cut by two rows, and the same storage read as rows of seven, where the second band ends
    with the storage. -/
theorem bands_divide_widened :
    let filled : Grid Nat := replicate 4 5 0
    let widened := filled.edit (.setWidth 7)
    filled.width * 2 < UInt64.size ∧ (filled.WellFormed ∧ 0 < filled.width ∧ 2 * 2 < filled.height) ∧
      (∃ bands, ∃ lines : List (Array Nat), filled.bands? 2 = some bands ∧
        (List.Ico 4 5).map filled.row? = lines.map some ∧
        bands[2]? = some (lines.map Array.toList).flatten) ∧
      widened.width * 2 < UInt64.size ∧
      ∃ written, (widened.bandWrites 2 fun band _ => band).foldlM edit? widened = some written ∧
        written.cells[13]? = some 0 ∧ written.cells[14]? = some 1 ∧ written.cells[19]? = some 1 := by
  intro filled widened
  have countable : filled.width * 2 < UInt64.size := by decide
  have countable' : widened.width * 2 < UInt64.size := by decide
  obtain ⟨bands, cut, -, -, -, -, rows, -⟩ := bands_divide countable
  obtain ⟨lines, read, band_eq⟩ := (rows (by decide) (by decide) (by decide) 2).2 (by decide)
  obtain ⟨-, -, -, -, -, writes, -⟩ := bands_divide countable'
  obtain ⟨written, wrote, -, -, value⟩ := writes fun band _ => band
  have length_eq : max 1 (widened.width * 2) = 14 := by decide
  simp only [length_eq] at value
  exact ⟨countable, by decide, ⟨bands, lines, cut, read, band_eq⟩, countable', written, wrote,
    value 13 (by decide), value 14 (by decide), value 19 (by decide)⟩

end SeamCarving.Grid

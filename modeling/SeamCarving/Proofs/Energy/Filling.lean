import Mathlib.Data.List.FinRange
import SeamCarving.Proofs.Carving.Closing
import SeamCarving.Proofs.Energy.Around
import SeamCarving.Proofs.Grid.Address
import SeamCarving.Proofs.Grid.Banding
import SeamCarving.Proofs.Seam.Refusal

/-!
# How energies are filled in

The energies of a view are those of its places; a program comes to them in several ways. It may ask for one place, with
coordinates that are machine words, or take a snapshot of the colours and fill a blank storage, all at once or in
bands of rows that are shared out among processors. Here this is done with arithmetic and reads that are absent where
a word would wrap around or a place is outside. Main statement: none of this ever happens, and each way comes to the
energies of the view (`View.energy_filled`).
-/

namespace SeamCarving

section

variable {ε : Type} [Add ε] [Sub ε] [Mul ε] [NatCast ε]

/-- The energy at `(x, y)` with places that are machine words. Each edge is looked at only if the place is not at the
    one before. -/
def wordEnergy? (width height : UInt32) (colour? : UInt32 → UInt32 → Option (Rgb ε)) (x y : UInt32) : Option ε := do
  if x = 0 then return borderEnergy
  if y = 0 then return borderEnergy
  if width ≤ (← wordSum? x 1) then return borderEnergy
  if height ≤ (← wordSum? y 1) then return borderEnergy
  let left ← colour? (← Seam.wordDifference? x 1) y
  let right ← colour? (← wordSum? x 1) y
  let above ← colour? x (← Seam.wordDifference? y 1)
  let below ← colour? x (← wordSum? y 1)
  return left.squaredDistance right + above.squaredDistance below

/-- Within the picture no word wraps around, and the energy is that of the place. -/
theorem wordEnergy?_eq {width height : Nat} (wide : width < UInt32.size) (high : height < UInt32.size)
    {colour? : UInt32 → UInt32 → Option (Rgb ε)} (colour : (x y : Nat) → x < width → y < height → Rgb ε)
    (reads : ∀ x y (hx : x.toNat < width) (hy : y.toNat < height), colour? x y = some (colour x.toNat y.toNat hx hy))
    {x y : UInt32} (hx : x.toNat < width) (hy : y.toNat < height) :
    wordEnergy? (.ofNat width) (.ofNat height) colour? x y = some (energyAt width height colour x.toNat y.toNat) := by
  have zero : (0 : UInt32).toNat = 0 := rfl
  have width_eq := UInt32.toNat_ofNat_of_lt' wide
  have height_eq := UInt32.toNat_ofNat_of_lt' high
  obtain ⟨right, right_sum, right_eq⟩ := wordSum?_one (show x.toNat + 1 < UInt32.size by omega)
  obtain ⟨below, below_sum, below_eq⟩ := wordSum?_one (show y.toNat + 1 < UInt32.size by omega)
  simp only [wordEnergy?, right_sum, below_sum, Option.bind_eq_bind, Option.bind_some, ← UInt32.toNat_inj,
    UInt32.le_iff_toNat_le, right_eq, below_eq, zero, width_eq, height_eq, energyAt]
  by_cases inner : (0 < x.toNat ∧ x.toNat + 1 < width) ∧ (0 < y.toNat ∧ y.toNat + 1 < height)
  · obtain ⟨left, left_difference, left_eq⟩ := Seam.wordDifference?_one inner.1.1
    obtain ⟨above, above_difference, above_eq⟩ := Seam.wordDifference?_one inner.2.1
    rw [if_neg (by omega), if_neg (by omega), if_neg (by omega), if_neg (by omega), dif_pos inner, left_difference,
      above_difference, Option.bind_some, reads left y (by omega) hy, reads right y (by omega) hy, Option.bind_some,
      Option.bind_some, Option.bind_some, reads x above hx (by omega), reads x below hx (by omega), Option.bind_some,
      Option.bind_some]
    have left_eq : left.toNat = x.toNat - 1 := by omega
    have above_eq : above.toNat = y.toNat - 1 := by omega
    simp only [left_eq, right_eq, above_eq, below_eq]
    rfl
  · -- at least one of the four edges is met, and the first of these ends the computation
    rw [dif_neg inner]
    split
    · rfl
    split
    · rfl
    split
    · rfl
    split
    · rfl
    exact absurd ⟨by omega, by omega⟩ inner

end

/-! ## One place -/

section

variable {π ε : Type} [Coloured π ε]

namespace View

/-- The colour that the view shows at `(x, y)`, absent outside of the view. -/
def colour? (view : View π) (x y : Nat) : Option (Rgb ε) :=
  (view.cell? x y).map Coloured.colour

theorem colour?_eq_some (view : View π) {x y : Nat} (hx : x < view.width) (hy : y < view.height) :
    view.colour? x y = some (Coloured.colour (view.pixel x y hx hy)) := by
  rw [colour?, cell?, if_pos ⟨hx, hy⟩, view.pixel?_eq_some hx hy]
  rfl

variable [Add ε] [Sub ε] [Mul ε] [NatCast ε]

/-- The energy of one pixel of the view, asked for with machine words. -/
def wordPixelEnergy? (view : View π) (x y : UInt32) : Option (Except CarveError ε) :=
  let width := UInt32.ofNat view.width
  let height := UInt32.ofNat view.height
  if width ≤ x ∨ height ≤ y then
    some (.error (.outOfBounds x.toNat y.toNat width.toNat height.toNat))
  else
    (wordEnergy? width height (fun x y => view.colour? x.toNat y.toNat) x y).map .ok

theorem wordPixelEnergy?_eq (view : View π) (wide : view.width < UInt32.size) (high : view.height < UInt32.size)
    (x y : UInt32) : view.wordPixelEnergy? x y = some (view.pixelEnergy x.toNat y.toNat : Except CarveError ε) := by
  have width_eq := UInt32.toNat_ofNat_of_lt' wide
  have height_eq := UInt32.toNat_ofNat_of_lt' high
  simp only [wordPixelEnergy?, UInt32.le_iff_toNat_le, width_eq, height_eq, pixelEnergy]
  by_cases inside : x.toNat < view.width ∧ y.toNat < view.height
  · rw [if_neg (by omega), if_pos inside,
      wordEnergy?_eq wide high (fun x y hx hy => Coloured.colour (view.pixel x y hx hy))
        (fun x y hx hy => view.colour?_eq_some hx hy) inside.1 inside.2]
    rfl
  · rw [if_pos (by omega), if_neg inside]

end View

/-! ## The snapshot of the colours -/

theorem mapM_range_eq_some {β : Type} {length : Nat} {read : Nat → Option β} {value : Fin length → β}
    (reads : ∀ index : Fin length, read index = some (value index)) :
    (List.range length).mapM read = some (List.ofFn value) := by
  rw [← List.map_coe_finRange_eq_range, List.mapM_map, List.ofFn_eq_map]
  exact View.mapM_eq_some fun index _ => reads index

namespace View

/-- The colours of all pixels, read row by row and stored as a grid; absent if a place outside of the view is read. -/
def snapshot? (view : View π) : Option (Except CarveError (Grid (Rgb ε))) := do
  let rows ← (List.range view.height).mapM fun y => (List.range view.width).mapM fun x => view.colour? x y
  return Grid.ofCells view.width view.height rows.flatten.toArray

theorem snapshot?_eq (view : View π) : view.snapshot? = some (.ok (view.colours : Image (Rgb ε)).toGrid) := by
  have rows : ((List.range view.height).mapM fun y => (List.range view.width).mapM fun x => view.colour? x y) =
      some (view.colours : Image (Rgb ε)).view.lines := by
    rw [lines_eq_ofFn]
    refine mapM_range_eq_some ?_
    intro y
    refine mapM_range_eq_some ?_
    intro x
    have shown := ((view.colours : Image (Rgb ε)).pixel_view x.isLt y.isLt).trans (view.pixel_colours x.isLt y.isLt)
    exact (view.colour?_eq_some x.isLt y.isLt).trans (congrArg some shown.symm)
  rw [snapshot?, rows]
  refine congrArg some ((ofCells_lines _).trans ?_)
  rw [Image.toImage_view]

end View

/-! ## Filling in a blank storage -/

variable [Add ε] [Sub ε] [Mul ε] [NatCast ε]

namespace Grid

/-- What is filled in for a cell of a band, so many rows below its first one. -/
def fillCell? (colours : Grid (Rgb ε)) (first : UInt32) (offset column : Nat) : Option ε := do
  let y ← wordSum? first (.ofNat offset)
  wordEnergy? (.ofNat colours.width) (.ofNat colours.height) (fun x y => colours.cell? x.toNat y.toNat)
    (.ofNat column) y

/-- Fills a band of complete rows, the first of which is row `first`, row after row. What is filled in is absent if it
    could not be computed; nothing is filled in if the rows have no cells. -/
def fillBand (colours : Grid (Rgb ε)) (first : UInt32) (band : List ε) : List (Option ε) :=
  if colours.width = 0 then band.map some
  else
    let rows := (pieces colours.width band).mapIdx fun offset row =>
      row.mapIdx fun column _ => colours.fillCell? first offset column
    rows.flatten

/-- Fills all of a storage as one band. -/
def fillAtOnce (colours : Grid (Rgb ε)) (blank : Grid ε) : Option (List (Option ε)) :=
  some (colours.fillBand 0 blank.cells.toList)

/-- How many rows a band has if all bands but the last are alike and there is one for each processor at most. -/
def rowsPerBand (processors height : Nat) : Nat :=
  let workers := max processors 1
  max ((height + workers - 1) / workers) 1

/-- Fills a storage in bands of rows that are shared out among so many processors. -/
def fillShared? (processors : Nat) (colours : Grid (Rgb ε)) (blank : Grid ε) : Option (List (Option ε)) := do
  let rows := rowsPerBand processors blank.height
  let bands ← blank.bands? rows
  let filled := bands.mapIdx fun index band => colours.fillBand (.ofNat (index * rows)) band
  return filled.flatten

end Grid

/-- The energies of the view, filled into a blank storage from a snapshot of the colours. -/
def View.filledEnergy? (view : View π) (fill : Grid (Rgb ε) → Grid ε → Option (List (Option ε))) (blank : ε) :
    Option (Except CarveError (Grid ε)) := do
  match ← view.snapshot? with
  | .error error => return .error error
  | .ok colours =>
      let filled ← fill colours (.replicate colours.width colours.height blank)
      let cells ← filled.mapM id
      return .ok ⟨colours.width, colours.height, cells.toArray⟩

theorem Grid.rowsPerBand_pos (processors height : Nat) : 0 < rowsPerBand processors height :=
  Nat.lt_of_lt_of_le Nat.one_pos (Nat.le_max_right _ _)

theorem Grid.rowsPerBand_le (processors height : Nat) : rowsPerBand processors height ≤ max height 1 := by
  obtain ⟨workers, workers_eq⟩ : ∃ workers, max processors 1 = workers := ⟨_, rfl⟩
  have some_worker : 0 < workers := by omega
  have shared : (height + workers - 1) / workers < height + 1 := by
    have each : height ≤ height * workers := Nat.le_mul_of_pos_right height some_worker
    rw [Nat.div_lt_iff_lt_mul some_worker, Nat.add_one_mul]
    omega
  simp only [rowsPerBand, workers_eq]
  omega

/-- The cells of the rows of a band can be counted. -/
theorem Grid.bandsCountable {α : Type} {grid : Grid α} (wide : grid.width < UInt32.size)
    (high : grid.height < UInt32.size) (processors : Nat) : grid.BandsCountable (rowsPerBand processors grid.height) := by
  have few : rowsPerBand processors grid.height < UInt32.size := by
    have bound := rowsPerBand_le processors grid.height
    have some_word : 1 < UInt32.size := by decide
    omega
  calc grid.width * rowsPerBand processors grid.height
    _ < UInt32.size * UInt32.size := Nat.mul_lt_mul'' wide few
    _ = UInt64.size := by decide

/-- A band is filled by the position of its cells. -/
theorem Grid.fillBand_eq {colours : Grid (Rgb ε)} {band : List ε} (cells : colours.width = 0 → band = [])
    (first : UInt32) :
    colours.fillBand first band =
      band.mapIdx fun position _ =>
        colours.fillCell? first (position / colours.width) (position % colours.width) := by
  rcases Nat.eq_zero_or_pos colours.width with narrow | wide
  · rw [cells narrow, fillBand, if_pos narrow]
    rfl
  · rw [fillBand, if_neg (Nat.ne_of_gt wide)]
    exact flatten_mapIdx_pieces (fun offset column _ => colours.fillCell? first offset column) wide band

/-- A storage that is filled in bands is filled by the position of its cells. -/
theorem Grid.fillShared?_eq {colours : Grid (Rgb ε)} {storage : Grid ε} {processors rows : Nat}
    (rows_eq : rowsPerBand processors storage.height = rows) (countable : storage.BandsCountable rows)
    (cells : colours.width = 0 → storage.cells.toList = []) :
    colours.fillShared? processors storage =
      some (storage.cells.toList.mapIdx fun position _ =>
        let band := position / storage.bandLength rows
        let place := position % storage.bandLength rows
        colours.fillCell? (.ofNat (band * rows)) (place / colours.width) (place % colours.width)) := by
  simp only [fillShared?, rows_eq, bands?, if_pos countable, Option.bind_eq_bind, Option.bind_some, bands]
  refine congrArg some ?_
  by_cases narrow : colours.width = 0
  · rw [cells narrow, pieces]
    rfl
  · -- two cuts, into bands and of each band into rows, and both leave the position to tell a cell
    have painted (first : UInt32) (band : List ε) := fillBand_eq (fun zero => absurd zero narrow : _ → band = []) first
    simp only [painted]
    exact flatten_mapIdx_pieces (fun band place _ => colours.fillCell? (.ofNat (band * rows)) (place / colours.width)
      (place % colours.width)) (storage.bandLength_pos rows) _

namespace View

variable {view : View π}

theorem fillCell?_colours (wide : view.width < UInt32.size) (high : view.height < UInt32.size) {first : UInt32}
    {offset column : Nat} (hx : column < view.width) (hy : first.toNat + offset < view.height) :
    (view.colours : Image (Rgb ε)).toGrid.fillCell? first offset column =
      some (view.terrain.energy column (first.toNat + offset)) := by
  obtain ⟨x, x_eq⟩ : ∃ x : UInt32, x = .ofNat column := ⟨_, rfl⟩
  have column_eq : x.toNat = column := by
    rw [x_eq]
    exact UInt32.toNat_ofNat_of_lt' (by omega)
  have offset_eq : (UInt32.ofNat offset).toNat = offset := UInt32.toNat_ofNat_of_lt' (by omega)
  obtain ⟨y, sum, y_eq⟩ := wordSum?_of_lt (show first.toNat + (UInt32.ofNat offset).toNat < UInt32.size by omega)
  rw [offset_eq] at y_eq
  have hx' : x.toNat < view.width := by omega
  have hy' : y.toNat < view.height := by omega
  have reads (x y : UInt32) (hx : x.toNat < view.width) (hy : y.toNat < view.height) :=
    (view.colours : Image (Rgb ε)).pixel?_eq_some hx hy
  have energy := wordEnergy?_eq wide high (view.colours : Image (Rgb ε)).pixel reads hx' hy'
  rw [Grid.fillCell?, sum, ← x_eq, ← column_eq, ← y_eq, energy_terrain, ← pixel_colours_eq]
  exact energy

/-- A storage whose every cell is filled with the energy of its place is that of all energies. -/
theorem filledEnergy?_eq {fill : Grid (Rgb ε) → Grid ε → Option (List (Option ε))} {blank : ε}
    (cell : Nat → Option ε)
    (filled : fill (view.colours : Image (Rgb ε)).toGrid (.replicate view.width view.height blank) =
      some ((List.replicate (view.width * view.height) blank).mapIdx fun position _ => cell position))
    (cells : ∀ position, position < view.width * view.height →
      cell position = some (view.terrain.energy (position % view.width) (position / view.width))) :
    view.filledEnergy? fill blank = some (.ok view.energy) := by
  have positions : ((List.replicate (view.width * view.height) blank).mapIdx fun position _ => cell position) =
      (List.range (view.width * view.height)).map cell := by
    refine List.ext_getElem (by simp) ?_
    intro position _ _
    simp
  have found : ((List.range (view.width * view.height)).map cell).mapM id = some (List.ofFn fun
      index : Fin (view.width * view.height) => view.terrain.energy (index % view.width) (index / view.width)) := by
    rw [List.mapM_map]
    exact mapM_range_eq_some fun index => cells index index.isLt
  have sizes : (view.colours : Image (Rgb ε)).width = view.width ∧
      (view.colours : Image (Rgb ε)).height = view.height := ⟨rfl, rfl⟩
  simp only [filledEnergy?, snapshot?_eq, Option.bind_eq_bind, Option.bind_some, sizes, filled, positions, found]
  rw [energy_eq_ofFn, Grid.ofFn, List.toArray_ofFn]
  rfl

theorem filledEnergy?_atOnce (wide : view.width < UInt32.size) (high : view.height < UInt32.size) (blank : ε) :
    view.filledEnergy? Grid.fillAtOnce blank = some (.ok view.energy) := by
  have cells : view.width = 0 → List.replicate (view.width * view.height) blank = [] := by
    intro narrow
    rw [narrow, Nat.zero_mul, List.replicate_zero]
  refine filledEnergy?_eq (fun position => (view.colours : Image (Rgb ε)).toGrid.fillCell? 0
    (position / view.width) (position % view.width)) (congrArg some ?_) ?_
  · rw [Grid.replicate, Array.toList_replicate]
    exact Grid.fillBand_eq cells 0
  · intro position inside
    have some_column : 0 < view.width := Nat.pos_of_mul_pos_right (Nat.zero_lt_of_lt inside)
    have row : (0 : UInt32).toNat + position / view.width < view.height := by
      rw [UInt32.toNat_zero, Nat.zero_add]
      exact Nat.div_lt_of_lt_mul inside
    refine (fillCell?_colours wide high (Nat.mod_lt _ some_column) row).trans ?_
    rw [UInt32.toNat_zero, Nat.zero_add]

theorem filledEnergy?_shared (wide : view.width < UInt32.size) (high : view.height < UInt32.size) (blank : ε)
    (processors : Nat) :
    view.filledEnergy? (Grid.fillShared? processors) blank = some (.ok view.energy) := by
  obtain ⟨rows, rows_eq⟩ : ∃ rows, Grid.rowsPerBand processors view.height = rows := ⟨_, rfl⟩
  have some_row : 0 < rows := rows_eq ▸ Grid.rowsPerBand_pos _ _
  have countable : (Grid.replicate view.width view.height blank).BandsCountable rows := by
    rw [← rows_eq]
    exact Grid.bandsCountable wide high processors
  have cells : (Grid.replicate view.width view.height blank).cells.toList =
      List.replicate (view.width * view.height) blank := Array.toList_replicate
  refine filledEnergy?_eq _ ((Grid.fillShared?_eq rows_eq countable ?_).trans (by rw [cells])) ?_
  · intro narrow
    rw [cells, show view.width = 0 from narrow, Nat.zero_mul, List.replicate_zero]
  · intro position inside
    have some_column : 0 < view.width := Nat.pos_of_mul_pos_right (Nat.zero_lt_of_lt inside)
    have below : position / view.width < view.height := Nat.div_lt_of_lt_mul inside
    have length_eq : (Grid.replicate view.width view.height blank).bandLength rows = view.width * rows :=
      Nat.max_eq_right (Nat.mul_pos some_column some_row)
    -- the rows above a band and those of the band above the cell are all rows above the cell
    have row : position / (view.width * rows) * rows + position % (view.width * rows) / view.width =
        position / view.width := by
      rw [Nat.mod_mul_right_div_self, ← Nat.div_div_eq_div_mul, Nat.div_add_mod']
    have start : position / (view.width * rows) * rows ≤ position / view.width :=
      Nat.le_trans (Nat.le_add_right _ _) (Nat.le_of_eq row)
    have first : (UInt32.ofNat (position / (view.width * rows) * rows)).toNat =
        position / (view.width * rows) * rows := UInt32.toNat_ofNat_of_lt' (by omega)
    have column : position % (view.width * rows) % view.width = position % view.width :=
      Nat.mod_mul_right_mod position view.width rows
    have width_colours : (view.colours : Image (Rgb ε)).width = view.width := rfl
    simp only [length_eq, width_colours, column]
    refine (fillCell?_colours wide high (Nat.mod_lt _ some_column) ?_).trans ?_
    · rwa [first, row]
    · rw [first, row]

/-- Asking for the energy of a place with machine words, and filling a blank storage with the energies of all places
    at once or by any number of processors: nothing wraps around or is read outside of the view, no matter what its
    size is, and all come to the same energies. There is one for each place of the view, asking for any other place is
    an error, and it is the border energy in the first and last rows and columns and that of the pixels around the
    place everywhere else. -/
theorem energy_filled (view : View π) (wide : view.width < UInt32.size) (high : view.height < UInt32.size) :
    (∀ blank : ε, view.filledEnergy? Grid.fillAtOnce blank = some (.ok view.energy) ∧
      ∀ processors, view.filledEnergy? (Grid.fillShared? processors) blank = some (.ok view.energy)) ∧
    ((view.energy : Grid ε).width = view.width ∧ (view.energy : Grid ε).height = view.height ∧
      (view.energy : Grid ε).cells.size = view.width * view.height) ∧
    ∀ x y : UInt32,
      view.wordPixelEnergy? x y = some (view.pixelEnergy x.toNat y.toNat : Except CarveError ε) ∧
      ((view.pixelEnergy x.toNat y.toNat : Except CarveError ε) =
          .error (.outOfBounds x.toNat y.toNat view.width view.height) ↔
        view.width ≤ x.toNat ∨ view.height ≤ y.toNat) ∧
      (x.toNat < view.width → y.toNat < view.height → ∃ energy : ε,
        view.pixelEnergy x.toNat y.toNat = .ok energy ∧ view.energy.cell? x.toNat y.toNat = some energy ∧
        if x.toNat = 0 ∨ x.toNat + 1 = view.width ∨ y.toNat = 0 ∨ y.toNat + 1 = view.height then
          energy = borderEnergy
        else
          ∃ around, view.around? (x.toNat, y.toNat) = some around ∧ energy = around.energy) := by
  refine ⟨?_, ⟨rfl, rfl, Grid.wellFormed_ofFn _ _ _⟩, ?_⟩
  · intro blank
    exact ⟨filledEnergy?_atOnce wide high blank, filledEnergy?_shared wide high blank⟩
  intro x y
  refine ⟨view.wordPixelEnergy?_eq wide high x y, ?_, ?_⟩
  · rw [← not_lt, ← not_lt, ← not_and_or, pixelEnergy]
    split
    · next inside => simp [inside]
    · next outside => simp [outside]
  · intro hx hy
    refine ⟨_, view.pixelEnergy_eq hx hy, view.reads_energy.cell?_eq _ _ hx hy, ?_⟩
    have energy_eq : (view.terrain : Terrain ε).energy x.toNat y.toNat = _ :=
      view.terrain_energy_eq (x.toNat, y.toNat)
    split
    · next edge =>
        have border : ¬ view.Inner (x.toNat, y.toNat) := by
          unfold Inner
          omega
        rw [energy_eq, around?_eq_none_iff.2 border]
        rfl
    · next away =>
        have inner : view.Inner (x.toNat, y.toNat) := by
          unfold Inner
          omega
        have found := around?_eq_some_of_inner inner inner.1.2 inner.2.2
        refine ⟨_, found, ?_⟩
        rw [energy_eq, found]
        rfl

end View

end

theorem View.energy_filled_block :
    let view := (Image.block (0 : Int) 1).view
    (view.width < UInt32.size ∧ view.height < UInt32.size) ∧
    view.filledEnergy? (Grid.fillShared? 3) 0 = some (.ok view.energy) ∧
    view.wordPixelEnergy? 1 2 = some (.ok (4 : Int)) ∧
    view.wordPixelEnergy? 4 0 = some (.error (.outOfBounds 4 0 4 4) : Except CarveError Int) := by
  intro view
  have sizes : view.width < UInt32.size ∧ view.height < UInt32.size := by decide
  obtain ⟨filled, -, asked⟩ := view.energy_filled sizes.1 sizes.2
  refine ⟨sizes, (filled 0).2 3, ?_, ?_⟩
  · rw [(asked 1 2).1]
    decide +kernel
  · rw [(asked 4 0).1, (asked 4 0).2.1.2 (by decide)]
    rfl

end SeamCarving

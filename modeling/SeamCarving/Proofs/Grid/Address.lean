import SeamCarving.Grid.Basic

/-!
# Addresses in machine words

The sizes of a grid and the places in it are words of 32 bits, and its storage is addressed with words of 64. Here the
accesses of a grid are made with such words, and are absent where one would wrap around. Main statements: this never
happens (`wideIndex?_eq`), and the accesses come to what they come to with numbers (`wordGet?_eq`, `wordSet?_eq`,
`wordRow?_eq`, `wordOfCells?_eq`).
-/

namespace SeamCarving

/-- The sum of two machine words of 32 bits, absent if it is too large for one. -/
def wordSum? (word other : UInt32) : Option UInt32 :=
  if word.toNat + other.toNat < UInt32.size then some (word + other) else none

theorem wordSum?_of_lt {word other : UInt32} (fits : word.toNat + other.toNat < UInt32.size) :
    ∃ sum, wordSum? word other = some sum ∧ sum.toNat = word.toNat + other.toNat := by
  refine ⟨word + other, if_pos fits, ?_⟩
  rw [UInt32.toNat_add]
  exact Nat.mod_eq_of_lt fits

theorem wordSum?_one {word : UInt32} (fits : word.toNat + 1 < UInt32.size) :
    ∃ after, wordSum? word 1 = some after ∧ after.toNat = word.toNat + 1 :=
  wordSum?_of_lt fits

namespace Grid

/-- The product of two machine words of 64 bits, absent if it is too large for one. -/
def wideProduct? (word other : UInt64) : Option UInt64 :=
  if word.toNat * other.toNat < UInt64.size then some (word * other) else none

/-- The sum of two machine words of 64 bits, absent if it is too large for one. -/
def wideSum? (word other : UInt64) : Option UInt64 :=
  if word.toNat + other.toNat < UInt64.size then some (word + other) else none

theorem wideProduct?_of_lt {word other : UInt64} (fits : word.toNat * other.toNat < UInt64.size) :
    ∃ product, wideProduct? word other = some product ∧ product.toNat = word.toNat * other.toNat := by
  refine ⟨word * other, if_pos fits, ?_⟩
  rw [UInt64.toNat_mul]
  exact Nat.mod_eq_of_lt fits

theorem wideSum?_of_lt {word other : UInt64} (fits : word.toNat + other.toNat < UInt64.size) :
    ∃ sum, wideSum? word other = some sum ∧ sum.toNat = word.toNat + other.toNat := by
  refine ⟨word + other, if_pos fits, ?_⟩
  rw [UInt64.toNat_add]
  exact Nat.mod_eq_of_lt fits

/-- Even the last place of the largest grid, and the end of its row, can be counted. -/
theorem address_lt {width x y : Nat} (wide : width < UInt32.size) (hx : x < UInt32.size) (hy : y < UInt32.size) :
    y * width + x < UInt64.size := by
  calc y * width + x
    _ ≤ (UInt32.size - 1) * (UInt32.size - 1) + (UInt32.size - 1) :=
      Nat.add_le_add (Nat.mul_le_mul (Nat.le_sub_one_of_lt hy) (Nat.le_sub_one_of_lt wide))
        (Nat.le_sub_one_of_lt hx)
    _ < UInt64.size := by decide

/-- Where the cell in column `x` of row `y` stands in a storage of rows of `width`. -/
def wideIndex? (width x y : UInt32) : Option UInt64 := do
  let before ← wideProduct? y.toUInt64 width.toUInt64
  wideSum? before x.toUInt64

/-- No address wraps around. -/
theorem wideIndex?_eq (width x y : UInt32) :
    ∃ index, wideIndex? width x y = some index ∧ index.toNat = y.toNat * width.toNat + x.toNat := by
  have total := address_lt width.toNat_lt x.toNat_lt y.toNat_lt
  obtain ⟨before, product, before_eq⟩ :=
    wideProduct?_of_lt (show y.toUInt64.toNat * width.toUInt64.toNat < UInt64.size by
      rw [UInt32.toNat_toUInt64, UInt32.toNat_toUInt64]
      omega)
  rw [UInt32.toNat_toUInt64, UInt32.toNat_toUInt64] at before_eq
  obtain ⟨index, sum, index_eq⟩ :=
    wideSum?_of_lt (show before.toNat + x.toUInt64.toNat < UInt64.size by
      rw [before_eq, UInt32.toNat_toUInt64]
      exact total)
  rw [before_eq, UInt32.toNat_toUInt64] at index_eq
  exact ⟨index, by rw [wideIndex?, product, Option.bind_eq_bind, Option.bind_some, sum], index_eq⟩

variable {α : Type}

/-- `get?` with machine words. -/
def wordGet? (grid : Grid α) (x y : UInt32) : Option α := do
  let index ← wideIndex? (.ofNat grid.width) x y
  grid.cells[index.toNat]?

/-- `set?` with machine words. -/
def wordSet? (grid : Grid α) (x y : UInt32) (value : α) : Option (Grid α) := do
  let index ← wideIndex? (.ofNat grid.width) x y
  grid.setStored? index.toNat value

/-- `row?` with machine words. -/
def wordRow? (grid : Grid α) (y : UInt32) : Option (Array α) := do
  let start ← wideIndex? (.ofNat grid.width) 0 y
  let stop ← wideSum? start (UInt32.ofNat grid.width).toUInt64
  if stop.toNat ≤ grid.cells.size then some (grid.cells.extract start.toNat stop.toNat) else none

/-- `ofCells` with machine words. -/
def wordOfCells? (width height : UInt32) (cells : Array α) : Option (Except CarveError (Grid α)) := do
  let area ← wideProduct? width.toUInt64 height.toUInt64
  if cells.size = area.toNat then
    return .ok ⟨width.toNat, height.toNat, cells⟩
  else
    return .error (.badDimensions width.toNat height.toNat cells.size)

section

variable {grid : Grid α}

theorem exists_wideIndex? (wide : grid.width < UInt32.size) (x y : UInt32) :
    ∃ index, wideIndex? (.ofNat grid.width) x y = some index ∧ index.toNat = grid.index x.toNat y.toNat := by
  have found := wideIndex?_eq (.ofNat grid.width) x y
  rwa [UInt32.toNat_ofNat_of_lt' wide] at found

theorem wordGet?_eq (wide : grid.width < UInt32.size) (x y : UInt32) :
    grid.wordGet? x y = grid.get? x.toNat y.toNat := by
  obtain ⟨index, found, index_eq⟩ := exists_wideIndex? wide x y
  rw [wordGet?, found, Option.bind_eq_bind, Option.bind_some, index_eq]
  rfl

theorem wordSet?_eq (wide : grid.width < UInt32.size) (x y : UInt32) (value : α) :
    grid.wordSet? x y value = grid.set? x.toNat y.toNat value := by
  obtain ⟨index, found, index_eq⟩ := exists_wideIndex? wide x y
  rw [wordSet?, found, Option.bind_eq_bind, Option.bind_some, index_eq]
  rfl

theorem toNat_wideWidth (wide : grid.width < UInt32.size) : (UInt32.ofNat grid.width).toUInt64.toNat = grid.width := by
  rw [UInt32.toNat_toUInt64, UInt32.toNat_ofNat_of_lt' wide]

theorem wordRow?_eq (wide : grid.width < UInt32.size) (y : UInt32) : grid.wordRow? y = grid.row? y.toNat := by
  obtain ⟨start, found, start_eq⟩ := exists_wideIndex? wide 0 y
  have width_eq := toNat_wideWidth wide
  have row_end : grid.index 0 y.toNat + grid.width < UInt64.size := address_lt wide wide y.toNat_lt
  obtain ⟨stop, sum, stop_eq⟩ :=
    wideSum?_of_lt (show start.toNat + (UInt32.ofNat grid.width).toUInt64.toNat < UInt64.size by
      rwa [start_eq, width_eq])
  rw [start_eq, width_eq] at stop_eq
  rw [wordRow?, found, Option.bind_eq_bind, Option.bind_some, sum, Option.bind_some, stop_eq,
    start_eq]
  rfl

end

theorem wordOfCells?_eq (width height : UInt32) (cells : Array α) :
    wordOfCells? width height cells = some (ofCells width.toNat height.toNat cells) := by
  have area_fits := address_lt height.toNat_lt (show 0 < UInt32.size by decide) width.toNat_lt
  obtain ⟨area, product, area_eq⟩ :=
    wideProduct?_of_lt (show width.toUInt64.toNat * height.toUInt64.toNat < UInt64.size by
      rwa [UInt32.toNat_toUInt64, UInt32.toNat_toUInt64])
  rw [UInt32.toNat_toUInt64, UInt32.toNat_toUInt64] at area_eq
  rw [wordOfCells?, product, Option.bind_eq_bind, Option.bind_some, area_eq, ofCells]
  split <;> rfl

end Grid

end SeamCarving

import SeamCarving.Carving.Event

/-!
# The schedule of a carving

Which cuts take an image down by so many columns and rows, and in which order. While both are still to be cut
the two directions take turns; what is left of the columns comes next, and what is left of the rows last. A
schedule gives one cut at a time, so that a carving that fails early never looks at the rest of a long one;
`toList` is the whole of it.
-/

namespace SeamCarving

/-- One cut of a carving: a seam along `axis`, made in a phase. -/
structure Cut where
  axis : Axis
  phase : Phase
  deriving DecidableEq

/-- How much is still to be cut off. A schedule that has just been made begins with a column. -/
structure Schedule where
  columns : Nat
  rows : Nat
  /-- The axis of the next seam, as long as there are both columns and rows to cut off. -/
  turn : Axis := .vertical
  deriving DecidableEq

namespace Schedule

/-- The number of cuts. -/
def size (schedule : Schedule) : Nat :=
  schedule.columns + schedule.rows

/-- The next cut, and the schedule after it. -/
def next? : Schedule → Option (Cut × Schedule)
  | ⟨0, 0, _⟩ => none
  | ⟨columns + 1, rows + 1, .vertical⟩ => some (⟨.vertical, .both⟩, ⟨columns, rows + 1, .horizontal⟩)
  | ⟨columns + 1, rows + 1, .horizontal⟩ => some (⟨.horizontal, .both⟩, ⟨columns + 1, rows, .vertical⟩)
  | ⟨columns + 1, 0, turn⟩ => some (⟨.vertical, .width⟩, ⟨columns, 0, turn⟩)
  | ⟨0, rows + 1, turn⟩ => some (⟨.horizontal, .height⟩, ⟨0, rows, turn⟩)

/-- A schedule has one cut more than what follows its first. -/
theorem size_eq_of_next? {schedule rest : Schedule} {cut : Cut}
    (present : schedule.next? = some (cut, rest)) : schedule.size = rest.size + 1 := by
  unfold next? at present
  split at present <;> simp at present <;> obtain ⟨rfl, rfl⟩ := present <;> simp only [size] <;> omega

/-- All the cuts, the next one first. -/
def toList (schedule : Schedule) : List Cut :=
  match _present : schedule.next? with
  | none => []
  | some (cut, rest) => cut :: rest.toList
termination_by schedule.size
decreasing_by simp [size_eq_of_next? _present]

theorem toList_eq_nil {schedule : Schedule} (absent : schedule.next? = none) : schedule.toList = [] := by
  unfold toList
  split <;> simp_all

theorem toList_eq_cons {schedule rest : Schedule} {cut : Cut}
    (present : schedule.next? = some (cut, rest)) : schedule.toList = cut :: rest.toList := by
  rw [toList]
  split <;> simp_all

/-- Only the schedule without columns and rows has no next cut. -/
theorem next?_eq_none_iff {schedule : Schedule} : schedule.next? = none ↔ schedule.size = 0 := by
  unfold next? size
  split <;> simp

@[simp] theorem length_toList (schedule : Schedule) : schedule.toList.length = schedule.size := by
  fun_induction toList schedule with
  | case1 schedule absent => simp [next?_eq_none_iff.1 absent]
  | case2 schedule cut rest present ih => simp [ih, size_eq_of_next? present]

end Schedule

end SeamCarving

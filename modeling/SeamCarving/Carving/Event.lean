import SeamCarving.Seam.Removal

/-!
# Events of a carving

What a carving reports while it runs: each seam that it found, and the size of the image after each cut that
belongs to a planned carving. `Traced` is a computation that reports events and may fail; what it reported
before it failed is kept.
-/

namespace SeamCarving

/-- Why a cut is made: while both sizes are too large the directions take turns, then the width is cut down,
    then the height. -/
inductive Phase where
  | both
  | width
  | height
  deriving DecidableEq

/-- Something that a carving reports. -/
inductive Event where
  /-- A seam was found that runs along `axis`. -/
  | found (axis : Axis) (seam : Seam)
  /-- A cut of a planned carving was made and left an image of this size. -/
  | cut (phase : Phase) (width height : Nat)
  deriving DecidableEq

/-- How much attention a report deserves, from the most to the least. -/
inductive Level where
  | warn
  | info
  | debug
  | trace
  deriving DecidableEq

/-- The number of levels that deserve more attention. -/
def Level.rank : Level → Nat
  | warn => 0
  | info => 1
  | debug => 2
  | trace => 3

/-- The level as a report shows it. -/
def Level.label : Level → String
  | warn => "WARN"
  | info => "INFO"
  | debug => "DEBUG"
  | trace => "TRACE"

/-- The word for the direction of a seam. -/
def Axis.name : Axis → String
  | vertical => "vertical"
  | horizontal => "horizontal"

/-- The word for the reason of a cut. -/
def Phase.name : Phase → String
  | both => "both"
  | width => "width"
  | height => "height"

/-- The entries of a seam between brackets. -/
def Seam.listing (seam : Seam) : String :=
  "[" ++ ", ".intercalate (seam.map fun entry => toString entry) ++ "]"

/-- Seams are traced, and cuts are for debugging. -/
def Event.level : Event → Level
  | found .. => .trace
  | cut .. => .debug

/-- The event as a line of a report. -/
def Event.message : Event → String
  | found axis seam => axis.name ++ " seam " ++ seam.listing
  | cut phase width height => s!"{phase.name}: {width}x{height}"

/-- A computation that reports events and either fails or has a result. -/
structure Traced (α : Type) where
  events : List Event
  outcome : Except CarveError α

namespace Traced

variable {α β : Type}

/-- Goes on with the result of `first`; a failure ends the computation with the events up to it. -/
def andThen (first : Traced α) (next : α → Traced β) : Traced β :=
  match first.outcome with
  | .ok result => ⟨first.events ++ (next result).events, (next result).outcome⟩
  | .error error => ⟨first.events, .error error⟩

instance : Monad Traced where
  pure result := ⟨[], .ok result⟩
  bind := andThen

/-- Reports one event. -/
def report (event : Event) : Traced Unit :=
  ⟨[event], .ok ()⟩

/-- A computation that reports nothing. -/
def ofExcept (outcome : Except CarveError α) : Traced α :=
  ⟨[], outcome⟩

/-- Fails without a report. -/
def fail (error : CarveError) : Traced α :=
  ⟨[], .error error⟩

@[simp] theorem events_pure (result : α) : (pure result : Traced α).events = [] :=
  rfl

@[simp] theorem outcome_pure (result : α) : (pure result : Traced α).outcome = .ok result :=
  rfl

/-- The outcome of two computations is what their outcomes come to one after the other. -/
@[simp] theorem outcome_bind (first : Traced α) (next : α → Traced β) :
    (first >>= next).outcome = (first.outcome >>= fun result => (next result).outcome) := by
  change (first.andThen next).outcome = _
  unfold andThen
  cases first.outcome <;> rfl

/-- A second computation reports after the first, and only if the first has not failed. -/
theorem events_bind (first : Traced α) (next : α → Traced β) :
    (first >>= next).events =
      first.events ++ (first.outcome.toOption.elim [] fun result => (next result).events) := by
  change (first.andThen next).events = _
  unfold andThen
  cases first.outcome <;> simp [Except.toOption]

end Traced

end SeamCarving

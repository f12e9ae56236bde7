import SeamCarving.Error

/-!
# The rule for the left edge

A cell in the first column of a cost table has no neighbour up and to the left, so it compares the cell
straight above with one other cell in the second column. The rule says in which row that cell is.
-/

namespace SeamCarving

/-- Which cell of the second column the left edge compares with. -/
inductive LeftEdgeRule where
  /-- The cell one row ahead, which still holds its own energy and no path cost. -/
  | lookahead
  /-- The cell one row behind, as everywhere else in the table. -/
  | previous
  deriving DecidableEq

namespace LeftEdgeRule

/-- The left edge looks ahead unless it is told otherwise. -/
instance : Inhabited LeftEdgeRule := ⟨lookahead⟩

/-- The name of the rule. -/
def name : LeftEdgeRule → String
  | lookahead => "lookahead"
  | previous => "previous"

/-- All rules, in the order in which they are offered. -/
def all : List LeftEdgeRule := [lookahead, previous]

/-- The rule with the given name. Letters of the ASCII alphabet may have either case; the error keeps the
    text as it was given. -/
def ofText (text : String) : Except CarveError LeftEdgeRule :=
  match all.find? fun rule => rule.name == text.toLower with
  | some rule => .ok rule
  | none => .error (.unknownLeftEdgeRule text)

end LeftEdgeRule

end SeamCarving

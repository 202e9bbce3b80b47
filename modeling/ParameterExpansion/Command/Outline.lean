import ParameterExpansion.Node
import ParameterExpansion.Text.Displayed
import ParameterExpansion.Text.Lines

/-!
# Outlines

A tree drawn with guides: each entry stands behind a branch, a corner for the last one, and what
belongs to it is indented behind a line, or behind blanks below a corner. A label with line feeds
goes on behind the guides of its entry.
-/

namespace ParameterExpansion

/-- A tree with labels. -/
inductive Outline where
  /-- An entry with its label and the entries below it. -/
  | entry (label : Text) (children : List Outline)

namespace Outline

/-- Lines with `first` in front of the first one and `others` in front of the others. -/
def hang (first others : Text) : List Text → List Text
  | [] => []
  | line :: rest => (first ++ line) :: rest.map (others ++ ·)

mutual

/-- The lines that draw a tree. -/
def lines : Outline → List Text
  | .entry label children => label.lines ++ branches children

/-- The lines that draw the entries below one entry. -/
def branches : List Outline → List Text
  | [] => []
  | [last] => hang "└── ".toList "    ".toList (lines last)
  | child :: rest => hang "├── ".toList "│   ".toList (lines child) ++ branches rest

end

end Outline

namespace Node

/-- The label of a reference: its name, the symbol of its operator if it has one, and its slice. -/
def referenceLabel (name symbol source : Text) : Text :=
  Text.displayed ("variable ".toList ++ name ++ (if symbol = [] then [] else ' ' :: symbol) ++
    ' ' :: source)

mutual

/-- The outline of a tree: texts quoted, references with one entry for each argument. -/
def outline : Node → Outline
  | .text value => .entry (Text.displayed ("text ".toList ++ value.quoted)) []
  | .reference name symbol arguments source _ =>
    .entry (referenceLabel name symbol source) (outlineArguments 0 arguments)
  | .sequence children => .entry "list".toList (outlineEach children)

/-- The outlines of the trees of a list. -/
def outlineEach : List Node → List Outline
  | [] => []
  | n :: ns => outline n :: outlineEach ns

/-- The entries for arguments, counted from `index` on. -/
def outlineArguments (index : Nat) : List Node → List Outline
  | [] => []
  | n :: ns =>
    .entry ("arg ".toList ++ Text.ofNat index) [outline n] :: outlineArguments (index + 1) ns

end

end Node

end ParameterExpansion

import ParameterExpansion.Parser

/-!
# Templates

A template is a text together with its tree. This module reads a text into a template and lists what
a template refers to.
-/

namespace ParameterExpansion

/-- A text together with its tree. -/
structure Template where
  /-- The tree. -/
  root : Node
  /-- The text. -/
  source : Text

/-- What a template says about one reference. -/
structure ReferenceRecord where
  /-- The name of the variable. -/
  name : Text
  /-- The symbol of the operator. -/
  symbol : Text
  /-- The slice of the template. -/
  source : Text
  /-- The offset of the slice. -/
  position : Nat
  deriving DecidableEq

/-- The record of a reference, unless its position is negative. -/
def Reference.record? (r : Reference) : Option ReferenceRecord :=
  match r.position with
  | .ofNat position => some ⟨r.name, r.symbol, r.source, position⟩
  | .negSucc _ => none

namespace Template

/-- Reads a text under a nesting limit. -/
def parse (limit : NestingLimit) (source : Text) : Except ParseError Template :=
  ((Parser.ofLimit limit).parse source).1.map fun root => ⟨root, source⟩

/-- The references of a template, each before the ones in its arguments. -/
def references (t : Template) : List Reference := t.root.references

/-- The records of a template's references, unless one of them has none. -/
def records? (t : Template) : Option (List ReferenceRecord) := t.references.mapM (·.record?)

/-- The names that a template refers to, each once, in the order of their first references. -/
def names (t : Template) : List Text := (t.references.map (·.name)).eraseDups

end Template

end ParameterExpansion

import ParameterExpansion.Text.Case.Table

/-!
# Upper and lower case

The full case mappings, which may turn one character into several. They are those of single
characters (`upperChar`, `lowerChar`) but for one rule: a capital sigma
at the end of a word becomes the final small sigma. Whether it ends a word is decided by the nearest
characters that are not ignored: a cased one before it and none after it.
-/

namespace ParameterExpansion.Text

/-- The code point that a run maps `code` to, when the run holds it. -/
def CaseRun.map? (run : CaseRun) (code : Nat) : Option Nat :=
  if run.first ≤ code && code ≤ run.last && (code - run.first) % run.step = 0 then
    some (run.target + (code - run.first))
  else none

/-- The mapping of one character that the sequences and the runs of a table give. -/
def mapCase (sequences : List (Nat × List Nat)) (runs : List CaseRun) (c : Char) : Text :=
  match sequences.lookup c.toNat with
  | some codes => codes.map Char.ofNat
  | none => match runs.findSome? (·.map? c.toNat) with
    | some code => [Char.ofNat code]
    | none => [c]

/-- The upper-case form of a single character. -/
def upperChar (c : Char) : Text := mapCase upperSequences upperRuns c

/-- The lower-case form of a single character. -/
def lowerChar (c : Char) : Text := mapCase lowerSequences lowerRuns c

/-- The capital sigma. -/
def capitalSigma : Char := '\u03A3'

/-- The small sigma that ends a word. -/
def finalSigma : Char := '\u03C2'

/-- An ignorable character does not part the letters of a word. -/
def isIgnorable (c : Char) : Bool := within ignorableRanges c.toNat

/-- A cased character has an upper or a lower case. -/
def isCased (c : Char) : Bool := within casedRanges c.toNat

/-- `touchesWord t` tells whether the first character of `t` that is not ignored is cased. -/
def touchesWord (t : Text) : Bool :=
  match t.dropWhile isIgnorable with
  | [] => false
  | c :: _ => isCased c

/-- The lower-case form of a text of which the characters of `before` come first, the last of them
first. -/
def lowerAfter (before : Text) : Text → Text
  | [] => []
  | c :: rest =>
    (if c = capitalSigma && touchesWord before && !touchesWord rest then [finalSigma]
      else lowerChar c) ++ lowerAfter (c :: before) rest

/-- The upper-case form of a text. -/
def upper (t : Text) : Text := t.flatMap upperChar

/-- The lower-case form of a text. -/
def lower (t : Text) : Text := lowerAfter [] t

/-- `onFirst f t` is `t` with its first character, taken alone, mapped by `f`. -/
def onFirst (f : Char → Text) : Text → Text
  | [] => []
  | c :: rest => f c ++ rest

/-- `upperFirst t` is `t` with its first character in upper case. -/
def upperFirst (t : Text) : Text := onFirst upperChar t

/-- `lowerFirst t` is `t` with its first character in lower case. -/
def lowerFirst (t : Text) : Text := onFirst lowerChar t

end ParameterExpansion.Text

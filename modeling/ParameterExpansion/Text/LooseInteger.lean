import ParameterExpansion.Text.Blank
import ParameterExpansion.Text.Integer
import ParameterExpansion.Text.Pattern

/-!
# Loosely written integers

An integer as people write it: with white space around it, a sign, zeros in front, low lines between
groups of digits, and a point with nothing but zeros behind it. `plain?` takes all of this away, and
what is left is read strictly (`readStrictly?`).
-/

namespace ParameterExpansion.Text

/-- The information separators of ASCII. -/
def isSeparator (c : Char) : Bool := 0x1C ≤ c.toNat && c.toNat ≤ 0x1F

/-- White space that may stand around an integer: every blank but the information separators. -/
def isMargin (c : Char) : Bool := isBlank c && !isSeparator c

/-- What is left of a number behind the zero `last`: low lines are skipped with the zeros. The last
character that was skipped stays where no other digit comes before the end or the point, and nothing
is left where something else comes. -/
def behindZero (last : Char) : Text → Option Text
  | [] => some [last]
  | c :: rest =>
    if c = '0' || c = '_' then behindZero c rest
    else if isDigit c then some (c :: rest)
    else if c = '.' then some (last :: c :: rest)
    else none

/-- A number without zeros in front. It has to start with a digit, or with a minus, behind which zeros
stay. -/
def withoutLeadingZeros : Text → Option Text
  | [] => none
  | c :: rest =>
    if c = '0' then behindZero c rest
    else if isDigit c || c = '-' then some (c :: rest)
    else none

/-- What stands before the point of a number, where nothing but zeros stand behind it. -/
def withoutZeroFraction (t : Text) : Text :=
  match t.cut? ['.'] with
  | some (whole, fraction) => if fraction.all (· == '0') then whole else t
  | none => t

/-- Whether the low lines of a text only separate: none stands at an end, and no two stand side by
side. -/
def isGrouped (t : Text) : Bool :=
  t.head? ≠ some '_' && t.getLast? ≠ some '_' && (t.cut? ['_', '_']).isNone

/-- A number without the low lines that separate its groups. -/
def ungrouped (t : Text) : Text := if t.isGrouped then t.filter (· ≠ '_') else t

/-- A number without a plus in front; a second sign may not follow. -/
def withoutPlus : Text → Option Text
  | '+' :: '-' :: _ => none
  | '+' :: rest => some rest
  | t => some t

/-- A loosely written integer without what does not count in it. -/
def plain? (t : Text) : Option Text :=
  ((withoutPlus (t.stripped isMargin)).bind withoutLeadingZeros).map fun number =>
    (withoutZeroFraction number).ungrouped

/-- The numeral that a text is, sign included, where no zero stands in front of another digit. -/
def readStrictly? (t : Text) : Option Numeral :=
  (Numeral.read? t).filter fun numeral =>
    numeral.digits.head? ≠ some '0' || numeral.digits.length = 1

/-- The numeral that is loosely written. -/
def looseInteger? (t : Text) : Option Numeral := t.plain?.bind readStrictly?

end ParameterExpansion.Text

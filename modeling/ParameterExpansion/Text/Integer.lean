import ParameterExpansion.Text.Blank

/-!
# Written integers

An integer is written as an optional sign and one or more decimal digits. Zeros in front are
allowed, and they count as digits where the number of digits is limited.
-/

namespace ParameterExpansion.Text

/-- `isDigit c` holds of the ten decimal digits of ASCII. -/
def isDigit (c : Char) : Bool := '0'.toNat ≤ c.toNat && c.toNat ≤ '9'.toNat

/-- The number that a list of decimal digits writes. -/
def valueOfDigits (digits : Text) : Nat :=
  digits.foldl (fun value c => 10 * value + (c.toNat - '0'.toNat)) 0

/-- A written integer: its sign and its digits. -/
structure Numeral where
  /-- Whether the sign is a minus. -/
  negative : Bool
  /-- The digits after the sign. -/
  digits : Text
  deriving DecidableEq

namespace Numeral

/-- `ofDigits? negative t` is the numeral with the digits `t`, when they are one or more digits. -/
def ofDigits? (negative : Bool) (t : Text) : Option Numeral :=
  if t ≠ [] && t.all isDigit then some ⟨negative, t⟩ else none

/-- `read? t` is the numeral that `t` is, sign included, when it is one. -/
def read? : Text → Option Numeral
  | [] => none
  | c :: rest =>
    if c = '-' then ofDigits? true rest
    else if c = '+' then ofDigits? false rest
    else ofDigits? false (c :: rest)

/-- The integer that a numeral writes. -/
def value (n : Numeral) : Int :=
  if n.negative then -(valueOfDigits n.digits : Int) else valueOfDigits n.digits

end Numeral

end ParameterExpansion.Text

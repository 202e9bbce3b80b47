/-!
# Texts

A `Text` is a list of code points: every length, position and slice of the library counts these.
This module holds the type and the few texts that several modules share.
-/

namespace ParameterExpansion

/-- A text is the list of its code points. -/
abbrev Text := List Char

namespace Text

/-- The apostrophe. -/
def apostrophe : Char := '\x27'

/-- The double quotation mark. -/
def quotationMark : Char := '\x22'

/-- `ranges` holds `code` when `code` lies between the ends, both included, of one of its ranges. -/
def within (ranges : List (Nat × Nat)) (code : Nat) : Bool :=
  ranges.any fun range => range.1 ≤ code && code ≤ range.2

/-- `within` by the ranges themselves. -/
theorem within_iff {ranges : List (Nat × Nat)} {code : Nat} :
    within ranges code = true ↔ ∃ range ∈ ranges, range.1 ≤ code ∧ code ≤ range.2 := by
  simp [within]

/-- The decimal numeral of a natural number. -/
def ofNat (n : Nat) : Text := Nat.toDigits 10 n

/-- The decimal numeral of an integer. -/
def ofInt : Int → Text
  | .ofNat n => ofNat n
  | .negSucc n => '-' :: ofNat (n + 1)

/-- The parts joined, with `separator` between each two. -/
def joined (separator : Text) : List Text → Text
  | [] => []
  | [part] => part
  | part :: rest => part ++ separator ++ joined separator rest

/-- The last `width` hexadecimal digits of `n`, in lower case, with zeros in front. -/
def hexadecimal : Nat → Nat → Text
  | 0, _ => []
  | width + 1, n => hexadecimal width (n / 16) ++ [Nat.digitChar (n % 16)]

end Text

end ParameterExpansion

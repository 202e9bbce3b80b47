import ParameterExpansion.Text.Printable

/-!
# Quoted texts

How a message quotes a text: between apostrophes, or between quotation marks when the text holds an
apostrophe and no quotation mark; a backslash before the mark in use and before a backslash; tab,
line feed and carriage return by letter; every other unprintable character by its code point.
-/

namespace ParameterExpansion.Text

/-- `quoteMark t` is the mark that `quoted t` stands between. -/
def quoteMark (t : Text) : Char :=
  if t.contains apostrophe && !t.contains quotationMark then quotationMark else apostrophe

/-- An unprintable character by its code point, in as few of two, four and eight digits as hold it. -/
def codeEscape (c : Char) : Text :=
  if c.toNat < 0x100 then '\\' :: 'x' :: hexadecimal 2 c.toNat
  else if c.toNat < 0x10000 then '\\' :: 'u' :: hexadecimal 4 c.toNat
  else '\\' :: 'U' :: hexadecimal 8 c.toNat

/-- A character as it is written between two `mark`s. -/
def quotedChar (mark c : Char) : Text :=
  if c = mark || c = '\\' then ['\\', c]
  else if c = '\t' then ['\\', 't']
  else if c = '\n' then ['\\', 'n']
  else if c = '\r' then ['\\', 'r']
  else if isPrintable c then [c]
  else codeEscape c

/-- `quoted t` is `t` as a message quotes it. -/
def quoted (t : Text) : Text :=
  quoteMark t :: t.flatMap (quotedChar (quoteMark t)) ++ [quoteMark t]

end ParameterExpansion.Text

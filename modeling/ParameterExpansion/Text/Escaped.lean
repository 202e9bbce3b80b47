import ParameterExpansion.Text

/-!
# Escaped texts

Texts as strings of JSON in ASCII alone: a quotation mark and a backslash behind a backslash, five
controls by letter, and every other character outside the printable ones of ASCII by its UTF-16
units.
-/

namespace ParameterExpansion.Text

/-- The UTF-16 unit `unit` as a JSON string writes it. -/
def unitEscape (unit : Nat) : Text := '\\' :: 'u' :: hexadecimal 4 unit

/-- A character as a JSON string writes it. -/
def escapedChar (c : Char) : Text :=
  if c = quotationMark || c = '\\' then ['\\', c]
  else if c = '\n' then ['\\', 'n']
  else if c = '\r' then ['\\', 'r']
  else if c = '\t' then ['\\', 't']
  else if c = '\x08' then ['\\', 'b']
  else if c = '\x0C' then ['\\', 'f']
  else if 0x20 ≤ c.toNat && c.toNat < 0x7F then [c]
  else if c.toNat < 0x10000 then unitEscape c.toNat
  else
    unitEscape (0xD800 + (c.toNat - 0x10000) / 0x400) ++
      unitEscape (0xDC00 + (c.toNat - 0x10000) % 0x400)

/-- `escaped t` is `t` as a JSON string, the quotation marks included. -/
def escaped (t : Text) : Text :=
  quotationMark :: t.flatMap escapedChar ++ [quotationMark]

end ParameterExpansion.Text

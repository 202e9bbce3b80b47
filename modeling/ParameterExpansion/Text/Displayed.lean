import ParameterExpansion.Text

/-!
# Displayed texts

How labels and diagnostics show a text: without control characters that would move the cursor, with
blanks for tabs, and without the backslash in front of a bracket that opens no style.
-/

namespace ParameterExpansion.Text

/-- The control characters that are not shown. -/
def droppedControls : Text := ['\x07', '\x08', '\x0B', '\x0C', '\r']

/-- The distance between two tab stops. -/
def tabWidth : Nat := 8

/-- The text that starts at a column, with blanks up to the next tab stop for each tab. Every
character is one column wide. -/
def untabbed (column : Nat) : Text → Text
  | [] => []
  | c :: rest =>
    if c = '\n' then c :: untabbed 0 rest
    else if c = '\t' then
      let width := tabWidth - column % tabWidth
      List.replicate width ' ' ++ untabbed (column + width) rest
    else c :: untabbed (column + 1) rest

/-- Whether an opening bracket, with this text behind it, opens what has the form of a style: a
small letter or one of `#/@` comes next, and a closing bracket before any other opening one. -/
def opensStyle : Text → Bool
  | [] => false
  | c :: rest =>
    (c.isLower || ['#', '/', '@'].contains c) && (rest.takeWhile (· ≠ '[')).contains ']'

/-- A text without the backslash in front of each bracket that opens no style. -/
def unescaped : Text → Text
  | '\\' :: '[' :: rest =>
    if opensStyle rest then '\\' :: '[' :: unescaped rest else '[' :: unescaped rest
  | c :: rest => c :: unescaped rest
  | [] => []

/-- A text as labels and diagnostics show it. -/
def displayed (t : Text) : Text :=
  untabbed 0 (t.unescaped.filter fun c => !droppedControls.contains c)

end ParameterExpansion.Text

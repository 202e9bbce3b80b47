import ParameterExpansion.Text

/-!
# Blanks

The characters with the white-space property, and the text that is left when the blanks at the two
ends of a text are taken away.
-/

namespace ParameterExpansion.Text

/-- The ranges of characters that are white space. -/
def blankRanges : List (Nat × Nat) :=
  [(0x09, 0x0D), (0x1C, 0x20), (0x85, 0x85), (0xA0, 0xA0), (0x1680, 0x1680), (0x2000, 0x200A),
   (0x2028, 0x2029), (0x202F, 0x202F), (0x205F, 0x205F), (0x3000, 0x3000)]

/-- A blank is a character that is white space. -/
def isBlank (c : Char) : Bool := within blankRanges c.toNat

/-- `t.stripped p` is `t` without the characters of the class `p` at its two ends. -/
def stripped (t : Text) (p : Char → Bool) : Text := ((t.dropWhile p).reverse.dropWhile p).reverse

/-- Nothing is dropped from a text without characters of the class. -/
theorem dropWhile_of_forall {t : Text} {p : Char → Bool} (h : ∀ c ∈ t, p c = false) :
    t.dropWhile p = t := by
  cases t with
  | nil => rfl
  | cons c rest => simp [h c (by simp)]

/-- A text without characters of the class stays as it is. -/
theorem stripped_of_forall {t : Text} {p : Char → Bool} (h : ∀ c ∈ t, p c = false) :
    t.stripped p = t := by
  rw [stripped, dropWhile_of_forall h, dropWhile_of_forall (by simpa using h),
    List.reverse_reverse]

/-- `trimmed t` is `t` without the blanks at its two ends. -/
def trimmed (t : Text) : Text := t.stripped isBlank

/-- A text without blanks at its ends stays as it is. -/
theorem trimmed_of_not_blank {t : Text} (h : ∀ c ∈ t, isBlank c = false) : trimmed t = t :=
  stripped_of_forall h

end ParameterExpansion.Text

import ParameterExpansion.Proofs.Operator.Oversized

/-!
# The fields of slices

What a field of a slice is, stated without reading it: malformed (`IsMalformedField`), oversized, or
one that writes an integer (`WritesInteger`). Reading a field tells which (`Action.integerField`).
The offset is always read, the length only where the slice starts within the value; so a malformed
length is not always noticed (`operate_malformed_iff`).
-/

namespace ParameterExpansion

/-- A text is one or more decimal digits of ASCII. -/
def Text.AreDigits (t : Text) : Prop := t ≠ [] ∧ ∀ c ∈ t, isDigit c = true

/-- A text is a numeral: an optional sign and one or more digits. -/
inductive Text.Writes : Text → Numeral → Prop
  /-- Without a sign. -/
  | unsigned : AreDigits digits → Writes digits ⟨false, digits⟩
  /-- With a plus. -/
  | plus : AreDigits digits → Writes ('+' :: digits) ⟨false, digits⟩
  /-- With a minus. -/
  | minus : AreDigits digits → Writes ('-' :: digits) ⟨true, digits⟩

/-- A field, blanks at its ends aside, is neither empty nor an optional sign and digits. -/
def IsMalformedField (written : Text) : Prop :=
  written.trimmed ≠ [] ∧ ¬ ∃ numeral, written.trimmed.Writes numeral

/-- A field, blanks at its ends aside, is an integer of no more digits than are read, or it is
empty, which stands for zero. -/
inductive WritesInteger (written : Text) : Int → Prop
  /-- The empty field. -/
  | empty : written.trimmed = [] → WritesInteger written 0
  /-- An integer. -/
  | numeral : written.trimmed.Writes numeral → numeral.digits.length ≤ digitLimit →
      WritesInteger written numeral.value

section
variable {t written offset : Text} {field : SliceField} {start : Int}

/-! ## Reading a field -/

namespace Text

/-- Neither sign is a digit. -/
theorem not_isDigit_sign {c : Char} (h : c = '-' ∨ c = '+') : isDigit c = false := by
  rcases h with rfl | rfl <;> decide

namespace Numeral
variable {negative : Bool} {n : Numeral}

/-- Digits are read as the digits of a numeral. -/
theorem ofDigits?_eq_some_iff :
    ofDigits? negative t = some n ↔ AreDigits t ∧ n = ⟨negative, t⟩ := by
  have hdigits : (t ≠ [] && t.all isDigit) = true ↔ AreDigits t := by simp [AreDigits]
  unfold ofDigits?
  split
  · next h =>
    rw [Option.some.injEq, and_iff_right (hdigits.1 h)]
    exact eq_comm
  · next h => exact iff_of_false nofun fun hboth => h (hdigits.2 hboth.1)

/-- A text is read as the numeral that it writes. -/
theorem read?_eq_some_iff : read? t = some n ↔ t.Writes n := by
  constructor
  · intro h
    cases t with
    | nil => cases h
    | cons c rest =>
      rw [read?] at h
      split at h
      · next hminus =>
        obtain ⟨hdigits, rfl⟩ := ofDigits?_eq_some_iff.1 h
        rw [hminus]
        exact .minus hdigits
      split at h
      · next hplus =>
        obtain ⟨hdigits, rfl⟩ := ofDigits?_eq_some_iff.1 h
        rw [hplus]
        exact .plus hdigits
      · obtain ⟨hdigits, rfl⟩ := ofDigits?_eq_some_iff.1 h
        exact .unsigned hdigits
  · intro h
    cases h with
    | plus hdigits =>
      rw [read?, if_neg (by decide), if_pos rfl]
      exact ofDigits?_eq_some_iff.2 ⟨hdigits, rfl⟩
    | minus hdigits =>
      rw [read?, if_pos rfl]
      exact ofDigits?_eq_some_iff.2 ⟨hdigits, rfl⟩
    | unsigned hdigits =>
      obtain ⟨hne, hall⟩ := hdigits
      cases t with
      | nil => exact absurd rfl hne
      | cons c rest =>
        have hsign : ¬ (c = '-' ∨ c = '+') := fun hsign => by
          have := hall c List.mem_cons_self
          rw [not_isDigit_sign hsign] at this
          cases this
        rw [read?, if_neg fun h => hsign (.inl h), if_neg fun h => hsign (.inr h)]
        exact ofDigits?_eq_some_iff.2 ⟨⟨hne, hall⟩, rfl⟩

end Numeral

end Text

namespace Action

/-- Reading a field gives the integer that it writes. -/
theorem integerField_eq_ok_iff : integerField field written = .ok start ↔
    WritesInteger written start := by
  constructor
  · intro h
    unfold integerField at h
    split at h
    · next hempty =>
      cases h
      exact .empty hempty
    split at h
    · cases h
    next numeral hread =>
    split at h
    · cases h
    · next hlimit =>
      cases h
      exact .numeral (Text.Numeral.read?_eq_some_iff.1 hread) (Nat.not_lt.1 hlimit)
  · intro h
    cases h with
    | empty hempty => rw [integerField, if_pos hempty]
    | numeral hnumeral hlimit =>
      have hne : written.trimmed ≠ [] := by
        intro hempty
        rw [hempty] at hnumeral
        cases hnumeral with
        | unsigned hdigits => exact hdigits.1 rfl
      rw [integerField, if_neg hne, Text.Numeral.read?_eq_some_iff.2 hnumeral]
      exact if_neg (Nat.not_lt.2 hlimit)

/-- Reading a field gives up the evaluation when the field is malformed, and names it. -/
theorem integerField_eq_evaluation_iff {e : EvaluationError} :
    integerField field written = .error (.evaluation e) ↔
      IsMalformedField written ∧ e = ⟨.invalidField field written.trimmed, none⟩ := by
  unfold integerField
  split
  · next hempty => exact iff_of_false nofun fun h => h.1.1 hempty
  next hne =>
  split
  · next hread =>
    have hnone : ¬ ∃ numeral, written.trimmed.Writes numeral := by
      rintro ⟨numeral, hnumeral⟩
      rw [Text.Numeral.read?_eq_some_iff.2 hnumeral] at hread
      cases hread
    constructor
    · intro h
      cases h
      exact ⟨⟨hne, hnone⟩, rfl⟩
    · rintro ⟨-, rfl⟩
      rfl
  · next numeral hread =>
    refine iff_of_false ?_ fun h => h.1.2 ⟨numeral, Text.Numeral.read?_eq_some_iff.1 hread⟩
    split <;> nofun

/-- A field is malformed, or oversized, or writes an integer. -/
theorem field_cases (written : Text) :
    IsMalformedField written ∨ (∃ count, OversizedField written count) ∨
      ∃ start, WritesInteger written start := by
  by_cases hempty : written.trimmed = []
  · exact .inr (.inr ⟨0, .empty hempty⟩)
  by_cases hnumeral : ∃ numeral, written.trimmed.Writes numeral
  · obtain ⟨numeral, hnumeral⟩ := hnumeral
    rcases Nat.lt_or_ge digitLimit numeral.digits.length with hlimit | hlimit
    · exact .inr (.inl ⟨_, numeral, Text.Numeral.read?_eq_some_iff.2 hnumeral, rfl, hlimit⟩)
    · exact .inr (.inr ⟨numeral.value, .numeral hnumeral hlimit⟩)
  · exact .inl ⟨hempty, hnumeral⟩

/-- A malformed field writes no integer. -/
theorem not_writesInteger_of_malformed (h : IsMalformedField written) :
    ¬ WritesInteger written start := by
  intro hstart
  have hread := (@integerField_eq_evaluation_iff written .offset _).2 ⟨h, rfl⟩
  rw [integerField_eq_ok_iff.2 hstart] at hread
  cases hread

/-! ## Slices with a malformed field -/

/-- An offset that is not positive lies within any text. -/
theorem sliceStart_le {size : Nat} (h : start ≤ 0) : sliceStart size start ≤ size := by
  unfold sliceStart
  split <;> omega

/-- An offset that is positive lies behind the end of an empty text. -/
theorem nonpos_of_sliceStart (h : sliceStart 0 start ≤ 0) : start ≤ 0 := by
  unfold sliceStart at h
  split at h <;> omega

/-- A malformed offset is noticed. -/
theorem substringOf_of_malformed_offset (h : IsMalformedField offset) (extent : Option Text) :
    substringOf t offset extent =
      .error (.evaluation ⟨.invalidField .offset offset.trimmed, none⟩) := by
  rw [substringOf, integerField_eq_evaluation_iff.2 ⟨h, rfl⟩]

/-- A malformed length is noticed where the slice starts within the text. -/
theorem substringOf_of_malformed_length (hoffset : WritesInteger offset start)
    (h : IsMalformedField written) :
    substringOf t offset (some written) =
      if sliceStart t.length start ≤ t.length then
        .error (.evaluation ⟨.invalidField .length written.trimmed, none⟩)
      else .ok [] := by
  rw [substringOf, integerField_eq_ok_iff.2 hoffset]
  dsimp only
  split
  · next hbehind => rw [if_neg (Nat.not_le.2 hbehind)]
  · next hwithin =>
    rw [if_pos (Nat.not_lt.1 hwithin), integerField_eq_evaluation_iff.2 ⟨h, rfl⟩]

/-- An oversized offset is refused. -/
theorem substringOf_of_oversized {count : Nat} (h : OversizedField offset count)
    (extent : Option Text) :
    substringOf t offset extent = .error (.invalid (.tooManyDigits count)) :=
  substringOf_eq_invalid_iff.2 (.inl (integerField_eq_invalid_iff.2 ⟨count, rfl, h⟩))

/-- The operator of slices takes one. -/
theorem operate_substring (value : Option Text) (offset : Text) (extent : Option Text) :
    operate Operator.substring.symbol value (offset :: extent.toList) =
      substringOf (value.getD []) offset extent := by
  rw [operate, of?_eq_substring_iff.2 ⟨rfl, rfl⟩]
  rfl

end Action

/-- A slice with a malformed field is given up for it if the offset is malformed, and also if the
offset is an integer and the slice starts within the value: then the length is malformed. Where the
slice starts behind the end of the value, a malformed length is not noticed, nor is it behind an
oversized offset, which is refused instead. So a malformed field is noticed whatever the value is
just when it is the offset, or the offset is an integer that is not positive. -/
theorem operate_malformed_iff {offset : Text} {extent : Option Text}
    (h : ∃ written ∈ offset :: extent.toList, IsMalformedField written) :
    (IsMalformedField offset → ∀ value,
      operate Operator.substring.symbol value (offset :: extent.toList) =
        .error (.evaluation ⟨.invalidField .offset offset.trimmed, none⟩)) ∧
    (∀ start, WritesInteger offset start → ∃ written, extent = some written ∧
      IsMalformedField written ∧ ∀ value,
        operate Operator.substring.symbol value (offset :: extent.toList) =
          if Action.sliceStart (value.getD []).length start ≤ (value.getD []).length then
            .error (.evaluation ⟨.invalidField .length written.trimmed, none⟩)
          else .ok []) ∧
    (∀ count, OversizedField offset count → ∀ value,
      operate Operator.substring.symbol value (offset :: extent.toList) =
        .error (.invalid (.tooManyDigits count))) ∧
    ((∀ value, ∃ e, operate Operator.substring.symbol value (offset :: extent.toList) =
        .error (.evaluation e)) ↔
      IsMalformedField offset ∨ ∃ start ≤ 0, WritesInteger offset start) := by
  simp only [Action.operate_substring]
  have hlength : ∀ start, WritesInteger offset start → ∃ written, extent = some written ∧
      IsMalformedField written ∧ ∀ t, Action.substringOf t offset extent =
        if Action.sliceStart t.length start ≤ t.length then
          .error (.evaluation ⟨.invalidField .length written.trimmed, none⟩)
        else .ok [] := by
    intro start hstart
    obtain ⟨written, hwritten, hmalformed⟩ := h
    rcases List.mem_cons.1 hwritten with rfl | hwritten
    · exact absurd hstart (Action.not_writesInteger_of_malformed hmalformed)
    · obtain rfl := Option.mem_toList.1 hwritten
      exact ⟨written, rfl, hmalformed, fun t =>
        Action.substringOf_of_malformed_length hstart hmalformed⟩
  refine ⟨fun hoffset value => Action.substringOf_of_malformed_offset hoffset extent,
    fun start hstart => ?_, fun count hcount value => Action.substringOf_of_oversized hcount extent,
    fun hall => ?_, ?_⟩
  · obtain ⟨written, hextent, hmalformed, heq⟩ := hlength start hstart
    exact ⟨written, hextent, hmalformed, fun value => heq _⟩
  · -- Over an unset variable, a slice with a positive offset starts behind the end.
    obtain ⟨e, he⟩ := hall none
    rcases Action.field_cases offset with hoffset | ⟨count, hcount⟩ | ⟨start, hstart⟩
    · exact .inl hoffset
    · rw [Action.substringOf_of_oversized hcount] at he
      cases he
    · obtain ⟨written, -, -, heq⟩ := hlength start hstart
      refine .inr ⟨start, ?_, hstart⟩
      rw [heq] at he
      split at he
      · next hwithin => exact Action.nonpos_of_sliceStart hwithin
      · cases he
  · rintro (hoffset | ⟨start, hle, hstart⟩) value
    · exact ⟨_, Action.substringOf_of_malformed_offset hoffset extent⟩
    · obtain ⟨written, -, -, heq⟩ := hlength start hstart
      rw [heq, if_pos (Action.sliceStart_le hle)]
      exact ⟨_, rfl⟩

/-- Of the texts `abc` and `abcdef`, a slice with the offset `5` and the length `zz` is empty for
the one and given up for the other; with the offset `-5` it is given up whatever the text is. -/
theorem operate_malformed_specimens :
    operate Operator.substring.symbol (some "abc".toList) ["5".toList, "zz".toList] = .ok [] ∧
    operate Operator.substring.symbol (some "abcdef".toList) ["5".toList, "zz".toList] =
      .error (.evaluation ⟨.invalidField .length "zz".toList, none⟩) ∧
    ∀ value, ∃ e, operate Operator.substring.symbol value ["-5".toList, "zz".toList] =
      .error (.evaluation e) := by
  have hzz : IsMalformedField "zz".toList := by
    refine ⟨by decide, ?_⟩
    rintro ⟨numeral, hnumeral⟩
    cases Text.Numeral.read?_eq_some_iff.2 hnumeral
  have hmalformed : ∀ offset, ∃ written ∈ offset :: (some "zz".toList).toList,
      IsMalformedField written :=
    fun offset => ⟨_, List.mem_cons_of_mem _ List.mem_cons_self, hzz⟩
  have hwrites : ∀ {written start}, Action.integerField .offset written = .ok start →
      WritesInteger written start := Action.integerField_eq_ok_iff.1
  have hpositive : WritesInteger "5".toList 5 := hwrites rfl
  have hnegative : WritesInteger "-5".toList (-5) := hwrites rfl
  obtain ⟨-, hlength, -, -⟩ := operate_malformed_iff (hmalformed "5".toList)
  obtain ⟨-, -, -, hall⟩ := operate_malformed_iff (hmalformed "-5".toList)
  obtain ⟨written, hwritten, -, heq⟩ := hlength 5 hpositive
  cases hwritten
  exact ⟨heq (some "abc".toList), heq (some "abcdef".toList),
    hall.2 (.inr ⟨-5, by decide, hnegative⟩)⟩

end

end ParameterExpansion

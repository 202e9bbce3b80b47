import ParameterExpansion.Evaluation

/-!
# Oversized fields

An operator that gives no value gives up the evaluation, with one exception: an integer in a field
of a slice that has more digits than are read is refused instead. `Occurrence.Oversized` says when a
slice comes to such a field, and `Occurrence.result_eq_invalid_iff` that there is no other reason to
refuse a value.
-/

namespace ParameterExpansion

/-- The field of a slice is, blanks at its ends aside, an integer of `count` digits, which are more
than are read. -/
def OversizedField (written : Text) (count : Nat) : Prop :=
  ∃ numeral, Text.Numeral.read? written.trimmed = some numeral ∧
    numeral.digits.length = count ∧ digitLimit < count

/-- Taking a slice comes to a field with `count` digits, which are more than are read. -/
inductive Occurrence.Oversized (o : Occurrence) (value : Option Text) (count : Nat) : Prop
  /-- The offset, with a length behind it or without. -/
  | offset (extent : Option Text) : o.symbol = Operator.substring.symbol →
      o.arguments = offset :: extent.toList → OversizedField offset count → o.Oversized value count
  /-- The length, which is read unless the slice starts behind the end of the value. -/
  | length : o.symbol = Operator.substring.symbol → o.arguments = [offset, extent] →
      Action.integerField .offset offset = .ok start →
      Action.sliceStart (value.getD []).length start ≤ (value.getD []).length →
      OversizedField extent count → o.Oversized value count

/-- Only slices have fields. -/
theorem Occurrence.Oversized.symbol {o : Occurrence} {value : Option Text} {count : Nat}
    (h : o.Oversized value count) : o.symbol = Operator.substring.symbol := by
  cases h with
  | offset _ hsymbol | length hsymbol => exact hsymbol

namespace Action

/-- A field is refused when it is oversized. -/
theorem integerField_eq_invalid_iff {field : SliceField} {written : Text} {reason : InvalidValue} :
    integerField field written = .error (.invalid reason) ↔
      ∃ count, reason = .tooManyDigits count ∧ OversizedField written count := by
  unfold integerField
  split
  · next hempty =>
    constructor
    · intro h
      cases h
    · rintro ⟨count, -, numeral, hread, -⟩
      rw [hempty] at hread
      cases hread
  split
  · next hread =>
    constructor
    · intro h
      cases h
    · rintro ⟨count, -, numeral, hread', -⟩
      rw [hread] at hread'
      cases hread'
  next numeral hread =>
  split
  · next hlimit =>
    constructor
    · intro h
      cases h
      exact ⟨_, rfl, numeral, hread, rfl, hlimit⟩
    · rintro ⟨count, rfl, numeral', hread', rfl, -⟩
      rw [hread] at hread'
      cases hread'
      rfl
  · next hlimit =>
    constructor
    · intro h
      cases h
    · rintro ⟨count, -, numeral', hread', rfl, hlimit'⟩
      rw [hread] at hread'
      cases hread'
      exact absurd hlimit' hlimit

/-- A slice is refused for an oversized offset, or for an oversized length when it starts within the
text. -/
theorem substringOf_eq_invalid_iff {t offset : Text} {extent : Option Text}
    {reason : InvalidValue} :
    substringOf t offset extent = .error (.invalid reason) ↔
      integerField .offset offset = .error (.invalid reason) ∨
      ∃ start written, integerField .offset offset = .ok start ∧
        sliceStart t.length start ≤ t.length ∧ extent = some written ∧
        integerField .length written = .error (.invalid reason) := by
  unfold substringOf
  cases hoffset : integerField .offset offset with
  | error fault => simp
  | ok start =>
    simp only [reduceCtorEq, false_or, Except.ok.injEq, exists_and_left, exists_eq_left']
    split
    · next hstart =>
      constructor
      · intro h
        cases h
      · rintro ⟨hle, -⟩
        omega
    next hstart =>
    have hstart := Nat.not_lt.1 hstart
    cases extent with
    | none => simp
    | some written =>
      cases hlength : integerField .length written with
      | error fault => simp [hlength, hstart]
      | ok count =>
        have hslice : ¬ slice t (sliceStart t.length start) written count =
            .error (.invalid reason) := by
          unfold slice
          split
          · nofun
          · split <;> nofun
        simp [hlength, hslice]

/-- No action but taking a slice refuses anything. -/
theorem apply_eq_invalid_iff {action : Action} {value : Option Text} {reason : InvalidValue} :
    action.apply value = .error (.invalid reason) ↔
      ∃ offset extent, action = .substring offset extent ∧
        substringOf (value.getD []) offset extent = .error (.invalid reason) := by
  cases action with
  | substring offset extent =>
    constructor
    · intro h
      exact ⟨offset, extent, rfl, h⟩
    · rintro ⟨_, _, heq, h⟩
      cases heq
      exact h
  | required message =>
    simp only [apply]
    split <;> simp
  | _ => simp [apply]

/-- One operator takes slices, with an offset or an offset and a length. -/
theorem action?_eq_substring_iff {op : Operator} {arguments : List Text} {offset : Text}
    {extent : Option Text} :
    op.action? arguments = some (.substring offset extent) ↔
      op = .substring ∧ arguments = offset :: extent.toList := by
  constructor
  · intro h
    unfold Operator.action? at h
    split at h <;> cases h <;> exact ⟨rfl, rfl⟩
  · rintro ⟨rfl, rfl⟩
    cases extent <;> rfl

/-- An action other than giving the value or its length is that of an operator with the symbol. -/
theorem exists_operator_of_of? {symbol : Text} {arguments : List Text} {action : Action}
    (h : of? symbol arguments = some action) (hvalue : action ≠ .value)
    (hlength : action ≠ .length) :
    ∃ op : Operator, symbol = op.symbol ∧ op.action? arguments = some action := by
  unfold of? at h
  split at h
  · split at h
    · exact absurd (Option.some.inj h).symm hvalue
    · cases h
  split at h
  · exact absurd (Option.some.inj h).symm hlength
  · obtain ⟨op, hop, h⟩ := Option.bind_eq_some_iff.1 h
    exact ⟨op, (Operator.symbol_of_ofSymbol? hop).symm, h⟩

/-- The symbol and the arguments of a slice. -/
theorem of?_eq_substring_iff {symbol : Text} {arguments : List Text} {offset : Text}
    {extent : Option Text} :
    of? symbol arguments = some (.substring offset extent) ↔
      symbol = Operator.substring.symbol ∧ arguments = offset :: extent.toList := by
  constructor
  · intro h
    obtain ⟨op, hop, h⟩ := exists_operator_of_of? h nofun nofun
    obtain ⟨rfl, harguments⟩ := action?_eq_substring_iff.1 h
    exact ⟨hop, harguments⟩
  · rintro ⟨rfl, rfl⟩
    cases extent <;> rfl

end Action

/-- Operators refuse nothing but the fields of slices. -/
theorem operate_eq_invalid_iff {symbol : Text} {value : Option Text} {arguments : List Text}
    {reason : InvalidValue} :
    operate symbol value arguments = .error (.invalid reason) ↔
      ∃ offset extent, symbol = Operator.substring.symbol ∧
        arguments = offset :: Option.toList extent ∧
        Action.substringOf (value.getD []) offset extent = .error (.invalid reason) := by
  unfold operate
  cases hof : Action.of? symbol arguments with
  | none =>
    constructor
    · intro h
      cases h
    · rintro ⟨offset, extent, hsymbol, harguments, -⟩
      rw [Action.of?_eq_substring_iff.2 ⟨hsymbol, harguments⟩] at hof
      cases hof
  | some action =>
    refine Action.apply_eq_invalid_iff.trans ?_
    constructor
    · rintro ⟨offset, extent, rfl, h⟩
      obtain ⟨hsymbol, harguments⟩ := Action.of?_eq_substring_iff.1 hof
      exact ⟨offset, extent, hsymbol, harguments, h⟩
    · rintro ⟨offset, extent, hsymbol, harguments, h⟩
      rw [Action.of?_eq_substring_iff.2 ⟨hsymbol, harguments⟩] at hof
      cases hof
      exact ⟨offset, extent, rfl, h⟩

/-- A refusal does not say which variable it is about. -/
theorem Fault.about_eq_invalid_iff {name : Text} {fault : Fault} {reason : InvalidValue} :
    fault.about name = .invalid reason ↔ fault = .invalid reason := by
  cases fault with
  | evaluation e =>
    obtain ⟨cause, subject⟩ := e
    cases subject <;> simp [Fault.about]
  | _ => simp [Fault.about]

/-- The operator of a reference refuses a value when it comes to an oversized field, and for no
other reason. -/
theorem Occurrence.result_eq_invalid_iff {o : Occurrence} {value : Option Text}
    {reason : InvalidValue} :
    o.result value = .error (.invalid reason) ↔
      ∃ count, reason = .tooManyDigits count ∧ o.Oversized value count := by
  have hresult : o.result value = .error (.invalid reason) ↔
      operate o.symbol value o.arguments = .error (.invalid reason) := by
    unfold Occurrence.result
    cases operate o.symbol value o.arguments with
    | ok t => simp
    | error raised => simp [Fault.about_eq_invalid_iff]
  rw [hresult, operate_eq_invalid_iff]
  constructor
  · rintro ⟨offset, extent, hsymbol, harguments, h⟩
    rcases Action.substringOf_eq_invalid_iff.1 h with
      hoffset | ⟨start, written, hoffset, hstart, rfl, hlength⟩
    · obtain ⟨count, rfl, hcount⟩ := Action.integerField_eq_invalid_iff.1 hoffset
      exact ⟨count, rfl, .offset extent hsymbol harguments hcount⟩
    · obtain ⟨count, rfl, hcount⟩ := Action.integerField_eq_invalid_iff.1 hlength
      exact ⟨count, rfl, .length hsymbol harguments hoffset hstart hcount⟩
  · rintro ⟨count, rfl, h⟩
    cases h with
    | offset extent hsymbol harguments hcount =>
      exact ⟨_, extent, hsymbol, harguments, Action.substringOf_eq_invalid_iff.2
        (.inl (Action.integerField_eq_invalid_iff.2 ⟨count, rfl, hcount⟩))⟩
    | length hsymbol harguments hoffset hstart hcount =>
      exact ⟨_, some _, hsymbol, harguments, Action.substringOf_eq_invalid_iff.2
        (.inr ⟨_, _, hoffset, hstart, rfl,
          Action.integerField_eq_invalid_iff.2 ⟨count, rfl, hcount⟩⟩)⟩

end ParameterExpansion

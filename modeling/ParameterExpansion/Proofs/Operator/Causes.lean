import ParameterExpansion.Proofs.Operator.Oversized

/-!
# Causes

For which causes the operator of a reference gives up an evaluation (`Occurrence.HasCause`): that
there is no operator, a field of a slice that is none, a slice that would stop in front of its
start, and a required value that is missing. Only the last of these may be worded by the template
(`Occurrence.HasCause.message_cases`), so a message that starts like none of the others is that of a
required value (`Occurrence.HasCause.isWordedBy_of_head?`).
-/

namespace ParameterExpansion

/-- The causes for which an action gives up an evaluation. -/
inductive Action.HasCause : Action → EvaluationCause → Prop
  /-- A field of a slice is no integer. -/
  | invalidField : (Action.substring offset extent).HasCause (.invalidField field written)
  /-- A slice would stop in front of its start. -/
  | negativeSlice : (Action.substring offset extent).HasCause (.negativeSlice written)
  /-- A required value is missing, and there is no message. -/
  | nullOrUnset : (Action.required []).HasCause .nullOrUnset
  /-- A required value is missing, and there is a message. -/
  | refused : message ≠ [] → (Action.required message).HasCause (.refused message)

/-- The causes for which the operator of a reference gives up an evaluation. -/
inductive Occurrence.HasCause (o : Occurrence) : EvaluationCause → Prop
  /-- There is no operator. -/
  | noOperator : Action.of? o.symbol o.arguments = none →
      o.HasCause (.noOperator o.symbol o.arguments.length)
  /-- The action has the cause. -/
  | action : Action.of? o.symbol o.arguments = some action → action.HasCause cause →
      o.HasCause cause

/-- A cause is worded by the reference itself: its operator requires a value, and the words are the
argument. -/
def EvaluationCause.IsWordedBy (cause : EvaluationCause) (o : Occurrence) : Prop :=
  ∃ message, cause = .refused message ∧ o.symbol = Operator.required.symbol ∧
    o.arguments = [message]

/-- A fault that gives up the evaluation or refuses a value. -/
def Fault.IsOperators (fault : Fault) : Prop :=
  (∃ e, fault = .evaluation e) ∨ ∃ reason, fault = .invalid reason

section
variable {o : Occurrence} {action : Action} {cause : EvaluationCause} {value : Option Text}
  {fault : Fault}

/-! ## What operators give up for -/

namespace Action

/-- A field that is not read is no integer, or it is refused. -/
theorem exists_of_integerField {field : SliceField} {written : Text}
    (h : integerField field written = .error fault) :
    fault = .evaluation ⟨.invalidField field written.trimmed, none⟩ ∨
      ∃ reason, fault = .invalid reason := by
  unfold integerField at h
  split at h
  · cases h
  split at h
  · cases h
    exact .inl rfl
  split at h
  · cases h
    exact .inr ⟨_, rfl⟩
  · cases h

/-- An action that gives no value gives up the evaluation for one of its causes, or refuses
something. -/
theorem exists_of_apply (h : action.apply value = .error fault) :
    (∃ cause : EvaluationCause, fault = .evaluation ⟨cause, none⟩ ∧ action.HasCause cause) ∨
      ∃ reason, fault = .invalid reason := by
  cases action with
  | substring offset extent =>
    have hfield : ∀ {field written raised}, integerField field written = .error raised →
        (∃ cause : EvaluationCause, raised = .evaluation ⟨cause, none⟩ ∧
          (substring offset extent).HasCause cause) ∨ ∃ reason, raised = .invalid reason :=
      fun h => (exists_of_integerField h).imp_left fun heq => ⟨_, heq, .invalidField⟩
    simp only [apply, substringOf] at h
    split at h
    · next hoffset =>
      cases h
      exact hfield hoffset
    split at h
    · cases h
    split at h
    · cases h
    split at h
    · next hlength =>
      cases h
      exact hfield hlength
    unfold slice at h
    split at h
    · cases h
    split at h
    · cases h
      exact .inl ⟨_, rfl, .negativeSlice⟩
    · cases h
  | required message =>
    simp only [apply] at h
    split at h
    · cases h
      refine .inl ⟨_, rfl, ?_⟩
      split
      · next hempty =>
        subst hempty
        exact .nullOrUnset
      · next hmessage => exact .refused hmessage
    · cases h
  | _ => cases h

/-- One operator requires a value, with a message. -/
theorem of?_eq_required {symbol : Text} {arguments : List Text} {message : Text}
    (h : of? symbol arguments = some (.required message)) :
    symbol = Operator.required.symbol ∧ arguments = [message] := by
  obtain ⟨op, hop, haction⟩ := exists_operator_of_of? h nofun nofun
  unfold Operator.action? at haction
  split at haction <;> cases haction
  exact ⟨hop, rfl⟩

end Action

namespace Occurrence

/-- The operator of a reference that gives no value gives up the evaluation, in the name of the
variable and for one of its causes, or refuses something. -/
theorem exists_of_result (h : o.result value = .error fault) :
    (∃ cause : EvaluationCause, fault = .evaluation ⟨cause, some o.name⟩ ∧ o.HasCause cause) ∨
      ∃ reason, fault = .invalid reason := by
  unfold result operate at h
  cases haction : Action.of? o.symbol o.arguments with
  | none =>
    rw [haction] at h
    cases h
    exact .inl ⟨_, rfl, .noOperator haction⟩
  | some action =>
    rw [haction] at h
    dsimp only at h
    cases happly : action.apply value with
    | ok text =>
      rw [happly] at h
      cases h
    | error raised =>
      rw [happly] at h
      cases h
      rcases Action.exists_of_apply happly with ⟨cause, rfl, hcause⟩ | ⟨reason, rfl⟩
      · exact .inl ⟨cause, rfl, .action haction hcause⟩
      · exact .inr ⟨reason, rfl⟩

/-- The operator of a reference that gives no value gives up the evaluation or refuses something. -/
theorem isOperators_of_result (h : o.result value = .error fault) : fault.IsOperators := by
  rcases exists_of_result h with ⟨cause, rfl, -⟩ | ⟨reason, rfl⟩
  · exact .inl ⟨_, rfl⟩
  · exact .inr ⟨_, rfl⟩

/-! ## How it is worded -/

/-- The cause of a reference is that there is no action, or it starts with one of three letters, or
the reference words it. -/
theorem HasCause.message_cases (h : o.HasCause cause) :
    (Action.of? o.symbol o.arguments = none ∧ cause.message.head? = some 'n') ∨
    (∃ c ∈ ['i', 's', 'p'], cause.message.head? = some c) ∨ cause.IsWordedBy o := by
  cases h with
  | noOperator hnone => exact .inl ⟨hnone, rfl⟩
  | action haction hcause =>
    refine .inr ?_
    cases hcause with
    | invalidField => exact .inl ⟨'i', by decide, rfl⟩
    | negativeSlice => exact .inl ⟨'s', by decide, rfl⟩
    | nullOrUnset => exact .inl ⟨'p', by decide, rfl⟩
    | refused =>
      obtain ⟨hsymbol, harguments⟩ := Action.of?_eq_required haction
      exact .inr ⟨_, rfl, hsymbol, harguments⟩

/-- A cause that starts with another letter is worded by the reference. -/
theorem HasCause.isWordedBy_of_head? {c : Char} (h : o.HasCause cause)
    (hhead : cause.message.head? = some c) (hc : c ∉ ['n', 'i', 's', 'p']) :
    cause.IsWordedBy o := by
  rcases h.message_cases with ⟨-, hn⟩ | ⟨d, hd, hother⟩ | hworded
  · obtain rfl : c = 'n' := Option.some.inj (hhead.symm.trans hn)
    exact absurd List.mem_cons_self hc
  · obtain rfl : c = d := Option.some.inj (hhead.symm.trans hother)
    exact absurd (List.mem_cons_of_mem _ hd) hc
  · exact hworded

end Occurrence

end

end ParameterExpansion

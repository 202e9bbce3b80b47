import ParameterExpansion.Proofs.Evaluation.Reach
import ParameterExpansion.Proofs.Operator.Causes

/-!
# The faults of a visit

Whatever a callback raises, a visit gives up the evaluation; beyond that it ends with a fault only
where the operator does. So a visit refuses a value exactly when the mode hands the value of the
variable on to an operator that comes to an oversized field (`Mode.visit_eq_invalid_iff`).
-/

namespace ParameterExpansion

/-- A mode that is to expand an occurrence hands the value of its variable on to its operator. -/
def Mode.HandsOn : Mode → Occurrence → Option Text → Prop
  | .standard, _, _ => True
  | .strict s, o, value => s.refusal? o.symbol value = none
  | .preserving, o, value => value ≠ none ∨ isDefaulting o.symbol = true

/-- What an `Except` gives is the fault of the run when it is one. -/
theorem Run.ofExcept_eq_error_iff {σ α : Type} {x : Except Fault α} {s t : σ} {fault : Fault} :
    Run.ofExcept x s = .error fault t ↔ x = .error fault ∧ s = t := by
  cases x with
  | ok a => exact ⟨nofun, nofun⟩
  | error raised =>
    constructor
    · intro h
      cases h
      exact ⟨rfl, rfl⟩
    · rintro ⟨h, rfl⟩
      cases h
      rfl

/-- What an `Except` gives is the value of the run when it is one. -/
theorem Run.ofExcept_eq_ok_iff {σ α : Type} {x : Except Fault α} {s t : σ} {a : α} :
    Run.ofExcept x s = .ok a t ↔ x = .ok a ∧ s = t := by
  cases x with
  | error fault => exact ⟨nofun, nofun⟩
  | ok b =>
    constructor
    · intro h
      cases h
      exact ⟨rfl, rfl⟩
    · rintro ⟨h, rfl⟩
      cases h
      rfl

/-- What a callback raises gives up the evaluation. -/
theorem Run.isEvaluation_of_wrapped {σ α : Type} {x : Run σ α} {callback : Callback} {name : Text}
    {s t : σ} {fault : Fault} (h : x.mapFault (.wrapped callback name) s = .error fault t) :
    ∃ e, fault = .evaluation e := by
  obtain ⟨raised, -, rfl⟩ := Run.mapFault_eq_error_iff.1 h
  exact Fault.exists_wrapped_eq callback name raised

section
variable {o : Occurrence} {fault : Fault} {reason : InvalidValue}

/-! ## Interceptors -/

namespace Interceptor
variable {σ : Type} {interceptor : Interceptor σ} {s t : σ}

/-- A visit by an interceptor ends with a fault where the interceptor raises one, or where it leaves
a value to the operator and the operator does. -/
theorem visit_eq_error_iff :
    interceptor.visit o s = .error fault t ↔
      (interceptor o).mapFault (.wrapped .interceptor o.name) s = .error fault t ∨
      ∃ value, interceptor o s = .ok (value, true) t ∧ o.result value = .error fault := by
  unfold visit
  rw [Run.bind_eq_error_iff]
  refine or_congr_right ?_
  constructor
  · rintro ⟨⟨value, proceed⟩, u, hvalue, h⟩
    cases proceed with
    | false => cases h
    | true =>
      obtain ⟨hresult, rfl⟩ := Run.ofExcept_eq_error_iff.1 h
      exact ⟨value, Run.mapFault_eq_ok_iff.1 hvalue, hresult⟩
  · rintro ⟨value, hvalue, hresult⟩
    exact ⟨(value, true), t, Run.mapFault_eq_ok_iff.2 hvalue,
      Run.ofExcept_eq_error_iff.2 ⟨hresult, rfl⟩⟩

/-- A visit by an interceptor refuses a value where the operator does. -/
theorem visit_eq_invalid_iff :
    interceptor.visit o s = .error (.invalid reason) t ↔
      ∃ value, interceptor o s = .ok (value, true) t ∧
        o.result value = .error (.invalid reason) := by
  rw [visit_eq_error_iff]
  constructor
  · rintro (h | h)
    · obtain ⟨e, he⟩ := Run.isEvaluation_of_wrapped h
      cases he
    · exact h
  · exact .inr

/-- A visit by an interceptor ends with no other faults than an operator has. -/
theorem isOperators_of_visit (h : interceptor.visit o s = .error fault t) : fault.IsOperators := by
  rcases visit_eq_error_iff.1 h with h | ⟨value, -, h⟩
  · exact .inl (Run.isEvaluation_of_wrapped h)
  · exact Occurrence.isOperators_of_result h

end Interceptor

/-! ## Modes -/

namespace Mode
variable {s t : Session} {value : Option Text}

/-- Assigning a result raises nothing. -/
theorem writeBack_ne_error {result : Text} : writeBack o value result s ≠ .error fault t := by
  intro h
  unfold writeBack at h
  obtain h | ⟨current, u, -, h⟩ := Run.bind_eq_error_iff.1 h
  · cases h
  · split at h <;> cases h

/-- A standard visit ends with a fault where the resolver raises one, or where the operator does. -/
theorem expand_eq_error_iff :
    expand o s = .error fault t ↔
      (Session.ask o.name).mapFault (.wrapped .resolver o.name) s = .error fault t ∨
      ∃ value, Session.ask o.name s = .ok value t ∧ o.result value = .error fault := by
  unfold expand
  rw [Run.bind_eq_error_iff]
  refine or_congr_right ?_
  constructor
  · rintro ⟨value, u, hvalue, h⟩
    rcases Run.bind_eq_error_iff.1 h with h | ⟨result, u', -, h⟩
    · obtain ⟨hresult, rfl⟩ := Run.ofExcept_eq_error_iff.1 h
      exact ⟨value, Run.mapFault_eq_ok_iff.1 hvalue, hresult⟩
    · rcases Run.bind_eq_error_iff.1 h with h | ⟨_, _, -, h⟩
      · exact absurd h writeBack_ne_error
      · cases h
  · rintro ⟨value, hvalue, hresult⟩
    exact ⟨value, t, Run.mapFault_eq_ok_iff.2 hvalue,
      Run.bind_eq_error_iff.2 (.inl (Run.ofExcept_eq_error_iff.2 ⟨hresult, rfl⟩))⟩

/-- The strict interceptor leaves the value of the variable to the operator if it is not refused and
no result is to be assigned. -/
theorem refuseMissing_eq_ok_iff {strictness : Strictness} :
    refuseMissing strictness o s = .ok (value, true) t ↔
      Session.ask o.name s = .ok value t ∧ strictness.refusal? o.symbol value = none ∧
      (isAssigning o.symbol && t.resolver.acceptsAssignment) = false := by
  unfold refuseMissing
  rw [Run.bind_eq_ok_iff]
  constructor
  · rintro ⟨answer, u, hanswer, h⟩
    cases hrefusal : strictness.refusal? o.symbol answer with
    | some cause =>
      simp only [hrefusal] at h
      cases h
    | none =>
      simp only [hrefusal] at h
      obtain ⟨current, _, hget, h⟩ := Run.bind_eq_ok_iff.1 h
      cases hget
      split at h
      · obtain ⟨result, _, -, h⟩ := Run.bind_eq_ok_iff.1 h
        split at h
        · obtain ⟨_, _, -, h⟩ := Run.bind_eq_ok_iff.1 h
          cases h
        · cases h
      · next hassign =>
        cases h
        exact ⟨hanswer, hrefusal, Bool.eq_false_iff.2 hassign⟩
  · rintro ⟨hanswer, hrefusal, hassign⟩
    refine ⟨value, t, hanswer, ?_⟩
    simp only [hrefusal]
    refine Run.bind_eq_ok_iff.2 ⟨t, t, rfl, ?_⟩
    rw [hassign]
    rfl

/-- The preserving interceptor leaves the value of the variable to the operator if there is one or
the operator accounts for its absence. -/
theorem keepUnset_eq_ok_iff :
    keepUnset o s = .ok (value, true) t ↔
      Session.ask o.name s = .ok value t ∧ (value ≠ none ∨ isDefaulting o.symbol = true) := by
  unfold keepUnset
  rw [Run.bind_eq_ok_iff]
  constructor
  · rintro ⟨answer, u, hanswer, h⟩
    split at h
    · cases h
    · next hkeep =>
      cases h
      refine ⟨hanswer, ?_⟩
      cases value with
      | none => exact .inr (by simpa using hkeep)
      | some => exact .inl nofun
  · rintro ⟨hanswer, hnot⟩
    refine ⟨value, t, hanswer, ?_⟩
    rw [if_neg]
    · rfl
    · rcases hnot with hnot | hnot <;> simp [hnot]

/-- A visit refuses a value exactly when the mode hands the value of the variable on to an operator
that comes to an oversized field. -/
theorem visit_eq_invalid_iff {mode : Mode} :
    mode.visit o s = .error (.invalid reason) t ↔
      ∃ value count, Session.ask o.name s = .ok value t ∧ mode.HandsOn o value ∧
        o.Oversized value count ∧ reason = .tooManyDigits count := by
  have hvisit : mode.visit o s = .error (.invalid reason) t ↔
      ∃ value, Session.ask o.name s = .ok value t ∧ mode.HandsOn o value ∧
        o.result value = .error (.invalid reason) := by
    cases mode with
    | standard =>
      refine expand_eq_error_iff.trans ⟨?_, ?_⟩
      · rintro (h | ⟨value, hvalue, h⟩)
        · obtain ⟨e, he⟩ := Run.isEvaluation_of_wrapped h
          cases he
        · exact ⟨value, hvalue, trivial, h⟩
      · rintro ⟨value, hvalue, -, h⟩
        exact .inr ⟨value, hvalue, h⟩
    | strict strictness =>
      refine Interceptor.visit_eq_invalid_iff.trans ⟨?_, ?_⟩
      · rintro ⟨value, hvalue, h⟩
        obtain ⟨hanswer, hrefusal, -⟩ := refuseMissing_eq_ok_iff.1 hvalue
        exact ⟨value, hanswer, hrefusal, h⟩
      · rintro ⟨value, hanswer, hrefusal, h⟩
        -- Taking a slice assigns nothing, so the interceptor leaves it to the operator.
        obtain ⟨count, -, hcount⟩ := Occurrence.result_eq_invalid_iff.1 h
        have hassign : isAssigning o.symbol = false := by rw [hcount.symbol]; decide
        exact ⟨value, refuseMissing_eq_ok_iff.2 ⟨hanswer, hrefusal, by rw [hassign]; rfl⟩, h⟩
    | preserving =>
      refine Interceptor.visit_eq_invalid_iff.trans ⟨?_, ?_⟩
      · rintro ⟨value, hvalue, h⟩
        obtain ⟨hanswer, hnot⟩ := keepUnset_eq_ok_iff.1 hvalue
        exact ⟨value, hanswer, hnot, h⟩
      · rintro ⟨value, hanswer, hnot, h⟩
        exact ⟨value, keepUnset_eq_ok_iff.2 ⟨hanswer, hnot⟩, h⟩
  rw [hvisit]
  constructor
  · rintro ⟨value, hanswer, hon, h⟩
    obtain ⟨count, hreason, hcount⟩ := Occurrence.result_eq_invalid_iff.1 h
    exact ⟨value, count, hanswer, hon, hcount, hreason⟩
  · rintro ⟨value, count, hanswer, hon, hcount, hreason⟩
    exact ⟨value, hanswer, hon, Occurrence.result_eq_invalid_iff.2 ⟨count, hreason, hcount⟩⟩

/-- A visit ends with no other faults than an operator has. -/
theorem isOperators_of_visit {mode : Mode} (h : mode.visit o s = .error fault t) :
    fault.IsOperators := by
  cases mode with
  | standard =>
    rcases expand_eq_error_iff.1 h with h | ⟨value, -, h⟩
    · exact .inl (Run.isEvaluation_of_wrapped h)
    · exact Occurrence.isOperators_of_result h
  | strict strictness => exact Interceptor.isOperators_of_visit h
  | preserving => exact Interceptor.isOperators_of_visit h

end Mode

end

end ParameterExpansion

import ParameterExpansion.Proofs.Evaluation.Assigned

/-!
# What visits raise

The fault that a visit ends with is one that the operator of the occurrence has on some value, or
that the value of its variable is missing (`Occurrence.Raises`), if nothing that the visit calls
raises another one (`Mode.raises_of_visit`).
-/

namespace ParameterExpansion

/-- The faults that a visit to an occurrence may end with by itself. -/
inductive Occurrence.Raises (o : Occurrence) : Fault → Prop
  /-- The operator has no result on some value. -/
  | result : o.result value = .error fault → o.Raises fault
  /-- The value of the variable is missing. -/
  | refusal : EvaluationCause.IsRefusal cause → o.Raises (.evaluation ⟨cause, some o.name⟩)

namespace Mode

/-- Over a resolver that always answers, a visit raises nothing but its own faults. -/
theorem raises_of_visit {mode : Mode} {o : Occurrence} {s t : Session} {fault : Fault}
    (hs : s.resolver.Answers) (h : mode.visit o s = .error fault t) : o.Raises fault := by
  have hexpand : expand o s = .error fault t → o.Raises fault := by
    intro hexpand
    obtain ⟨value, hresult⟩ := exists_result_of_expand hs hexpand
    exact .result hresult
  cases mode with
  | standard => exact hexpand h
  | strict k =>
    rcases refusal_or_expand_of_strict_visit hs h with ⟨_, cause, -, hrefusal, rfl⟩ | hstandard
    · exact .refusal (Strictness.isRefusal_of_refusal? hrefusal)
    · exact hexpand hstandard
  | preserving =>
    obtain ⟨value, hvalue⟩ := hs.exists_ask o.name
    rw [preserving_visit_eq (Session.ask_eq_ok_iff.2 ⟨hvalue, rfl⟩)] at h
    split at h
    · cases h
    · exact .result (Run.ofExcept_eq_error_iff.1 h).1

/-- Over a resolver that always answers, an evaluation that is given up at a visit is about the
variable of the occurrence. -/
theorem subject_of_visit {mode : Mode} {o : Occurrence} {s t : Session} {e : EvaluationError}
    (hs : s.resolver.Answers) (h : mode.visit o s = .error (.evaluation e) t) :
    e.subject = some o.name := by
  generalize hfault : Fault.evaluation e = fault at h
  cases raises_of_visit hs h with
  | result hresult =>
    rcases Occurrence.exists_of_result hresult with ⟨cause, rfl, -⟩ | ⟨reason, rfl⟩
    · cases hfault
      rfl
    · cases hfault
  | refusal =>
    cases hfault
    rfl

end Mode

end ParameterExpansion

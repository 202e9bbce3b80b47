import ParameterExpansion.Proofs.Evaluation.Standard

/-!
# Strict evaluation

Over a resolver that always answers, a strict visit refuses the value of a variable or does what a
standard visit does (`Mode.strict_visit_eq`). So a strict evaluation is a standard one that is given
up where the first value is refused (`Template.expand_strict`).
-/

namespace ParameterExpansion

/-! ## Refused values -/

/-- A cause for which a missing value is refused. -/
def EvaluationCause.IsRefusal (cause : EvaluationCause) : Prop :=
  cause = .notSet ∨ cause = .setButEmpty

/-- A cause that reads as if a missing value were refused. -/
def EvaluationCause.ReadsAsRefusal (cause : EvaluationCause) : Prop :=
  cause.message = notSet.message ∨ cause.message = setButEmpty.message

namespace Strictness
variable {k : Strictness} {symbol : Text} {value : Option Text} {cause : EvaluationCause}

/-- Where no operator accounts for it, an unset variable is refused under one flag, an empty one
under the other. -/
theorem refusal?_eq_some_iff :
    k.refusal? symbol value = some cause ↔ isDefaulting symbol = false ∧
      (cause = .notSet ∧ value = none ∧ k.noUnset = true ∨
        cause = .setButEmpty ∧ value = some [] ∧ k.noEmpty = true) := by
  unfold refusal?
  cases isDefaulting symbol with
  | true => simp
  | false =>
    rcases value with _ | _ | ⟨c, rest⟩
    · cases k.noUnset <;> simp [@eq_comm _ cause]
    · cases k.noEmpty <;> simp [@eq_comm _ cause]
    · simp

/-- What a value is refused for is a refusal. -/
theorem isRefusal_of_refusal? (h : k.refusal? symbol value = some cause) : cause.IsRefusal := by
  obtain ⟨-, hvalue⟩ := refusal?_eq_some_iff.1 h
  exact hvalue.imp (·.1) (·.1)

/-- A value that is not refused is allowed by the flags, where no operator accounts for it. -/
theorem allows_of_refusal? (h : k.refusal? symbol value = none)
    (hsymbol : isDefaulting symbol = false) :
    (value = none → k.noUnset = false) ∧ (value = some [] → k.noEmpty = false) := by
  constructor
  · rintro rfl
    simpa [refusal?, hsymbol] using h
  · rintro rfl
    simpa [refusal?, hsymbol] using h

end Strictness

namespace Occurrence.HasCause
variable {o : Occurrence} {cause : EvaluationCause}

/-- What an operator gives up for reads as a refusal of a missing value only in the words that the
template gives to `:?`. -/
theorem isWordedBy_of_readsAsRefusal (h : o.HasCause cause) (hreads : cause.ReadsAsRefusal) :
    cause.IsWordedBy o := by
  have hhead : cause.message.head? = some 'v' := by
    rcases hreads with heq | heq <;> exact congrArg List.head? heq
  exact h.isWordedBy_of_head? hhead (by decide)

/-- What an operator gives up for is no refusal of a missing value. -/
theorem not_isRefusal (h : o.HasCause cause) : ¬ cause.IsRefusal := by
  intro hrefusal
  have hreads : cause.ReadsAsRefusal :=
    hrefusal.imp (congrArg EvaluationCause.message) (congrArg EvaluationCause.message)
  obtain ⟨message, rfl, -⟩ := h.isWordedBy_of_readsAsRefusal hreads
  rcases hrefusal with heq | heq <;> cases heq

end Occurrence.HasCause

/-- The result of an assigning operator is a text, or the evaluation is given up. -/
theorem Occurrence.isEvaluation_of_assigning {o : Occurrence} {value : Option Text} {fault : Fault}
    (hassign : isAssigning o.symbol = true) (h : o.result value = .error fault) :
    ∃ e, fault = .evaluation e := by
  rcases exists_of_result h with ⟨cause, rfl, -⟩ | ⟨reason, rfl⟩
  · exact ⟨_, rfl⟩
  · -- Only slices refuse anything, and they assign nothing.
    obtain ⟨count, -, hcount⟩ := result_eq_invalid_iff.1 h
    rw [hcount.symbol] at hassign
    exact absurd hassign (by decide)

/-! ## Visits -/

namespace Mode
variable {k : Strictness} {o : Occurrence} {s t : Session} {value : Option Text}

/-- The strict interceptor refuses the answer of the resolver, or applies an assigning operator to
it, or hands it on. -/
theorem refuseMissing_eq (h : Session.ask o.name s = .ok value t) :
    refuseMissing k o s = match k.refusal? o.symbol value with
      | some cause => .error (.evaluation ⟨cause, some o.name⟩) t
      | none =>
        (if isAssigning o.symbol && t.resolver.acceptsAssignment then do
          let result ← Run.ofExcept (o.result value)
          assignChanged o value result
          return (some result, false)
        else return (value, true) : Run Session (Option Text × Bool)) t := by
  unfold refuseMissing
  rw [Run.bind_of_ok h]
  cases k.refusal? o.symbol value with
  | some cause => rfl
  | none =>
    have hassigned : ∀ result, (do
        if value ≠ some result then Session.assign o.name result
        return (some result, false) : Run Session (Option Text × Bool)) = (do
        assignChanged o value result
        return (some result, false)) := by
      intro result
      unfold assignChanged
      by_cases hvalue : value = some result <;> simp [hvalue]
    simp only [← hassigned]
    rfl

/-- A strict visit refuses the answer of the resolver, or does what a standard visit does. -/
theorem strict_visit_eq (h : Session.ask o.name s = .ok value t) :
    (strict k).visit o s = match k.refusal? o.symbol value with
      | some cause => .error (.evaluation ⟨cause, some o.name⟩) t
      | none => expand o s := by
  have hintercepted := refuseMissing_eq (k := k) h
  cases hrefusal : k.refusal? o.symbol value with
  | some cause =>
    rw [hrefusal] at hintercepted
    exact Run.bind_of_error (Run.mapFault_eq_error_iff.2 ⟨_, hintercepted, rfl⟩)
  | none =>
    rw [hrefusal] at hintercepted
    show (strict k).visit o s = expand o s
    dsimp only at hintercepted
    by_cases hassign : (isAssigning o.symbol && t.resolver.acceptsAssignment) = true
    · -- The interceptor applies the operator and assigns the result itself.
      rw [if_pos hassign] at hintercepted
      rw [expand_eq h]
      cases hresult : o.result value with
      | error fault =>
        -- A fault that passes through the interceptor stays as it is, being an evaluation error.
        rw [hresult] at hintercepted
        obtain ⟨e, rfl⟩ := Occurrence.isEvaluation_of_assigning
          (Bool.and_eq_true_iff.1 hassign).1 hresult
        exact Run.bind_of_error (Run.mapFault_eq_error_iff.2 ⟨_, hintercepted, rfl⟩)
      | ok result =>
        obtain ⟨u, hu⟩ := exists_assignChanged o value result t
        have hwrite := writeBack_eq o value result t
        rw [if_pos hassign, hu] at hwrite
        rw [hresult, Run.ofExcept, pure_bind, Run.bind_of_ok hu] at hintercepted
        rw [Run.ofExcept, pure_bind, Run.bind_of_ok hwrite]
        exact Run.bind_of_ok (Run.mapFault_eq_ok_iff.2 hintercepted)
    · -- It hands the value on, and there is nothing to assign.
      rw [if_neg hassign] at hintercepted
      rw [expand_eq_ofExcept h (Bool.eq_false_iff.2 hassign)]
      exact Run.bind_of_ok (Run.mapFault_eq_ok_iff.2 hintercepted)

/-- A strict visit that ends well is a standard visit, and the flags allow its value. -/
theorem expand_of_strict_visit {text : Text} (hs : s.resolver.Answers)
    (h : (strict k).visit o s = .ok text t) :
    expand o s = .ok text t ∧ (isDefaulting o.symbol = false → ∃ value,
      s.resolver.ask o.name = .ok value ∧ (value = none → k.noUnset = false) ∧
        (value = some [] → k.noEmpty = false)) := by
  obtain ⟨value, hvalue⟩ := hs.exists_ask o.name
  rw [strict_visit_eq (Session.ask_eq_ok_iff.2 ⟨hvalue, rfl⟩)] at h
  cases hrefusal : k.refusal? o.symbol value with
  | some cause =>
    rw [hrefusal] at h
    cases h
  | none =>
    rw [hrefusal] at h
    exact ⟨h, fun hsymbol => ⟨value, hvalue, Strictness.allows_of_refusal? hrefusal hsymbol⟩⟩

/-- A strict visit that ends with a fault refuses the value, or is a standard visit that does. -/
theorem refusal_or_expand_of_strict_visit {fault : Fault} (hs : s.resolver.Answers)
    (h : (strict k).visit o s = .error fault t) :
    (∃ value cause, Session.ask o.name s = .ok value t ∧
      k.refusal? o.symbol value = some cause ∧ fault = .evaluation ⟨cause, some o.name⟩) ∨
    expand o s = .error fault t := by
  obtain ⟨value, hvalue⟩ := hs.exists_ask o.name
  have hask := Session.ask_eq_ok_iff.2 ⟨hvalue, rfl⟩
  rw [strict_visit_eq hask] at h
  cases hrefusal : k.refusal? o.symbol value with
  | some cause =>
    rw [hrefusal] at h
    cases h
    exact .inl ⟨value, cause, hask, hrefusal, rfl⟩
  | none =>
    rw [hrefusal] at h
    exact .inr h

/-- A standard visit is given up for a cause of the operator, so never to refuse a value. -/
theorem hasCause_of_expand {e : EvaluationError} (hs : s.resolver.Answers)
    (h : expand o s = .error (.evaluation e) t) : o.HasCause e.cause := by
  obtain ⟨value, hresult⟩ := exists_result_of_expand hs h
  rcases Occurrence.exists_of_result hresult with ⟨cause, heq, hcause⟩ | ⟨reason, heq⟩
  · cases heq
    exact hcause
  · cases heq

/-- Over resolvers that always answer, a standard visit refines a strict one. -/
theorem refines_strict (k : Strictness) :
    Refines (fun s : Session => s.resolver.Answers) (strict k).visit expand := by
  intro o s text t hs h
  have hexpand := (expand_of_strict_visit hs h).1
  exact ⟨hexpand, answers_of_expand hs hexpand⟩

end Mode

/-! ## Expansions -/

namespace Template
variable {s t : Session}

/-- A strict expansion that ends with a fault does so at a reference that the standard expansion
visits too. It refuses the value of the variable there, or the standard expansion ends with the same
fault. -/
theorem exists_visit_of_strict_error {template : Template} {k : Strictness} {fault : Fault}
    (hs : s.resolver.Answers) (h : template.expand (.strict k) s = .error fault t) :
    ∃ o u, Reaches (Mode.strict k).visit template.root s o u ∧
      Reaches Mode.standard.visit template.root s o u ∧ u.resolver.Answers ∧
      (Mode.strict k).visit o u = .error fault t ∧
      ((∃ value cause, Session.ask o.name u = .ok value t ∧
        k.refusal? o.symbol value = some cause ∧ fault = .evaluation ⟨cause, some o.name⟩) ∨
      Mode.expand o u = .error fault t) := by
  obtain ⟨o, u, hreach, hvisit⟩ := Node.evaluate_eq_error_iff.1 h
  obtain ⟨hstandard, hu⟩ := (Mode.refines_strict k).reaches hs hreach
  exact ⟨o, u, hreach, hstandard, hu, hvisit, Mode.refusal_or_expand_of_strict_visit hu hvisit⟩

/-- Over a resolver that always answers, a strict expansion that ends well is the standard one, in
text, stores, calls and messages, and the flags allow every answer for which no operator accounts.
One that refuses an answer does so where the standard expansion gets it too. One that ends with any
other fault is again the standard one; this reads as a refusal only where it ends at a `:?` to which
the template gives these very words. Without flags there is no difference. -/
theorem expand_strict (template : Template) (k : Strictness) (hs : s.resolver.Answers) :
    (∀ text, template.expand (.strict k) s = .ok text t →
      template.expand .standard s = .ok text t ∧
      ∀ o u, Reaches (Mode.strict k).visit template.root s o u → isDefaulting o.symbol = false →
        ∃ value, u.resolver.ask o.name = .ok value ∧ (value = none → k.noUnset = false) ∧
          (value = some [] → k.noEmpty = false)) ∧
    (∀ e, template.expand (.strict k) s = .error (.evaluation e) t → e.cause.IsRefusal →
      ∃ o u value, Reaches (Mode.strict k).visit template.root s o u ∧
        Reaches Mode.standard.visit template.root s o u ∧
        Session.ask o.name u = .ok value t ∧ e.subject = some o.name ∧
        isDefaulting o.symbol = false ∧
        (e.cause = .notSet ∧ value = none ∧ k.noUnset = true ∨
          e.cause = .setButEmpty ∧ value = some [] ∧ k.noEmpty = true)) ∧
    (∀ fault, template.expand (.strict k) s = .error fault t →
      (∀ e, fault = .evaluation e → ¬ e.cause.IsRefusal) →
      template.expand .standard s = .error fault t) ∧
    (∀ e, template.expand (.strict k) s = .error (.evaluation e) t → e.cause.ReadsAsRefusal →
      e.cause.IsRefusal ∨ ∃ o u, Reaches (Mode.strict k).visit template.root s o u ∧
        (Mode.strict k).visit o u = .error (.evaluation e) t ∧ e.cause.IsWordedBy o) ∧
    (k.noUnset = false → k.noEmpty = false →
      template.expand (.strict k) s = template.expand .standard s) := by
  refine ⟨fun text h => ⟨((Mode.refines_strict k).evaluate hs h).1, fun o u hreach hsymbol => ?_⟩,
    fun e h hcause => ?_, fun fault h hcause => ?_, fun e h hreads => ?_,
    fun hunset hempty => ?_⟩
  · cases hvisit : (Mode.strict k).visit o u with
    | error fault v => exact absurd hvisit (hreach.ne_error h v)
    | ok value v =>
      have hu := ((Mode.refines_strict k).reaches hs hreach).2
      exact (Mode.expand_of_strict_visit hu hvisit).2 hsymbol
  · obtain ⟨o, u, hreach, hstandard, hu, -, ⟨value, cause, hask, hrefusal, heq⟩ | hexpand⟩ :=
      exists_visit_of_strict_error hs h
    · cases heq
      obtain ⟨hsymbol, hvalue⟩ := Strictness.refusal?_eq_some_iff.1 hrefusal
      exact ⟨o, u, value, hreach, hstandard, hask, rfl, hsymbol, hvalue⟩
    · exact absurd hcause (Mode.hasCause_of_expand hu hexpand).not_isRefusal
  · obtain ⟨o, u, -, hstandard, -, -, ⟨value, cause, -, hrefusal, rfl⟩ | hexpand⟩ :=
      exists_visit_of_strict_error hs h
    · exact absurd (Strictness.isRefusal_of_refusal? hrefusal) (hcause _ rfl)
    · exact Node.evaluate_eq_error_iff.2 ⟨o, u, hstandard, hexpand⟩
  · obtain ⟨o, u, hreach, -, hu, hvisit, ⟨value, cause, -, hrefusal, heq⟩ | hexpand⟩ :=
      exists_visit_of_strict_error hs h
    · cases heq
      exact .inl (Strictness.isRefusal_of_refusal? hrefusal)
    · have hcause := Mode.hasCause_of_expand hu hexpand
      exact .inr ⟨o, u, hreach, hvisit, hcause.isWordedBy_of_readsAsRefusal hreads⟩
  · cases h : template.expand (.strict k) s with
    | ok text t => exact ((Mode.refines_strict k).evaluate hs h).1.symm
    | error fault t =>
      obtain ⟨o, u, -, hstandard, -, -, ⟨value, cause, -, hrefusal, -⟩ | hexpand⟩ :=
        exists_visit_of_strict_error hs h
      · obtain ⟨-, ⟨-, -, hflag⟩ | ⟨-, -, hflag⟩⟩ := Strictness.refusal?_eq_some_iff.1 hrefusal
        · rw [hunset] at hflag
          cases hflag
        · rw [hempty] at hflag
          cases hflag
      · exact (Node.evaluate_eq_error_iff.2 ⟨o, u, hstandard, hexpand⟩).symm

/-- In the specimen only `y` is refused, and only as an unset variable: `x` has got its default by
then. -/
theorem expand_strict_specimen :
    (∃ t, specimen.expand (.strict ⟨false, true⟩) (.ofResolver .specimen) = .ok "dd".toList t ∧
      specimen.expand .standard (.ofResolver .specimen) = .ok "dd".toList t) ∧
    ∃ o u t, Reaches Mode.standard.visit specimen.root (.ofResolver .specimen) o u ∧
      Session.ask o.name u = .ok none t ∧
      specimen.expand (.strict ⟨true, false⟩) (.ofResolver .specimen) =
        .error (.evaluation ⟨.notSet, some "y".toList⟩) t := by
  obtain ⟨hok, -⟩ := expand_strict (s := .ofResolver .specimen) specimen ⟨false, true⟩
    Resolver.answers_specimen
  obtain ⟨-, hrefused, -⟩ := expand_strict (s := .ofResolver .specimen) specimen ⟨true, false⟩
    Resolver.answers_specimen
  have hy : specimen.expand (.strict ⟨true, false⟩) (.ofResolver .specimen) =
      .error (.evaluation ⟨.notSet, some "y".toList⟩) _ := rfl
  refine ⟨⟨_, rfl, (hok _ rfl).1⟩, ?_⟩
  obtain ⟨o, u, value, -, hreach, hask, -, -, ⟨-, rfl, -⟩ | ⟨hcause, -⟩⟩ := hrefused _ hy (.inl rfl)
  · exact ⟨o, u, _, hreach, hask, hy⟩
  · cases hcause

end Template

end ParameterExpansion

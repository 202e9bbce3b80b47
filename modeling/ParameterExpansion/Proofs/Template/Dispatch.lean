import ParameterExpansion.Proofs.Evaluation.Calls
import ParameterExpansion.Proofs.Grammar.Canonical
import ParameterExpansion.Proofs.Operator.Dispatch
import ParameterExpansion.Proofs.Parser.Advancing
import ParameterExpansion.Proofs.Template.Accepted

/-!
# The operators of a template

Each reference of a template that was read stands with as many arguments as its symbol takes, so an
evaluation finds an action wherever it comes to visit one, and is never given up because there is no
operator (`Template.operators_found`).
-/

namespace ParameterExpansion

section
variable {o : Occurrence} {action : Action} {e : EvaluationError}

/-! ## References that are visited -/

/-- The references of a well-formed tree have as many arguments as their symbols take. -/
theorem Node.WellFormed.takesArguments {n : Node} (h : n.WellFormed) :
    ∀ r ∈ n.references, TakesArguments r.symbol r.arguments.length := by
  induction h with
  | text => exact nofun
  | reference _ htakes _ ih =>
    intro r hr
    rcases List.mem_cons.1 hr with rfl | hr
    · exact htakes
    · obtain ⟨m, hm, hr⟩ := mem_referencesEach_iff.1 hr
      exact ih m hm r hr
  | sequence _ _ _ _ ih =>
    intro r hr
    obtain ⟨m, hm, hr⟩ := mem_referencesEach_iff.1 hr
    exact ih m hm r hr

/-- What an evaluation of a well-formed tree visits has an action. -/
theorem Node.WellFormed.exists_action {σ : Type} {visit : Occurrence → Run σ Text} {n : Node}
    {s : σ} {v : Occurrence × σ} (h : n.WellFormed) (hv : v ∈ n.visits visit s) :
    ∃ action, Action.of? v.1.symbol v.1.arguments = some action := by
  obtain ⟨r, hr, -, hsymbol, hlength⟩ := exists_reference_of_visits hv
  have htakes := h.takesArguments r hr
  rw [hsymbol, hlength] at htakes
  exact Action.exists_of?_iff.2 htakes

/-- An evaluation of a well-formed tree that ends with a fault does so at a visit with an action. -/
theorem Node.WellFormed.exists_visit_of_error {σ : Type} {visit : Occurrence → Run σ Text}
    {n : Node} {s t : σ} {fault : Fault} (hwell : n.WellFormed)
    (h : n.evaluate visit s = .error fault t) :
    ∃ o u action, (o, u) ∈ n.visits visit s ∧ visit o u = .error fault t ∧
      Action.of? o.symbol o.arguments = some action := by
  obtain ⟨o, u, hmem, hvisit⟩ := Node.exists_visit_of_error h
  obtain ⟨action, haction⟩ := hwell.exists_action hmem
  exact ⟨o, u, action, hmem, hvisit, haction⟩

/-! ## Visits with an action -/

/-- What an occurrence with an action raises is not that there is no operator. -/
theorem Occurrence.Raises.hasOperator (h : o.Raises (.evaluation e))
    (haction : Action.of? o.symbol o.arguments = some action) : e.cause.HasOperator o := by
  cases h with
  | result hresult =>
    rcases exists_of_result hresult with ⟨cause, heq, hcause⟩ | ⟨reason, heq⟩
    · cases heq
      exact hcause.hasOperator haction
    · cases heq
  | refusal hcause =>
    rcases hcause with rfl | rfl
    · exact EvaluationCause.hasOperator_of_head? (c := 'v') rfl (by decide)
    · exact EvaluationCause.hasOperator_of_head? (c := 'v') rfl (by decide)

/-- An interceptor raises nothing but what is a matter of the occurrence and its value. -/
def Interceptor.RaisesOwn {σ : Type} (interceptor : Interceptor σ) : Prop :=
  ∀ o s fault t, interceptor o s = .error fault t → o.Raises fault

/-- A visit by such an interceptor to an occurrence with an action is not given up because there is
none. -/
theorem Interceptor.RaisesOwn.hasOperator_of_visit {σ : Type} {interceptor : Interceptor σ}
    {s t : σ} (hraises : interceptor.RaisesOwn)
    (haction : Action.of? o.symbol o.arguments = some action)
    (h : interceptor.visit o s = .error (.evaluation e) t) : e.cause.HasOperator o := by
  rcases visit_eq_error_iff.1 h with h | ⟨value, -, hresult⟩
  · obtain ⟨raised, hraised, heq⟩ := Run.mapFault_eq_error_iff.1 h
    cases raised with
    | evaluation e' =>
      cases heq
      exact (hraises o s _ t hraised).hasOperator haction
    | parse | missingKey | runtime | invalid =>
      cases heq
      exact EvaluationCause.hasOperator_failed .interceptor _
  · exact (Occurrence.Raises.result hresult).hasOperator haction

/-- A standard visit with callbacks that raise nothing raises nothing but its own faults. -/
theorem Mode.raises_of_expandBy {σ : Type} {lookup : Text → Run σ (Option Text)}
    {keep : Occurrence → Option Text → Text → Run σ Unit}
    (hlookup : ∀ name s, ∃ value t, lookup name s = .ok value t)
    (hkeep : ∀ o value result s, ∃ t, keep o value result s = .ok () t) {s t : σ} {fault : Fault}
    (h : expandBy lookup keep o s = .error fault t) : o.Raises fault := by
  obtain ⟨value, u, hvalue⟩ := hlookup o.name s
  rw [expandBy, Run.bind_of_ok (Run.mapFault_eq_ok_iff.2 hvalue)] at h
  rcases Run.bind_eq_error_iff.1 h with h | ⟨result, w, -, h⟩
  · exact .result (Run.ofExcept_eq_error_iff.1 h).1
  · obtain ⟨x, hx⟩ := hkeep o value result w
    rw [Run.bind_of_ok hx] at h
    cases h

end

/-! ## Templates -/

namespace Template

/-- The references of a template that was read agree with the operators in how many arguments there
are. Each stands with as many as its symbol takes, with none just when it is plain, the length of a
value or a change of case, and there is an action for it whatever the values of its arguments. So no
expansion is given up because there is no operator: in no mode over a resolver that always answers,
nor with any callbacks that raise nothing, nor by any interceptor that raises nothing but what is a
matter of the occurrence. Nor does it read as if it were, unless the reference that it is given up
at has these very words as the argument of `:?`. -/
theorem operators_found {limit : NestingLimit} {s : Text} {t : Template}
    (ht : Template.parse limit s = .ok t) :
    (∀ r ∈ t.references, TakesArguments r.symbol r.arguments.length ∧
      (r.arguments.length = 0 ↔ r.symbol = [] ∨ (r.symbol = lengthSymbol ∧ r.arguments.length = 0) ∨
        ∃ op : Operator, r.symbol = op.symbol ∧ op.changesCase = true) ∧
      ∀ values : List Text, values.length = r.arguments.length →
        ∃ action, Action.of? r.symbol values = some action) ∧
    (∀ {mode : Mode} {u v : Session} {e : EvaluationError}, u.resolver.Answers →
      t.expand mode u = .error (.evaluation e) v →
      ∃ o s, (o, s) ∈ t.root.visits mode.visit u ∧ mode.visit o s = .error (.evaluation e) v ∧
        e.cause.HasOperator o) ∧
    (∀ {σ : Type} {lookup : Text → Run σ (Option Text)}
      {keep : Occurrence → Option Text → Text → Run σ Unit} {u v : σ} {e : EvaluationError},
      (∀ name s, ∃ value t, lookup name s = .ok value t) →
      (∀ o value result s, ∃ t, keep o value result s = .ok () t) →
      t.root.evaluate (Mode.expandBy lookup keep) u = .error (.evaluation e) v →
      ∃ o s, (o, s) ∈ t.root.visits (Mode.expandBy lookup keep) u ∧
        Mode.expandBy lookup keep o s = .error (.evaluation e) v ∧ e.cause.HasOperator o) ∧
    ∀ {σ : Type} {interceptor : Interceptor σ} {u v : σ} {e : EvaluationError},
      interceptor.RaisesOwn → t.expandWith interceptor u = .error (.evaluation e) v →
      ∃ o s, (o, s) ∈ t.root.visits interceptor.visit u ∧
        interceptor.visit o s = .error (.evaluation e) v ∧ e.cause.HasOperator o := by
  obtain ⟨-, d, -, hderives⟩ := parse_eq_ok_iff.1 ht
  have hwell := hderives.wellFormed
  refine ⟨fun r hr => ?_, ?_, ?_, ?_⟩
  · have htakes := hwell.takesArguments r hr
    refine ⟨htakes, htakes.eq_zero_iff, fun values hvalues => ?_⟩
    rw [← hvalues] at htakes
    exact Action.exists_of?_iff.2 htakes
  · intro mode u v e hu h
    obtain ⟨o, s, action, hmem, hvisit, haction⟩ := hwell.exists_visit_of_error h
    have hanswers := ((Node.walk_evaluate t.root u).2 h).answers hu (o, s) hmem
    exact ⟨o, s, hmem, hvisit, (Mode.raises_of_visit hanswers hvisit).hasOperator haction⟩
  · intro σ lookup keep u v e hlookup hkeep h
    obtain ⟨o, s, action, hmem, hvisit, haction⟩ := hwell.exists_visit_of_error h
    exact ⟨o, s, hmem, hvisit, (Mode.raises_of_expandBy hlookup hkeep hvisit).hasOperator haction⟩
  · intro σ interceptor u v e hraises h
    obtain ⟨o, s, action, hmem, hvisit, haction⟩ := hwell.exists_visit_of_error h
    exact ⟨o, s, hmem, hvisit, hraises.hasOperator_of_visit haction hvisit⟩

/-- A template that refuses an unset variable as if there were no operator for it. -/
def refusing : Template where
  root := .reference "x".toList ":?".toList [.text "no operator '' taking 1 argument(s)".toList]
    "$\x7bx:?no operator '' taking 1 argument(s)\x7d".toList 0
  source := "$\x7bx:?no operator '' taking 1 argument(s)\x7d".toList

/-- Where `x` is unset, the template is given up for that: in a mode, with a callback that knows no
variables, and by an interceptor that leaves them all unset. It reads as if there were no operator,
in the words of the reference that was visited. -/
theorem operators_found_refusing :
    Template.parse ⟨1, by decide, by decide⟩ refusing.source = .ok refusing ∧
    (∀ message, ∃ action, Action.of? ":?".toList [message] = some action) ∧
    (∃ e o s v, refusing.expand (.strict ⟨true, true⟩) (.ofResolver .specimen) =
        .error (.evaluation e) v ∧
      (o, s) ∈ refusing.root.visits (Mode.strict ⟨true, true⟩).visit (.ofResolver .specimen) ∧
      e.cause.message = (EvaluationCause.noOperator [] 1).message ∧ e.cause.IsWordedBy o) ∧
    (∃ e o, refusing.root.evaluate
        (Mode.expandBy (fun _ => return none) fun _ _ _ => return ()) () =
          .error (.evaluation e) () ∧
      e.cause.message = (EvaluationCause.noOperator [] 1).message ∧ e.cause.IsWordedBy o) ∧
    ∃ e o, refusing.expandWith (fun _ => return (none, true)) () = .error (.evaluation e) () ∧
      e.cause.message = (EvaluationCause.noOperator [] 1).message ∧ e.cause.IsWordedBy o := by
  have hparse : Template.parse ⟨1, by decide, by decide⟩ refusing.source = .ok refusing :=
    Parser.parse_template_of_parseWithin 50 (by decide) rfl
  obtain ⟨hreferences, hmode, hcallbacks, hinterceptor⟩ := operators_found hparse
  obtain ⟨-, -, haction⟩ := hreferences _ List.mem_cons_self
  have hmessage : (EvaluationCause.refused "no operator '' taking 1 argument(s)".toList).message =
      (EvaluationCause.noOperator [] 1).message := by decide
  have hstrict : refusing.expand (.strict ⟨true, true⟩) (.ofResolver .specimen) =
      .error (.evaluation
        ⟨.refused "no operator '' taking 1 argument(s)".toList, some "x".toList⟩) _ := rfl
  have hnone : refusing.root.evaluate
      (Mode.expandBy (fun _ => return none) fun _ _ _ => return ()) () =
        .error (.evaluation
          ⟨.refused "no operator '' taking 1 argument(s)".toList, some "x".toList⟩) () := rfl
  have hunset : refusing.expandWith (fun _ => return (none, true)) () =
      .error (.evaluation
        ⟨.refused "no operator '' taking 1 argument(s)".toList, some "x".toList⟩) () := rfl
  have hraises : Interceptor.RaisesOwn (σ := Unit) fun _ => return (none, true) := by
    intro o s fault t h
    cases h
  refine ⟨hparse, fun message => haction [message] rfl, ?_, ?_, ?_⟩
  · obtain ⟨o, s, hmem, -, hfound⟩ := hmode Resolver.answers_specimen hstrict
    exact ⟨_, o, s, _, hstrict, hmem, hmessage, (hfound _ _).2 hmessage⟩
  · obtain ⟨o, s, -, -, hfound⟩ :=
      hcallbacks (fun _ _ => ⟨_, _, rfl⟩) (fun _ _ _ _ => ⟨_, rfl⟩) hnone
    exact ⟨_, o, hnone, hmessage, (hfound _ _).2 hmessage⟩
  · obtain ⟨o, s, -, -, hfound⟩ := hinterceptor hraises hunset
    exact ⟨_, o, hunset, hmessage, (hfound _ _).2 hmessage⟩

end Template

end ParameterExpansion

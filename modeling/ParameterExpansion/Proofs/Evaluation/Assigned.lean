import ParameterExpansion.Proofs.Evaluation.Defaults
import ParameterExpansion.Proofs.Evaluation.Strict

/-!
# What visits leave

A visit ends well or with a fault, and either way it leaves a session (`Run.left`). In every mode
the resolver is left as it was, or an assigning operator has taken its default and the resolver has
been assigned its result (`Mode.resolver_of_visit`). What holds between the states before and after
each visit holds between those before and after an evaluation (`Node.rel_left_evaluate`).
-/

namespace ParameterExpansion

/-- The state that a run leaves, however it ends. -/
def Run.left {σ α : Type} (x : Run σ α) (s : σ) : σ :=
  match x s with
  | .ok _ t => t
  | .error _ t => t

namespace Run
variable {σ α : Type} {x : Run σ α} {s t : σ}

/-- What a run leaves when it ends well. -/
theorem left_of_ok {a : α} (h : x s = .ok a t) : x.left s = t := by
  rw [left, h]

/-- What a run leaves when it ends with a fault. -/
theorem left_of_error {fault : Fault} (h : x s = .error fault t) : x.left s = t := by
  rw [left, h]

/-- What an `Except` gives leaves the state alone. -/
@[simp] theorem left_ofExcept (x : Except Fault α) (s : σ) : (ofExcept x).left s = s := by
  cases x <;> rfl

end Run

/-! ## Visits -/

/-- The operator `=` stands in for an unset value. -/
theorem Operator.action?_assignUnset {action : Action} :
    ∀ {arguments : List Text}, assignUnset.action? arguments = some action →
      ∃ other, action = .defaultUnset other
  | [other], h => ⟨other, (Option.some.inj h).symm⟩

/-- The operator `:=` stands in for an unset or empty value. -/
theorem Operator.action?_assignEmpty {action : Action} :
    ∀ {arguments : List Text}, assignEmpty.action? arguments = some action →
      ∃ other, action = .defaultEmpty other
  | [other], h => ⟨other, (Option.some.inj h).symm⟩

/-- The result of an occurrence is that of some action. -/
theorem Occurrence.exists_action_of_result {o : Occurrence} {value : Option Text} {text : Text}
    (h : o.result value = .ok text) :
    ∃ action, Action.of? o.symbol o.arguments = some action ∧ action.apply value = .ok text := by
  unfold result operate at h
  cases haction : Action.of? o.symbol o.arguments with
  | none =>
    rw [haction] at h
    cases h
  | some action =>
    rw [haction] at h
    dsimp only at h
    cases happly : action.apply value with
    | ok result =>
      rw [happly] at h
      cases h
      exact ⟨action, rfl, happly⟩
    | error fault =>
      rw [happly] at h
      cases h

/-- An assigning operator whose result is another than the value has taken its default. -/
theorem Occurrence.takesDefault_of_result {o : Occurrence} {value : Option Text} {text : Text}
    (hassign : isAssigning o.symbol = true) (h : o.result value = .ok text)
    (hchanged : value ≠ some text) : o.TakesDefault value := by
  obtain ⟨operator, hoperator, hassigning⟩ := (Option.any_eq_true _ _).1 hassign
  have hsymbol := Operator.symbol_of_ofSymbol? hoperator
  obtain ⟨action, haction, happly⟩ := exists_action_of_result h
  rw [← hsymbol] at haction
  cases operator with
  | assignUnset =>
    have hof : Operator.assignUnset.action? o.arguments = some action := haction
    refine .inl ⟨hsymbol.symm, ?_⟩
    obtain ⟨other, rfl⟩ := Operator.action?_assignUnset hof
    cases value with
    | none => rfl
    | some value =>
      cases happly
      exact absurd rfl hchanged
  | assignEmpty =>
    have hof : Operator.assignEmpty.action? o.arguments = some action := haction
    refine .inr ⟨hsymbol.symm, ?_⟩
    obtain ⟨other, rfl⟩ := Operator.action?_assignEmpty hof
    rcases value with _ | _ | ⟨c, rest⟩
    · exact .inl rfl
    · exact .inr rfl
    · cases happly
      exact absurd rfl hchanged
  | _ => cases hassigning

namespace Mode
variable {o : Occurrence} {s t : Session} {value : Option Text}

/-- A visit that the resolver does not answer leaves what the question leaves, whatever the mode. -/
theorem left_visit_of_ask_error {fault : Fault} (h : Session.ask o.name s = .error fault t) :
    ∀ mode : Mode, (mode.visit o).left s = t
  | .standard => Run.left_of_error (Run.bind_of_error (Run.mapFault_eq_error_iff.2 ⟨_, h, rfl⟩))
  | .strict _ | .preserving =>
    Run.left_of_error (Run.bind_of_error (Run.mapFault_eq_error_iff.2
      ⟨_, Run.bind_of_error h, rfl⟩))

/-- A preserving visit leaves the reference as it is written or gives the result of its operator. -/
theorem preserving_visit_eq (h : Session.ask o.name s = .ok value t) :
    preserving.visit o s = if value = none && !isDefaulting o.symbol then .ok o.source t
      else Run.ofExcept (o.result value) t := by
  have hkeep : keepUnset o s = .ok
      (if value = none && !isDefaulting o.symbol then (some o.source, false) else (value, true))
      t := by
    unfold keepUnset
    rw [Run.bind_of_ok h]
    split <;> rfl
  refine (Run.bind_of_ok (Run.mapFault_eq_ok_iff.2 hkeep)).trans ?_
  split <;> rfl

/-- A standard visit leaves the resolver as it was, or assigns the result of the operator. -/
theorem resolver_of_expand (h : Session.ask o.name s = .ok value t) :
    ((expand o).left s).resolver = t.resolver ∨ ∃ text, isAssigning o.symbol = true ∧
      o.result value = .ok text ∧ value ≠ some text ∧
      ((expand o).left s).resolver = t.resolver.assign o.name text := by
  have hexpand := expand_eq h
  cases hresult : o.result value with
  | error fault =>
    rw [hresult] at hexpand
    exact .inl (congrArg Session.resolver (Run.left_of_error hexpand))
  | ok text =>
    obtain ⟨u, hwrite⟩ := exists_writeBack o value text t
    rw [hresult, Run.ofExcept, pure_bind, Run.bind_of_ok hwrite] at hexpand
    rw [Run.left_of_ok hexpand, resolver_of_writeBack hwrite]
    split
    · next hassign => exact .inr ⟨text, hassign.1, rfl, hassign.2.2, rfl⟩
    · exact .inl rfl

/-- A visit that the resolver answers leaves what the question leaves, or what a standard visit
leaves. -/
theorem left_visit_of_ask_ok (h : Session.ask o.name s = .ok value t) :
    ∀ mode : Mode, (mode.visit o).left s = t ∨ (mode.visit o).left s = (expand o).left s
  | .standard => .inr rfl
  | .strict k => by
    have hvisit := strict_visit_eq (k := k) h
    cases hrefusal : k.refusal? o.symbol value with
    | some cause =>
      rw [hrefusal] at hvisit
      exact .inl (Run.left_of_error hvisit)
    | none =>
      rw [hrefusal] at hvisit
      exact .inr (by rw [Run.left, Run.left, hvisit])
  | .preserving => by
    have hvisit := preserving_visit_eq h
    split at hvisit
    · exact .inl (Run.left_of_ok hvisit)
    · exact .inl (by rw [Run.left, hvisit]; exact Run.left_ofExcept _ _)

/-- A visit leaves the resolver as it was. Or the operator is an assigning one that has taken its
default, and the resolver has been assigned it in place of its answer. -/
theorem resolver_of_visit (mode : Mode) (o : Occurrence) (s : Session) :
    ((mode.visit o).left s).resolver = s.resolver ∨ ∃ value text,
      s.resolver.ask o.name = .ok value ∧ o.TakesDefault value ∧ value ≠ some text ∧
      ((mode.visit o).left s).resolver = s.resolver.assign o.name text := by
  cases hask : s.resolver.ask o.name with
  | error fault =>
    have h : Session.ask o.name s = .error fault
        { s with calls := s.calls ++ [.ask o.name (s.resolver.askedLeaves o.name 0)] } := by
      unfold Session.ask
      rw [hask]
    rw [left_visit_of_ask_error h]
    exact .inl rfl
  | ok value =>
    have h := Session.ask_eq_ok_iff.2 ⟨hask, rfl⟩
    obtain hleft | hleft := left_visit_of_ask_ok h mode
    · rw [hleft]
      exact .inl rfl
    · rw [hleft]
      obtain hsame | ⟨text, hassign, hresult, hchanged, hleft⟩ := resolver_of_expand h
      · exact .inl hsame
      · exact .inr ⟨value, text, rfl,
          Occurrence.takesDefault_of_result hassign hresult hchanged, hchanged, hleft⟩

/-- A resolver goes on answering after a visit. -/
theorem answers_left_visit (mode : Mode) (o : Occurrence) (hs : s.resolver.Answers) :
    ((mode.visit o).left s).resolver.Answers := by
  obtain hsame | ⟨_, text, -, -, -, hleft⟩ := resolver_of_visit mode o s
  · rwa [hsame]
  · rw [hleft]
    exact hs.assign _ _

end Mode

/-! ## Evaluations -/

section
variable {σ : Type} {visit : Occurrence → Run σ Text} {s t : σ} {fault? : Option Fault}
  {vs : List (Occurrence × σ)} {R : σ → σ → Prop}

/-- What holds from before to after each visit of a walk holds from its start to its end. -/
theorem Walk.rel (hrefl : ∀ s, R s s) (htrans : ∀ {s t u}, R s t → R t u → R s u)
    (hvisit : ∀ v ∈ vs, R v.2 ((visit v.1).left v.2)) (h : Walk visit s vs fault? t) : R s t := by
  induction h with
  | nil => exact hrefl _
  | fault h =>
    have hlast := hvisit _ List.mem_cons_self
    rwa [Run.left_of_error h] at hlast
  | cons h _ ih =>
    have hfirst := hvisit _ List.mem_cons_self
    rw [Run.left_of_ok h] at hfirst
    exact htrans hfirst (ih fun v hv => hvisit v (List.mem_cons_of_mem _ hv))

/-- The visits of an evaluation are a walk to the state that it leaves. -/
theorem Node.exists_walk_left (visit : Occurrence → Run σ Text) (n : Node) (s : σ) :
    ∃ fault?, Walk visit s (n.visits visit s) fault? ((n.evaluate visit).left s) := by
  obtain ⟨hok, herror⟩ := @Node.walk_evaluate σ visit n s
  unfold Run.left
  cases h : n.evaluate visit s with
  | ok value t => exact ⟨none, hok h⟩
  | error fault t => exact ⟨some fault, herror h⟩

/-- What holds from before to after each visit of an evaluation holds from its start to its end. -/
theorem Node.rel_left_evaluate {n : Node} (hrefl : ∀ s, R s s)
    (htrans : ∀ {s t u}, R s t → R t u → R s u)
    (hvisit : ∀ v ∈ n.visits visit s, R v.2 ((visit v.1).left v.2)) :
    R s ((n.evaluate visit).left s) := by
  obtain ⟨_, hwalk⟩ := n.exists_walk_left visit s
  exact hwalk.rel hrefl htrans hvisit

end

end ParameterExpansion

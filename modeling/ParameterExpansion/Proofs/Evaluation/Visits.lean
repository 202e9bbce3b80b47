import ParameterExpansion.Proofs.Evaluation.Reach

/-!
# The visits of an evaluation

The occurrences that an evaluation visits, in their order, each with the state in which it is
visited (`Node.visits`). They are a walk through the states (`Walk`): each visit but the last one
ends well, in the state in which the next one is made, and the last one ends as the evaluation does
(`Node.walk_evaluate`).
-/

namespace ParameterExpansion

namespace Node

mutual

/-- The occurrences that an evaluation of a tree visits, with the states in which it does. -/
def visits {σ : Type} (visit : Occurrence → Run σ Text) : Node → σ → List (Occurrence × σ)
  | .text _, _ => []
  | .reference name symbol arguments source _, s =>
    visitsEach visit arguments s ++ match evaluateEach visit arguments s with
      | .ok values t => [(⟨name, symbol, values, source⟩, t)]
      | .error _ _ => []
  | .sequence children, s => visitsEach visit children s

/-- The occurrences that an evaluation of a list of trees visits, with the states in which it
does. -/
def visitsEach {σ : Type} (visit : Occurrence → Run σ Text) :
    List Node → σ → List (Occurrence × σ)
  | [], _ => []
  | n :: ns, s => visits visit n s ++ match evaluate visit n s with
    | .ok _ t => visitsEach visit ns t
    | .error _ _ => []

end

end Node

/-- Visits that are made one after the other, each in the state that the one before it leaves, and
of which the last one ends with a fault, if there is one. -/
inductive Walk {σ : Type} (visit : Occurrence → Run σ Text) :
    σ → List (Occurrence × σ) → Option Fault → σ → Prop
  /-- No visit is made. -/
  | nil : Walk visit s [] none s
  /-- A visit ends with a fault. -/
  | fault : visit o s = .error fault t → Walk visit s [(o, s)] (some fault) t
  /-- A visit ends well and others follow. -/
  | cons : visit o s = .ok value t → Walk visit t vs fault? u →
      Walk visit s ((o, s) :: vs) fault? u

section
variable {σ : Type} {visit : Occurrence → Run σ Text} {s t u : σ} {fault : Fault}
  {fault? : Option Fault} {vs ws : List (Occurrence × σ)}

/-- A walk goes on where one that ends well has ended. -/
theorem Walk.append (h : Walk visit s vs none t) (h' : Walk visit t ws fault? u) :
    Walk visit s (vs ++ ws) fault? u := by
  generalize heq : (none : Option Fault) = ended at h
  induction h with
  | nil => exact h'
  | fault => cases heq
  | cons hvisit _ ih => exact .cons hvisit (ih h' heq)

/-- The visits in front of one end well, in the state in which it is made. -/
theorem Walk.of_append_cons {o : Occurrence} (h : Walk visit s (vs ++ (o, t) :: ws) fault? u) :
    Walk visit s vs none t ∧ Walk visit t ((o, t) :: ws) fault? u := by
  induction vs generalizing s with
  | nil =>
    cases h with
    | fault hvisit => exact ⟨.nil, .fault hvisit⟩
    | cons hvisit h => exact ⟨.nil, .cons hvisit h⟩
  | cons v vs ih =>
    generalize heq : v :: vs ++ (o, t) :: ws = all at h
    cases h with
    | nil => cases heq
    | fault =>
      have hnil := (List.cons.inj heq).2
      exact absurd hnil (by simp)
    | cons hvisit h =>
      obtain ⟨rfl, rfl⟩ := List.cons.inj heq
      obtain ⟨hbefore, hbehind⟩ := ih h
      exact ⟨.cons hvisit hbefore, hbehind⟩

mutual

/-- The visits of an evaluation are a walk that ends as the evaluation does. -/
theorem Node.walk_evaluate : ∀ (n : Node) (s : σ),
    (∀ {value t}, n.evaluate visit s = .ok value t → Walk visit s (n.visits visit s) none t) ∧
    ∀ {fault t}, n.evaluate visit s = .error fault t →
      Walk visit s (n.visits visit s) (some fault) t
  | .text value, s => by
    rw [Node.evaluate, Node.visits]
    constructor
    · intro value t h
      cases h
      exact .nil
    · intro fault t h
      cases h
  | .reference name symbol arguments source position, s => by
    obtain ⟨hok, herror⟩ := Node.walk_evaluateEach arguments s
    rw [Node.evaluate, Node.visits]
    constructor
    · intro value t h
      obtain ⟨values, u, harguments, hvisit⟩ := Run.bind_eq_ok_iff.1 h
      rw [harguments]
      exact (hok harguments).append (.cons hvisit .nil)
    · intro fault t h
      rcases Run.bind_eq_error_iff.1 h with harguments | ⟨values, u, harguments, hvisit⟩
      · rw [harguments, List.append_nil]
        exact herror harguments
      · rw [harguments]
        exact (hok harguments).append (.fault hvisit)
  | .sequence children, s => by
    obtain ⟨hok, herror⟩ := Node.walk_evaluateEach children s
    rw [Node.evaluate, Node.visits]
    constructor
    · intro value t h
      obtain ⟨values, u, hchildren, hreturn⟩ := Run.bind_eq_ok_iff.1 h
      cases hreturn
      exact hok hchildren
    · intro fault t h
      rcases Run.bind_eq_error_iff.1 h with hchildren | ⟨values, u, -, hreturn⟩
      · exact herror hchildren
      · cases hreturn

/-- The visits of an evaluation of a list of trees are a walk that ends as the evaluation does. -/
theorem Node.walk_evaluateEach : ∀ (ns : List Node) (s : σ),
    (∀ {values t}, Node.evaluateEach visit ns s = .ok values t →
      Walk visit s (Node.visitsEach visit ns s) none t) ∧
    ∀ {fault t}, Node.evaluateEach visit ns s = .error fault t →
      Walk visit s (Node.visitsEach visit ns s) (some fault) t
  | [], s => by
    rw [Node.evaluateEach, Node.visitsEach]
    constructor
    · intro values t h
      cases h
      exact .nil
    · intro fault t h
      cases h
  | n :: ns, s => by
    obtain ⟨hok, herror⟩ := Node.walk_evaluate n s
    rw [Node.evaluateEach, Node.visitsEach]
    constructor
    · intro values t h
      obtain ⟨value, u, hfirst, h⟩ := Run.bind_eq_ok_iff.1 h
      obtain ⟨others, v, hothers, hreturn⟩ := Run.bind_eq_ok_iff.1 h
      cases hreturn
      rw [hfirst]
      exact (hok hfirst).append ((Node.walk_evaluateEach ns u).1 hothers)
    · intro fault t h
      rcases Run.bind_eq_error_iff.1 h with hfirst | ⟨value, u, hfirst, h⟩
      · rw [hfirst, List.append_nil]
        exact herror hfirst
      · rw [hfirst]
        rcases Run.bind_eq_error_iff.1 h with hothers | ⟨others, v, -, hreturn⟩
        · exact (hok hfirst).append ((Node.walk_evaluateEach ns u).2 hothers)
        · cases hreturn

end

/-- The visits of an evaluation are a walk. -/
theorem Node.exists_walk (visit : Occurrence → Run σ Text) (n : Node) (s : σ) :
    ∃ fault? t, Walk visit s (n.visits visit s) fault? t := by
  obtain ⟨hok, herror⟩ := @Node.walk_evaluate σ visit n s
  cases h : n.evaluate visit s with
  | ok value t => exact ⟨none, t, hok h⟩
  | error fault t => exact ⟨some fault, t, herror h⟩

end

end ParameterExpansion

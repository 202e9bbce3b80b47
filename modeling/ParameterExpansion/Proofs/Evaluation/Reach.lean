import ParameterExpansion.Evaluation

/-!
# The references that an evaluation reaches

`Reaches visit n s o t` says that an evaluation of the tree `n` from the state `s` comes to visit
the occurrence `o` in the state `t`, all visits before having ended well. A tree of which no visit
ends with a fault is evaluated, and where a visit does, its fault is the fault of the evaluation
(`Node.evaluate_eq_error_iff`). One visit refines another when it gives the same wherever it ends
well; so do the evaluations then (`Refines.evaluate`), and they visit the same (`Refines.reaches`).
-/

namespace ParameterExpansion

/-! ## Runs -/

namespace Run

section
variable {σ α β : Type} {s t : σ} {fault : Fault}

/-- A run in two steps ends well when both steps do. -/
theorem bind_eq_ok_iff {x : Run σ α} {f : α → Run σ β} {b : β} :
    (x >>= f) s = .ok b t ↔ ∃ a u, x s = .ok a u ∧ f a u = .ok b t := by
  show EStateM.bind x f s = .ok b t ↔ _
  unfold EStateM.bind
  cases x s with
  | error => simp
  | ok a u =>
    constructor
    · intro h
      exact ⟨a, u, rfl, h⟩
    · rintro ⟨_, _, hx, h⟩
      cases hx
      exact h

/-- A run in two steps ends with a fault when the first step does, or else the second one. -/
theorem bind_eq_error_iff {x : Run σ α} {f : α → Run σ β} :
    (x >>= f) s = .error fault t ↔
      x s = .error fault t ∨ ∃ a u, x s = .ok a u ∧ f a u = .error fault t := by
  show EStateM.bind x f s = .error fault t ↔ _
  unfold EStateM.bind
  cases x s with
  | error => simp
  | ok a u =>
    constructor
    · intro h
      exact .inr ⟨a, u, rfl, h⟩
    · rintro (hx | ⟨_, _, hx, h⟩)
      · cases hx
      · cases hx
        exact h

/-- When its first step ends well, a run in two steps goes on with the second one. -/
theorem bind_of_ok {x : Run σ α} {f : α → Run σ β} {a : α} (h : x s = .ok a t) :
    (x >>= f) s = f a t := by
  show EStateM.bind x f s = f a t
  rw [EStateM.bind, h]

/-- When its first step ends with a fault, so does a run in two steps. -/
theorem bind_of_error {x : Run σ α} {f : α → Run σ β} (h : x s = .error fault t) :
    (x >>= f) s = .error fault t :=
  bind_eq_error_iff.2 (.inl h)

/-- Faults that are changed do not matter to a run that ends well. -/
theorem mapFault_eq_ok_iff {f : Fault → Fault} {x : Run σ α} {a : α} :
    x.mapFault f s = .ok a t ↔ x s = .ok a t := by
  unfold mapFault
  cases x s <;> simp

/-- The fault that a run ends with has been changed. -/
theorem mapFault_eq_error_iff {f : Fault → Fault} {x : Run σ α} :
    x.mapFault f s = .error fault t ↔ ∃ raised, x s = .error raised t ∧ f raised = fault := by
  unfold mapFault
  cases x s with
  | ok => simp
  | error raised u =>
    constructor
    · intro h
      cases h
      exact ⟨raised, rfl, rfl⟩
    · rintro ⟨_, hx, rfl⟩
      cases hx
      rfl

end

end Run

/-! ## Reaching a reference -/

mutual

/-- An evaluation of a tree from a state comes to visit an occurrence in a state. -/
inductive Reaches {σ : Type} (visit : Occurrence → Run σ Text) : Node → σ → Occurrence → σ → Prop
  /-- The reference itself is visited once its arguments are evaluated. -/
  | here : Node.evaluateEach visit arguments s = .ok values t →
      Reaches visit (.reference name symbol arguments source position) s
        ⟨name, symbol, values, source⟩ t
  /-- A reference in the arguments of a reference. -/
  | argument : ReachesEach visit arguments s o t →
      Reaches visit (.reference name symbol arguments source position) s o t
  /-- A reference in a sequence. -/
  | child : ReachesEach visit children s o t → Reaches visit (.sequence children) s o t

/-- An evaluation of a list of trees from a state comes to visit an occurrence in a state. -/
inductive ReachesEach {σ : Type} (visit : Occurrence → Run σ Text) :
    List Node → σ → Occurrence → σ → Prop
  /-- It is in the first tree. -/
  | head : Reaches visit n s o t → ReachesEach visit (n :: ns) s o t
  /-- It is in a further tree, and the first one has a value. -/
  | tail : Node.evaluate visit n s = .ok value t → ReachesEach visit ns t o u →
      ReachesEach visit (n :: ns) s o u

end

section
variable {σ : Type} {visit : Occurrence → Run σ Text} {fault : Fault}

mutual

/-- An evaluation ends with the fault of the visit that ends with one. -/
theorem Node.evaluate_eq_error_iff : ∀ {n : Node} {s u : σ},
    n.evaluate visit s = .error fault u ↔ ∃ o t, Reaches visit n s o t ∧ visit o t = .error fault u
  | .text value, s, u => by
    rw [Node.evaluate]
    constructor
    · intro h
      cases h
    · rintro ⟨o, t, h, -⟩
      cases h
  | .reference name symbol arguments source position, s, u => by
    have ih := @Node.evaluateEach_eq_error_iff arguments s u
    rw [Node.evaluate, Run.bind_eq_error_iff, ih]
    constructor
    · rintro (⟨o, t, h, hvisit⟩ | ⟨values, t, hvalues, hvisit⟩)
      · exact ⟨o, t, .argument h, hvisit⟩
      · exact ⟨_, t, .here hvalues, hvisit⟩
    · rintro ⟨o, t, h, hvisit⟩
      cases h with
      | here hvalues => exact .inr ⟨_, t, hvalues, hvisit⟩
      | argument h => exact .inl ⟨o, t, h, hvisit⟩
  | .sequence children, s, u => by
    have ih := @Node.evaluateEach_eq_error_iff children s u
    rw [Node.evaluate, Run.bind_eq_error_iff, ih]
    constructor
    · rintro (⟨o, t, h, hvisit⟩ | ⟨values, t, -, hpure⟩)
      · exact ⟨o, t, .child h, hvisit⟩
      · cases hpure
    · rintro ⟨o, t, h, hvisit⟩
      cases h with
      | child h => exact .inl ⟨o, t, h, hvisit⟩

/-- The evaluation of a list of trees ends with the fault of the visit that ends with one. -/
theorem Node.evaluateEach_eq_error_iff : ∀ {ns : List Node} {s u : σ},
    Node.evaluateEach visit ns s = .error fault u ↔
      ∃ o t, ReachesEach visit ns s o t ∧ visit o t = .error fault u
  | [], s, u => by
    rw [Node.evaluateEach]
    constructor
    · intro h
      cases h
    · rintro ⟨o, t, h, -⟩
      cases h
  | n :: ns, s, u => by
    have ihn := @Node.evaluate_eq_error_iff n s u
    have ihns := fun t => @Node.evaluateEach_eq_error_iff ns t u
    rw [Node.evaluateEach, Run.bind_eq_error_iff, ihn]
    constructor
    · rintro (⟨o, t, h, hvisit⟩ | ⟨value, t, hvalue, hrest⟩)
      · exact ⟨o, t, .head h, hvisit⟩
      · rcases Run.bind_eq_error_iff.1 hrest with hrest | ⟨values, _, -, hpure⟩
        · obtain ⟨o, t', h, hvisit⟩ := (ihns t).1 hrest
          exact ⟨o, t', .tail hvalue h, hvisit⟩
        · cases hpure
    · rintro ⟨o, t, h, hvisit⟩
      cases h with
      | head h => exact .inl ⟨o, t, h, hvisit⟩
      | tail hvalue h =>
        exact .inr ⟨_, _, hvalue, Run.bind_eq_error_iff.2 (.inl ((ihns _).2 ⟨o, t, h, hvisit⟩))⟩

end

/-- Where all visits end well, so does the evaluation, and so its visits do where it does. -/
theorem Reaches.ne_error {n : Node} {s t u : σ} {o : Occurrence} {value : Text}
    (h : Reaches visit n s o t) (hn : n.evaluate visit s = .ok value u) (v : σ) :
    visit o t ≠ .error fault v := by
  intro hvisit
  have herror := Node.evaluate_eq_error_iff.2 ⟨o, t, h, hvisit⟩
  rw [hn] at herror
  cases herror

end

/-! ## Refinement -/

/-- Where the invariant holds, the second visit gives what the first one does, if that ends well,
and the invariant goes on holding. -/
def Refines {σ : Type} (Inv : σ → Prop) (visit visit' : Occurrence → Run σ Text) : Prop :=
  ∀ ⦃o s value t⦄, Inv s → visit o s = .ok value t → visit' o s = .ok value t ∧ Inv t

section
variable {σ : Type} {Inv : σ → Prop} {visit visit' : Occurrence → Run σ Text}

mutual

/-- An evaluation that ends well does so by a visit that refines its own. -/
theorem Refines.evaluate (h : Refines Inv visit visit') : ∀ {n : Node} {s t : σ} {value : Text},
    Inv s → n.evaluate visit s = .ok value t → n.evaluate visit' s = .ok value t ∧ Inv t
  | .text _, s, t, value, hs, hn => by
    rw [Node.evaluate] at hn
    cases hn
    exact ⟨rfl, hs⟩
  | .reference _ _ arguments _ _, s, t, value, hs, hn => by
    rw [Node.evaluate] at hn
    obtain ⟨values, u, harguments, hn⟩ := Run.bind_eq_ok_iff.1 hn
    obtain ⟨harguments, hu⟩ := h.evaluateEach hs harguments
    obtain ⟨hn, ht⟩ := h hu hn
    exact ⟨(Run.bind_of_ok harguments).trans hn, ht⟩
  | .sequence children, s, t, value, hs, hn => by
    rw [Node.evaluate] at hn
    obtain ⟨values, u, hchildren, hn⟩ := Run.bind_eq_ok_iff.1 hn
    obtain ⟨hchildren, hu⟩ := h.evaluateEach hs hchildren
    cases hn
    exact ⟨Run.bind_of_ok hchildren, hu⟩

/-- An evaluation of a list of trees that ends well does so by a visit that refines its own. -/
theorem Refines.evaluateEach (h : Refines Inv visit visit') :
    ∀ {ns : List Node} {s t : σ} {values : List Text}, Inv s →
    Node.evaluateEach visit ns s = .ok values t →
    Node.evaluateEach visit' ns s = .ok values t ∧ Inv t
  | [], s, t, values, hs, hn => by
    rw [Node.evaluateEach] at hn
    cases hn
    exact ⟨rfl, hs⟩
  | n :: ns, s, t, values, hs, hn => by
    rw [Node.evaluateEach] at hn
    obtain ⟨first, u, hfirst, hn⟩ := Run.bind_eq_ok_iff.1 hn
    obtain ⟨others, v, hothers, hn⟩ := Run.bind_eq_ok_iff.1 hn
    obtain ⟨hfirst, hu⟩ := h.evaluate hs hfirst
    obtain ⟨hothers, hv⟩ := h.evaluateEach hu hothers
    cases hn
    exact ⟨(Run.bind_of_ok hfirst).trans (Run.bind_of_ok hothers), hv⟩

end

mutual

/-- What an evaluation comes to visit it visits in the same state by a visit that refines its
own. -/
theorem Refines.reaches (h : Refines Inv visit visit') : ∀ {n : Node} {s t : σ} {o : Occurrence},
    Inv s → Reaches visit n s o t → Reaches visit' n s o t ∧ Inv t
  | _, s, t, o, hs, .here harguments => by
    obtain ⟨harguments, ht⟩ := h.evaluateEach hs harguments
    exact ⟨.here harguments, ht⟩
  | _, s, t, o, hs, .argument hreach => by
    obtain ⟨hreach, ht⟩ := h.reachesEach hs hreach
    exact ⟨.argument hreach, ht⟩
  | _, s, t, o, hs, .child hreach => by
    obtain ⟨hreach, ht⟩ := h.reachesEach hs hreach
    exact ⟨.child hreach, ht⟩

/-- What an evaluation of a list of trees comes to visit it visits in the same state by a visit that
refines its own. -/
theorem Refines.reachesEach (h : Refines Inv visit visit') :
    ∀ {ns : List Node} {s t : σ} {o : Occurrence}, Inv s → ReachesEach visit ns s o t →
    ReachesEach visit' ns s o t ∧ Inv t
  | _, s, t, o, hs, .head hreach => by
    obtain ⟨hreach, ht⟩ := h.reaches hs hreach
    exact ⟨.head hreach, ht⟩
  | _, s, t, o, hs, .tail hvalue hreach => by
    obtain ⟨hvalue, hu⟩ := h.evaluate hs hvalue
    obtain ⟨hreach, ht⟩ := h.reachesEach hu hreach
    exact ⟨.tail hvalue hreach, ht⟩

end

end

end ParameterExpansion

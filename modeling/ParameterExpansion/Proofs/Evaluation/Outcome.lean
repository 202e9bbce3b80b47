import ParameterExpansion.Evaluation

/-!
# What an expansion comes to

What an expansion over a resolver comes to (`Template.expandOver`): the text or the fault, and the
resolver that it leaves. Resolvers with the same answers, whatever is assigned to them, cannot be
told apart by it (`Mode.agrees_visit`, `Node.agrees_evaluate`). The calls and the messages of the
session have no part in it either (`Node.isBlind_evaluate`), so two expansions one after the other
come to what each does over the resolver that it is given (`Run.outcome_bind`).
-/

namespace ParameterExpansion

namespace Run

section
variable {α β : Type}

/-- What a run gives in a session, with nothing of the session but its resolver. -/
def outcomeIn (x : Run Session α) (s : Session) : Except Fault α × Resolver :=
  match x s with
  | .ok a t => (.ok a, t.resolver)
  | .error fault t => (.error fault, t.resolver)

/-- What a run comes to over a resolver: its result, and the resolver that it leaves. -/
def outcome (x : Run Session α) (r : Resolver) : Except Fault α × Resolver :=
  x.outcomeIn (.ofResolver r)

/-- A run does the same in all sessions with one resolver, whatever was called and noted. -/
def IsBlind (x : Run Session α) : Prop :=
  ∀ s t : Session, s.resolver = t.resolver → x.outcomeIn s = x.outcomeIn t

/-- Two runs come to the same over resolvers that a relation relates, and the resolvers that they
leave are related again. -/
def Matches (x : Run Session α) (R : Resolver → Resolver → Prop) (y : Run Session α) : Prop :=
  ∀ s t : Session, R s.resolver t.resolver →
    (x.outcomeIn s).1 = (y.outcomeIn t).1 ∧ R (x.outcomeIn s).2 (y.outcomeIn t).2

/-- A run comes to the same over resolvers that a relation relates, and the resolvers that it leaves
are related again. -/
def Agrees (R : Resolver → Resolver → Prop) (x : Run Session α) : Prop :=
  ∀ s t : Session, R s.resolver t.resolver →
    (x.outcomeIn s).1 = (x.outcomeIn t).1 ∧ R (x.outcomeIn s).2 (x.outcomeIn t).2

/-- The outcome of a run in two steps is that of the first step, and then of the second one. -/
theorem outcomeIn_bind (x : Run Session α) (f : α → Run Session β) (s : Session) :
    (x >>= f).outcomeIn s = (match x s with
      | .ok a t => (f a).outcomeIn t
      | .error fault t => (.error fault, t.resolver)) := by
  have hbind : (x >>= f) s = EStateM.bind x f s := rfl
  rw [outcomeIn, hbind, EStateM.bind]
  cases x s <;> rfl

section
variable {R : Resolver → Resolver → Prop}

/-- A run that gives something right away does not tell resolvers apart. -/
theorem agrees_pure (a : α) : Agrees R (pure a) := fun _ _ h => ⟨rfl, h⟩

/-- A run that ends with a fault right away does not tell resolvers apart. -/
theorem agrees_throw (fault : Fault) : Agrees R (throw fault : Run Session α) :=
  fun _ _ h => ⟨rfl, h⟩

/-- Runs in two steps match if both steps do. -/
theorem Matches.bind {x y : Run Session α} {f g : α → Run Session β} (hxy : x.Matches R y)
    (hfg : ∀ a, (f a).Matches R (g a)) : (x >>= f).Matches R (y >>= g) := by
  intro s t h
  obtain ⟨hresult, hleft⟩ := hxy s t h
  rw [outcomeIn_bind, outcomeIn_bind]
  unfold outcomeIn at hresult hleft
  cases hs : x s with
  | ok a u =>
    cases ht : y t with
    | ok b v =>
      rw [hs, ht] at hresult hleft
      cases hresult
      exact hfg a u v hleft
    | error => rw [hs, ht] at hresult; cases hresult
  | error fault u =>
    cases ht : y t with
    | ok => rw [hs, ht] at hresult; cases hresult
    | error =>
      rw [hs, ht] at hresult hleft
      cases hresult
      exact ⟨rfl, hleft⟩

/-- A run in two steps does not tell resolvers apart if neither step does. -/
theorem Agrees.bind {x : Run Session α} {f : α → Run Session β} (hx : x.Agrees R)
    (hf : ∀ a, (f a).Agrees R) : (x >>= f).Agrees R :=
  Matches.bind hx hf

/-- A run whose faults are changed tells no more resolvers apart than it did. -/
theorem Agrees.mapFault {x : Run Session α} (hx : x.Agrees R) (f : Fault → Fault) :
    (x.mapFault f).Agrees R := by
  have hmap : ∀ s, (x.mapFault f).outcomeIn s =
      ((x.outcomeIn s).1.mapError f, (x.outcomeIn s).2) := by
    intro s
    unfold outcomeIn Run.mapFault
    cases x s <;> rfl
  intro s t h
  obtain ⟨hresult, hleft⟩ := hx s t h
  rw [hmap, hmap]
  exact ⟨congrArg (·.mapError f) hresult, hleft⟩

/-- What an `Except` gives does not tell resolvers apart. -/
theorem agrees_ofExcept (x : Except Fault α) : (ofExcept x).Agrees R := by
  cases x with
  | ok a => exact agrees_pure a
  | error fault => exact agrees_throw fault

end

/-- Equal resolvers are told apart by nothing but what was called and noted. -/
theorem isBlind_iff_agrees {x : Run Session α} : x.IsBlind ↔ x.Agrees Eq :=
  forall_congr' fun _ => forall_congr' fun _ => imp_congr_right fun _ => Prod.ext_iff

/-- A run that gives something right away is blind. -/
theorem isBlind_pure (a : α) : IsBlind (pure a) := isBlind_iff_agrees.2 (agrees_pure a)

/-- A run in two steps is blind if both are. -/
theorem IsBlind.bind {x : Run Session α} {f : α → Run Session β} (hx : x.IsBlind)
    (hf : ∀ a, (f a).IsBlind) : (x >>= f).IsBlind :=
  isBlind_iff_agrees.2 ((isBlind_iff_agrees.1 hx).bind fun a => isBlind_iff_agrees.1 (hf a))

/-- The outcome of a run in two steps, of which the second one is blind, is that of the second step
over the resolver that the first one leaves. -/
theorem outcome_bind {x : Run Session α} {f : α → Run Session β} (hf : ∀ a, (f a).IsBlind)
    (r : Resolver) :
    (x >>= f).outcome r = (match x.outcome r with
      | (.ok a, left) => (f a).outcome left
      | (.error fault, left) => (.error fault, left)) := by
  rw [outcome, outcomeIn_bind, outcome, outcomeIn]
  cases x (.ofResolver r) with
  | ok a t => exact hf a t (.ofResolver t.resolver) rfl
  | error fault t => rfl

end

end Run

/-! ## Resolvers that are alike -/

/-- The relation relates resolvers that cannot be told apart by the names of which `N` holds. -/
structure Resolver.AreAlike (N : Text → Prop) (R : Resolver → Resolver → Prop) : Prop where
  /-- They have the same answers. -/
  ask : ∀ {r q name}, N name → R r q → r.ask name = q.ask name
  /-- Both can be assigned to, or none of them. -/
  acceptsAssignment : ∀ {r q}, R r q → r.acceptsAssignment = q.acceptsAssignment
  /-- They go on being alike when the same is assigned to them. -/
  assign : ∀ {r q name} value, N name → R r q → R (r.assign name value) (q.assign name value)

/-- Equal resolvers are alike. -/
theorem Resolver.areAlike_eq : AreAlike (fun _ => True) Eq where
  ask _ h := by rw [h]
  acceptsAssignment h := by rw [h]
  assign _ _ h := by rw [h]

section
variable {N : Text → Prop} {R : Resolver → Resolver → Prop}

/-- A question gets the same answer from resolvers that are alike. -/
theorem Session.agrees_ask (hR : Resolver.AreAlike N R) {name : Text} (hname : N name) :
    (Session.ask name).Agrees R := by
  have hask : ∀ s, (Session.ask name).outcomeIn s = (s.resolver.ask name, s.resolver) := by
    intro s
    unfold Run.outcomeIn Session.ask
    cases s.resolver.ask name <;> rfl
  intro s t h
  rw [hask, hask]
  exact ⟨hR.ask hname h, h⟩

/-- An assignment keeps resolvers alike. -/
theorem Session.agrees_assign (hR : Resolver.AreAlike N R) {name : Text} (hname : N name)
    (value : Text) : (Session.assign name value).Agrees R :=
  fun _ _ h => ⟨rfl, hR.assign value hname h⟩

/-- Whether a resolver can be assigned to does not tell resolvers apart that are alike. -/
theorem Run.agrees_acceptsAssignment_bind {α : Type} (hR : Resolver.AreAlike N R)
    {f : Bool → Run Session α} (hf : ∀ b, (f b).Agrees R) :
    Run.Agrees R (get >>= fun s => f s.resolver.acceptsAssignment) := by
  intro s t h
  rw [outcomeIn_bind, outcomeIn_bind]
  show ((f s.resolver.acceptsAssignment).outcomeIn s).1 =
      ((f t.resolver.acceptsAssignment).outcomeIn t).1 ∧
    R ((f s.resolver.acceptsAssignment).outcomeIn s).2
      ((f t.resolver.acceptsAssignment).outcomeIn t).2
  rw [hR.acceptsAssignment h]
  exact hf _ s t h

/-! ## Expansions -/

namespace Mode
variable {o : Occurrence}

/-- Writing back does not tell resolvers apart that are alike. -/
theorem agrees_writeBack (hR : Resolver.AreAlike N R) (ho : N o.name)
    (value : Option Text) (result : Text) : (writeBack o value result).Agrees R := by
  refine Run.agrees_acceptsAssignment_bind hR (f := fun accepts =>
    if isAssigning o.symbol && value ≠ some result && accepts then Session.assign o.name result
    else pure ()) fun accepts => ?_
  split
  · exact Session.agrees_assign hR ho _
  · exact Run.agrees_pure _

/-- A standard visit does not tell resolvers apart that are alike. -/
theorem agrees_expand (hR : Resolver.AreAlike N R) (ho : N o.name) :
    (expand o).Agrees R :=
  ((Session.agrees_ask hR ho).mapFault _).bind fun _ =>
    (Run.agrees_ofExcept _).bind fun _ =>
      (agrees_writeBack hR ho _ _).bind fun _ => Run.agrees_pure _

/-- The strict interceptor does not tell resolvers apart that are alike. -/
theorem agrees_refuseMissing (hR : Resolver.AreAlike N R) (ho : N o.name)
    (strictness : Strictness) : (refuseMissing strictness o).Agrees R := by
  refine (Session.agrees_ask hR ho).bind fun value => ?_
  split
  · exact Run.agrees_throw _
  · refine Run.agrees_acceptsAssignment_bind hR (f := fun accepts =>
      if isAssigning o.symbol && accepts then do
        let result ← Run.ofExcept (o.result value)
        if value ≠ some result then Session.assign o.name result
        return (some result, false)
      else return (value, true)) fun accepts => ?_
    split
    · refine (Run.agrees_ofExcept _).bind fun result => ?_
      split
      · exact (Session.agrees_assign hR ho _).bind fun _ => Run.agrees_pure _
      · exact Run.agrees_pure _
    · exact Run.agrees_pure _

/-- The preserving interceptor does not tell resolvers apart that are alike. -/
theorem agrees_keepUnset (hR : Resolver.AreAlike N R) (ho : N o.name) :
    (keepUnset o).Agrees R := by
  refine (Session.agrees_ask hR ho).bind fun value => ?_
  split <;> exact Run.agrees_pure _

/-- A visit by an interceptor tells no more resolvers apart than the interceptor does. -/
theorem agrees_interceptor_visit {interceptor : Interceptor Session}
    (h : (interceptor o).Agrees R) : (interceptor.visit o).Agrees R := by
  refine (h.mapFault _).bind fun (value, proceed) => ?_
  dsimp only
  split
  · exact Run.agrees_ofExcept _
  · exact Run.agrees_pure _

/-- What a reference gives in a mode does not tell resolvers apart that are alike. -/
theorem agrees_visit (hR : Resolver.AreAlike N R) (ho : N o.name) :
    ∀ mode : Mode, (mode.visit o).Agrees R
  | .standard => agrees_expand hR ho
  | .strict strictness => agrees_interceptor_visit (agrees_refuseMissing hR ho strictness)
  | .preserving => agrees_interceptor_visit (agrees_keepUnset hR ho)

/-- What a reference gives in a mode does not depend on what was called and noted before. -/
theorem isBlind_visit (mode : Mode) (o : Occurrence) : (mode.visit o).IsBlind :=
  Run.isBlind_iff_agrees.2 (agrees_visit Resolver.areAlike_eq trivial mode)

end Mode

namespace Node
variable {visit visit' : Occurrence → Run Session Text}

mutual

/-- The values of a tree by two kinds of visits match if the visits of its references do. -/
theorem matches_evaluate : ∀ n : Node, (∀ r ∈ n.references, ∀ values,
      (visit ⟨r.name, r.symbol, values, r.source⟩).Matches R
        (visit' ⟨r.name, r.symbol, values, r.source⟩)) →
    (n.evaluate visit).Matches R (n.evaluate visit')
  | .text value, _ => Run.agrees_pure value
  | .reference _ _ arguments _ _, h => by
    obtain ⟨hself, harguments⟩ := List.forall_mem_cons.1 h
    rw [evaluate, evaluate]
    exact (matches_evaluateEach arguments harguments).bind hself
  | .sequence children, h => by
    rw [evaluate, evaluate]
    exact (matches_evaluateEach children h).bind fun _ => Run.agrees_pure _

/-- The values of the trees of a list by two kinds of visits match if the visits of their references
do. -/
theorem matches_evaluateEach : ∀ ns : List Node, (∀ r ∈ referencesEach ns, ∀ values,
      (visit ⟨r.name, r.symbol, values, r.source⟩).Matches R
        (visit' ⟨r.name, r.symbol, values, r.source⟩)) →
    (evaluateEach visit ns).Matches R (evaluateEach visit' ns)
  | [], _ => Run.agrees_pure []
  | n :: ns, h => by
    obtain ⟨hn, hns⟩ := List.forall_mem_append.1 h
    rw [evaluateEach, evaluateEach]
    exact (matches_evaluate n hn).bind fun _ =>
      (matches_evaluateEach ns hns).bind fun _ => Run.agrees_pure _

end

/-- The value of a tree does not tell resolvers apart that its visits do not. -/
theorem agrees_evaluate (hvisit : ∀ o, N o.name → (visit o).Agrees R) (n : Node)
    (h : ∀ r ∈ n.references, N r.name) : (n.evaluate visit).Agrees R :=
  matches_evaluate n fun r hr _ => hvisit _ (h r hr)

/-- The value of a tree does not depend on what was called and noted before. -/
theorem isBlind_evaluate (hvisit : ∀ o, (visit o).IsBlind) (n : Node) :
    (n.evaluate visit).IsBlind :=
  Run.isBlind_iff_agrees.2 (agrees_evaluate (N := fun _ => True)
    (fun o _ => Run.isBlind_iff_agrees.1 (hvisit o)) n fun _ _ => trivial)

end Node

end

/-- What expanding a template over a resolver comes to: the text or the fault, and the resolver that
is left. -/
def Template.expandOver (mode : Mode) (t : Template) (r : Resolver) :
    Except Fault Text × Resolver :=
  (t.expand mode).outcome r

end ParameterExpansion

import ParameterExpansion.Proofs.Evaluation.Order
import ParameterExpansion.Proofs.Evaluation.Raised

/-!
# The calls of an evaluation

Whatever an evaluation calls to learn what a reference gives, an interceptor, the resolver of a
session or any callback that looks names up, it calls once for a reference, in the order of the tree
(`Template.calls_in_postorder`). A callback is followed by what the states tell of its calls: each
visit tells one more (`Tells`), so what is told in the end are the visits.
-/

namespace ParameterExpansion

/-! ## What states tell -/

namespace Run
variable {σ α β γ : Type} {told : σ → γ}

/-- A run whose faults are changed leaves the same. -/
@[simp] theorem left_mapFault (f : Fault → Fault) (x : Run σ α) (s : σ) :
    (x.mapFault f).left s = x.left s := by
  unfold left mapFault
  cases x s <;> rfl

/-- The run changes nothing of what a state tells. -/
def Keeps (told : σ → γ) (x : Run σ α) : Prop := ∀ s, told (x.left s) = told s

/-- A run that gives something right away changes nothing. -/
theorem keeps_pure (a : α) : Keeps told (pure a) := fun _ => rfl

/-- A run that ends with a fault right away changes nothing. -/
theorem keeps_throw (fault : Fault) : Keeps told (throw fault : Run σ α) := fun _ => rfl

/-- What an `Except` gives changes nothing. -/
theorem keeps_ofExcept (x : Except Fault α) : (ofExcept x).Keeps told :=
  fun s => congrArg told (left_ofExcept x s)

/-- After a run in two steps, of which the second one changes nothing, a state tells what it does
after the first one. -/
theorem told_left_bind (told : σ → γ) {x : Run σ α} {f : α → Run σ β}
    (hf : ∀ a, (f a).Keeps told) (s : σ) : told ((x >>= f).left s) = told (x.left s) := by
  cases h : x s with
  | ok a t =>
    have hbind : (x >>= f).left s = (f a).left t := by rw [left, left, bind_of_ok h]
    rw [hbind, left_of_ok h]
    exact hf a t
  | error fault t => rw [left_of_error h, left_of_error (bind_of_error h)]

/-- A run in two steps changes nothing if neither step does. -/
theorem Keeps.bind {x : Run σ α} {f : α → Run σ β} (hx : x.Keeps told)
    (hf : ∀ a, (f a).Keeps told) : (x >>= f).Keeps told :=
  fun s => (told_left_bind told hf s).trans (hx s)

/-- A run that depends on the state changes nothing if it does not in any state. -/
theorem keeps_get_bind {f : σ → Run σ α} (hf : ∀ s, (f s).Keeps told) :
    Keeps told (get >>= f) :=
  Keeps.bind (x := get) (fun _ => rfl) hf

end Run

/-- Each visit adds what an occurrence shows to what the states tell. -/
def Tells {σ β : Type} (visit : Occurrence → Run σ Text) (told : σ → List β)
    (shown : Occurrence → β) : Prop :=
  ∀ o s, told ((visit o).left s) = told s ++ [shown o]

section
variable {σ β : Type} {visit : Occurrence → Run σ Text} {told : σ → List β}
  {shown : Occurrence → β} {s t : σ} {vs : List (Occurrence × σ)} {fault : Fault}

/-- At the end of a walk its visits have been told. -/
theorem Walk.told_eq {fault? : Option Fault} (h : Walk visit s vs fault? t)
    (htells : Tells visit told shown) : told t = told s ++ vs.map fun v => shown v.1 := by
  induction h with
  | nil => exact (List.append_nil _).symm
  | @fault o s _ t h => rw [← Run.left_of_error h, htells o s]; rfl
  | @cons o s _ t vs _ u h _ ih =>
    rw [ih, ← Run.left_of_ok h, htells o s, List.append_assoc]
    rfl

/-- The last visit of a walk that ends with a fault does so. -/
theorem Walk.exists_last (h : Walk visit s vs (some fault) t) :
    ∃ before o u, vs = before ++ [(o, u)] ∧ visit o u = .error fault t := by
  generalize hfault : some fault = fault? at h
  induction h with
  | nil => cases hfault
  | fault h =>
    cases hfault
    exact ⟨[], _, _, rfl, h⟩
  | cons _ _ ih =>
    obtain ⟨before, o, u, rfl, hvisit⟩ := ih hfault
    exact ⟨_ :: before, o, u, rfl, hvisit⟩

/-- An evaluation that ends with a fault makes a visit that does. -/
theorem Node.exists_visit_of_error {n : Node} (h : n.evaluate visit s = .error fault t) :
    ∃ o u, (o, u) ∈ n.visits visit s ∧ visit o u = .error fault t := by
  obtain ⟨before, o, u, hvisits, hvisit⟩ := ((n.walk_evaluate s).2 h).exists_last
  refine ⟨o, u, ?_, hvisit⟩
  rw [hvisits]
  exact List.mem_append_right _ List.mem_cons_self

/-- An evaluation of a tree from a state tells its visits, and visits the references of the tree,
each after the ones in its arguments: all of them if it ends well, and otherwise all up to the one
whose visit ends with the fault. The arguments of an occurrence are the values of those of the
reference, in the state to which the evaluation comes there. -/
def Node.CallsInOrder (n : Node) (visit : Occurrence → Run σ Text) (told : σ → List β)
    (shown : Occurrence → β) (s : σ) : Prop :=
  ∃ vs : List (Occurrence × σ),
    told ((n.evaluate visit).left s) = told s ++ vs.map (fun v => shown v.1) ∧
    match n.evaluate visit s with
    | .ok _ _ =>
      List.Forall₂ (IsVisited visit (Comes visit n s)) n.postorder vs ∧
      vs.map (fun v => v.1.name) = n.asks
    | .error fault t =>
      VisitedUpTo visit (Comes visit n s) n.postorder vs ∧
      vs.map (fun v => v.1.name) <+: n.asks ∧
      ∃ before o u, vs = before ++ [(o, u)] ∧ visit o u = .error fault t

/-- An evaluation calls in order what tells each visit. -/
theorem Node.callsInOrder_of_tells (n : Node) (htells : Tells visit told shown) (s : σ) :
    n.CallsInOrder visit told shown s := by
  obtain ⟨hok, herror⟩ := @Node.walk_evaluate σ visit n s
  obtain ⟨hall, hsome⟩ := @Node.visitedInOrder σ visit n s
  have hnames : ∀ {rs vs}, List.Forall₂ (IsVisited visit (Comes visit n s)) rs vs →
      vs.map (fun v => v.1.name) = rs.map (·.name) :=
    fun h => (map_eq_of_forall₂ (g := fun o => o.name) h fun _ _ => rfl).symm
  obtain ⟨_, hwalk⟩ := n.exists_walk_left visit s
  refine ⟨n.visits visit s, hwalk.told_eq htells, ?_⟩
  cases h : n.evaluate visit s with
  | ok value t => exact ⟨hall h, (hnames (hall h)).trans n.asks_eq_map_postorder.symm⟩
  | error fault t =>
    refine ⟨hsome, ?_, (herror h).exists_last⟩
    obtain ⟨done, hdone, hvisits⟩ := hsome
    rw [hnames hvisits, n.asks_eq_map_postorder]
    exact hdone.map _

end

/-! ## Callbacks -/

section
variable {σ α β : Type}

/-- A run in a state with a list of entries beside it, which stays as it is. -/
def Run.beside (x : Run σ α) : Run (σ × List β) α := fun s =>
  match x s.1 with
  | .ok a t => .ok a (t, s.2)
  | .error fault t => .error fault (t, s.2)

/-- A run in a state with a list of entries beside it, to which it adds one. -/
def Run.noting (entry : β) (x : Run σ α) : Run (σ × List β) α := fun s =>
  match x s.1 with
  | .ok a t => .ok a (t, s.2 ++ [entry])
  | .error fault t => .error fault (t, s.2 ++ [entry])

/-- A run changes nothing of what stands beside its state. -/
theorem Run.keeps_beside (x : Run σ α) : (x.beside (β := β)).Keeps Prod.snd := by
  intro s
  unfold left beside
  cases x s.1 <;> rfl

/-- A run that notes an entry adds it, however it ends. -/
theorem Run.snd_left_noting (entry : β) (x : Run σ α) (s : σ × List β) :
    ((x.noting entry).left s).2 = s.2 ++ [entry] := by
  unfold left noting
  cases x s.1 <;> rfl

variable {told : σ → List β}

/-- Where an interceptor tells each call, so do the visits that leave it to the interceptor. -/
theorem Interceptor.tells_visit {interceptor : Interceptor σ} {shown : Occurrence → β}
    (h : ∀ o s, told ((interceptor o).left s) = told s ++ [shown o]) :
    Tells interceptor.visit told shown := by
  intro o s
  refine (Run.told_left_bind told ?_ s).trans ?_
  · rintro ⟨value, proceed⟩
    cases proceed with
    | true => exact Run.keeps_ofExcept _
    | false => exact Run.keeps_pure _
  · rw [Run.left_mapFault]
    exact h o s

/-- The calls of an interceptor are told by what is kept of them. -/
theorem Interceptor.tells_recording (interceptor : Interceptor σ) :
    Tells interceptor.recording.visit Prod.snd id := by
  have hrecording : ∀ o, interceptor.recording o = (interceptor o).noting o := by
    intro o
    funext s
    unfold recording Run.noting
    cases interceptor o s.1 <;> rfl
  refine tells_visit fun o s => ?_
  rw [hrecording]
  exact Run.snd_left_noting o (interceptor o) s

/-- The visit of a standard evaluation with any callbacks: one looks names up, and one is given what
becomes of each value. -/
def Mode.expandBy (lookup : Text → Run σ (Option Text))
    (keep : Occurrence → Option Text → Text → Run σ Unit) (o : Occurrence) : Run σ Text := do
  let value ← (lookup o.name).mapFault (.wrapped .resolver o.name)
  let result ← Run.ofExcept (o.result value)
  keep o value result
  return result

/-- A standard visit looks names up in the session and writes the results back. -/
theorem Mode.expand_eq_expandBy : expand = expandBy Session.ask writeBack := rfl

/-- Where a callback tells each lookup, and the other one none, so do the visits by them. -/
theorem Mode.tells_expandBy {lookup : Text → Run σ (Option Text)}
    {keep : Occurrence → Option Text → Text → Run σ Unit} {told : σ → List Text}
    (hlookup : ∀ name s, told ((lookup name).left s) = told s ++ [name])
    (hkeep : ∀ o value result, (keep o value result).Keeps told) :
    Tells (expandBy lookup keep) told (·.name) := by
  intro o s
  refine (Run.told_left_bind told (fun value => ?_) s).trans ?_
  · exact (Run.keeps_ofExcept _).bind fun result =>
      (hkeep o value result).bind fun _ => Run.keeps_pure _
  · rw [Run.left_mapFault]
    exact hlookup o.name s

/-- The names that are looked up by a callback are told when each lookup is noted. -/
theorem Mode.tells_expandBy_noting (lookup : Text → Run σ (Option Text))
    (keep : Occurrence → Option Text → Text → Run σ Unit) :
    Tells (expandBy (fun name => (lookup name).noting name)
      fun o value result => (keep o value result).beside) Prod.snd (·.name) :=
  tells_expandBy (fun name s => Run.snd_left_noting name (lookup name) s)
    fun o value result => Run.keeps_beside (keep o value result)

end

/-! ## Sessions -/

/-- The name that a resolver is asked for in a call, if it is asked for one. -/
def Call.asked? : Call → Option Text
  | .ask name _ => some name
  | .assign .. => none

/-- The names that the resolver of a session was asked for, the first one first. -/
def Session.asked (s : Session) : List Text := s.calls.filterMap Call.asked?

namespace Session

/-- A question is told, whatever the answer. -/
theorem asked_left_ask (name : Text) (s : Session) :
    ((ask name).left s).asked = s.asked ++ [name] := by
  have hcalls : ((ask name).left s).calls =
      s.calls ++ [.ask name (s.resolver.askedLeaves name 0)] := by
    unfold Run.left ask
    cases s.resolver.ask name <;> rfl
  rw [asked, hcalls, List.filterMap_append]
  rfl

/-- An assignment asks for nothing. -/
theorem keeps_assign (name value : Text) : (assign name value).Keeps asked := by
  intro s
  show (s.calls ++ [_]).filterMap Call.asked? = s.asked
  rw [List.filterMap_append]
  exact List.append_nil _

end Session

namespace Mode

/-- Writing back asks for nothing. -/
theorem keeps_writeBack (o : Occurrence) (value : Option Text) (result : Text) :
    (writeBack o value result).Keeps Session.asked := by
  refine Run.keeps_get_bind fun s => ?_
  split
  · exact Session.keeps_assign _ _
  · exact Run.keeps_pure _

/-- Of what the strict interceptor does, only the question asks for something. -/
theorem asked_left_refuseMissing (k : Strictness) (o : Occurrence) (s : Session) :
    ((refuseMissing k o).left s).asked = s.asked ++ [o.name] := by
  refine (Run.told_left_bind Session.asked (fun value => ?_) s).trans
    (Session.asked_left_ask o.name s)
  split
  · exact Run.keeps_throw _
  · refine Run.keeps_get_bind fun t => ?_
    split
    · refine (Run.keeps_ofExcept _).bind fun result => ?_
      split
      · exact (Session.keeps_assign _ _).bind fun _ => Run.keeps_pure _
      · exact Run.keeps_pure _
    · exact Run.keeps_pure _

/-- Of what the preserving interceptor does, only the question asks for something. -/
theorem asked_left_keepUnset (o : Occurrence) (s : Session) :
    ((keepUnset o).left s).asked = s.asked ++ [o.name] := by
  refine (Run.told_left_bind Session.asked (fun value => ?_) s).trans
    (Session.asked_left_ask o.name s)
  split <;> exact Run.keeps_pure _

/-- In every mode a session tells the names of the visits. -/
theorem tells_visit : ∀ mode : Mode, Tells mode.visit Session.asked (·.name)
  | .standard => by
    rw [visit, expand_eq_expandBy]
    exact tells_expandBy Session.asked_left_ask keeps_writeBack
  | .strict k => Interceptor.tells_visit (asked_left_refuseMissing k)
  | .preserving => Interceptor.tells_visit asked_left_keepUnset

end Mode

/-- A walk from a resolver that always answers makes each visit over one that does. -/
theorem Walk.answers {mode : Mode} {s t : Session} {vs : List (Occurrence × Session)}
    {fault? : Option Fault} (h : Walk mode.visit s vs fault? t) (hs : s.resolver.Answers) :
    ∀ v ∈ vs, v.2.resolver.Answers := by
  induction h with
  | nil => exact fun _ h => nomatch h
  | fault => exact List.forall_mem_singleton.2 hs
  | @cons o s _ t _ _ _ h _ ih =>
    refine List.forall_mem_cons.2 ⟨hs, ih ?_⟩
    rw [← Run.left_of_ok h]
    exact Mode.answers_left_visit mode o hs

/-! ## Expansions -/

namespace Template

/-- What an expansion calls to learn what a reference gives is called in the order of the tree,
whatever it gives: an interceptor of any kind, for occurrences; any callback that looks names up,
and the resolver of a session in each mode, for names. These are the names of the template's
references in another order. Over a resolver that always answers, an expansion that is given up is
about the name that the resolver was asked for last. -/
theorem calls_in_postorder (template : Template) :
    (∀ {σ : Type} (interceptor : Interceptor σ) (s : σ),
      template.root.CallsInOrder interceptor.recording.visit Prod.snd id (s, [])) ∧
    (∀ {σ : Type} (lookup : Text → Run σ (Option Text))
      (keep : Occurrence → Option Text → Text → Run σ Unit) (s : σ),
      template.root.CallsInOrder (Mode.expandBy (fun name => (lookup name).noting name)
        fun o value result => (keep o value result).beside) Prod.snd (·.name) (s, [])) ∧
    (∀ (mode : Mode) (s : Session),
      template.root.CallsInOrder mode.visit Session.asked (·.name) s) ∧
    template.root.asks.Perm (template.references.map (·.name)) ∧
    ∀ {mode : Mode} {s t : Session} {e : EvaluationError}, s.resolver.Answers →
      template.expand mode s = .error (.evaluation e) t →
      ∃ name, t.asked.getLast? = some name ∧ e.subject = some name := by
  refine ⟨fun interceptor s => template.root.callsInOrder_of_tells interceptor.tells_recording _,
    fun lookup keep s => template.root.callsInOrder_of_tells
      (Mode.tells_expandBy_noting lookup keep) _,
    fun mode s => template.root.callsInOrder_of_tells mode.tells_visit s, ?_, ?_⟩
  · rw [Node.asks_eq_map_postorder]
    exact template.root.postorder_perm_references.map _
  · intro mode s t e hs h
    have hwalk := (Node.walk_evaluate template.root s).2 h
    obtain ⟨before, o, u, hvisits, hvisit⟩ := hwalk.exists_last
    have hu := hwalk.answers hs (o, u) (by rw [hvisits]; simp)
    refine ⟨o.name, ?_, Mode.subject_of_visit hu hvisit⟩
    rw [hwalk.told_eq mode.tells_visit, hvisits]
    simp

/-- A strict expansion of the specimen is given up at `y`, the last name that is asked for. -/
theorem calls_in_postorder_specimen :
    ∃ e t, specimen.expand (.strict ⟨true, false⟩) (.ofResolver .specimen) =
        .error (.evaluation e) t ∧
      t.asked = ["x".toList, "x".toList, "y".toList] ∧ specimen.root.asks = t.asked ∧
      t.asked.getLast? = some "y".toList ∧ e.subject = some "y".toList := by
  have hrefused : specimen.expand (.strict ⟨true, false⟩) (.ofResolver .specimen) =
      .error (.evaluation ⟨.notSet, some "y".toList⟩) _ := rfl
  obtain ⟨-, -, -, -, hlast⟩ := calls_in_postorder specimen
  obtain ⟨name, hname, hsubject⟩ := hlast Resolver.answers_specimen hrefused
  cases hsubject
  exact ⟨_, _, hrefused, rfl, rfl, hname, rfl⟩

end Template

end ParameterExpansion

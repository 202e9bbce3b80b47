import ParameterExpansion.Proofs.Evaluation.Outcome
import ParameterExpansion.Proofs.Evaluation.Standard
import ParameterExpansion.Proofs.Render.Captured

/-!
# Supplied values

The values of the variables can be supplied in three ways: by a resolver, by an interceptor that
hands them on to the operators (`Interceptor.handing`), and by one that applies the operators itself
(`Interceptor.settling`). None of them changes anything that a later visit sees, so what an
evaluation gives is what its visits give, put together without any state (`Node.valueBy`,
`Node.gives_evaluate`). The three agree unless a field is oversized (`Template.expand_supplied`):
that fault the second interceptor turns into an error of its own (`Settles`).
-/

namespace ParameterExpansion

/-- The resolver that answers by a function, which raises nothing. -/
def Resolver.ofValues (f : Text → Option Text) : Resolver := .function fun name => .ok (f name)

namespace Interceptor
variable {σ : Type}

/-- The interceptor that hands the values of a function on to the operators. -/
def handing (f : Text → Option Text) : Interceptor σ := fun o => return (f o.name, true)

/-- The interceptor that applies the operators to the values of a function itself. -/
def settling (f : Text → Option Text) : Interceptor σ := fun o => do
  let text ← Run.ofExcept (o.result (f o.name))
  return (some text, false)

end Interceptor

/-- Where the invariant holds, a run gives what an `Except` does, and the invariant goes on
holding. -/
def Run.Gives {σ α : Type} (Inv : σ → Prop) (x : Run σ α) (e : Except Fault α) : Prop :=
  ∀ s, Inv s → ∃ t, Inv t ∧ x s = Run.ofExcept e t

/-- What a visit gives when its operator is applied by an interceptor, in place of what it gives
when it is applied to the value that an interceptor hands on: the same, but for refused values,
which are faults of the interceptor. -/
inductive Settles {α : Type} : Except Fault α → Except Fault α → Prop
  /-- A value is the same. -/
  | ok : Settles (.ok a) (.ok a)
  /-- So is an evaluation error. -/
  | evaluation : Settles (.error (.evaluation e)) (.error (.evaluation e))
  /-- A refusal is reported as a failure of the interceptor. -/
  | invalid : Settles (.error (.invalid reason))
      (.error (.evaluation ⟨.failed .interceptor reason.message, some name⟩))

namespace Node

mutual

/-- The value of a tree, where a function gives those of its occurrences. -/
def valueBy (give : Occurrence → Except Fault Text) : Node → Except Fault Text
  | .text value => .ok value
  | .reference name symbol arguments source _ => do
    let values ← valueByEach give arguments
    give ⟨name, symbol, values, source⟩
  | .sequence children => do
    let values ← valueByEach give children
    return values.flatten

/-- The values of the trees of a list, where a function gives those of their occurrences. -/
def valueByEach (give : Occurrence → Except Fault Text) : List Node → Except Fault (List Text)
  | [] => .ok []
  | n :: ns => do
    let value ← valueBy give n
    let values ← valueByEach give ns
    return value :: values

end

end Node

/-! ## Evaluations without state -/

namespace Run
variable {σ α β : Type} {Inv : σ → Prop}

/-- A run that gives something right away. -/
theorem gives_pure (a : α) : Gives Inv (pure a) (pure a) := fun s hs => ⟨s, hs, rfl⟩

/-- A run in two steps gives what the steps do, one after the other. -/
theorem Gives.bind {x : Run σ α} {e : Except Fault α} {f : α → Run σ β} {g : α → Except Fault β}
    (hx : x.Gives Inv e) (hf : ∀ a, (f a).Gives Inv (g a)) : (x >>= f).Gives Inv (e >>= g) := by
  intro s hs
  obtain ⟨t, ht, hxs⟩ := hx s hs
  cases e with
  | ok a =>
    obtain ⟨u, hu, hfa⟩ := hf a t ht
    exact ⟨u, hu, (bind_of_ok hxs).trans hfa⟩
  | error fault => exact ⟨t, ht, bind_of_error hxs⟩

/-- A run that leaves a resolver as it is comes to what it gives. -/
theorem Gives.outcome {x : Run Session α} {e : Except Fault α} {r : Resolver}
    (h : x.Gives (·.resolver = r) e) : x.outcome r = (e, r) := by
  obtain ⟨t, ht, hx⟩ := h (.ofResolver r) rfl
  rw [Run.outcome, outcomeIn, hx]
  cases e <;> exact congrArg _ ht

/-- A run that leaves the state as it is does nothing but give something. -/
theorem Gives.eq_ofExcept {x : Run σ α} {e : Except Fault α} {s : σ} (h : x.Gives (· = s) e) :
    x s = ofExcept e s := by
  obtain ⟨_, rfl, hx⟩ := h s rfl
  exact hx

end Run

namespace Node

section
variable {σ : Type} {Inv : σ → Prop} {visit : Occurrence → Run σ Text}
  {give : Occurrence → Except Fault Text}

mutual

/-- An evaluation gives what its visits do. -/
theorem gives_evaluate (h : ∀ o, (visit o).Gives Inv (give o)) :
    ∀ n : Node, (n.evaluate visit).Gives Inv (n.valueBy give)
  | .text value => Run.gives_pure value
  | .reference _ _ arguments _ _ => by
    rw [evaluate, valueBy]
    exact (gives_evaluateEach h arguments).bind fun _ => h _
  | .sequence children => by
    rw [evaluate, valueBy]
    exact (gives_evaluateEach h children).bind fun _ => Run.gives_pure _

/-- An evaluation of a list of trees gives what its visits do. -/
theorem gives_evaluateEach (h : ∀ o, (visit o).Gives Inv (give o)) :
    ∀ ns : List Node, (evaluateEach visit ns).Gives Inv (valueByEach give ns)
  | [] => Run.gives_pure []
  | n :: ns => by
    rw [evaluateEach, valueByEach]
    exact (gives_evaluate h n).bind fun _ =>
      (gives_evaluateEach h ns).bind fun _ => Run.gives_pure _

end

end

end Node

/-! ## The three ways -/

section
variable {f : Text → Option Text} {o : Occurrence}

/-- Over a function, a standard visit gives the result of the operator for the value of the
function. -/
theorem Mode.gives_standard : (Mode.standard.visit o).Gives (·.resolver = .ofValues f)
    (o.result (f o.name)) := by
  intro s hs
  have hask : Session.ask o.name s = .ok (f o.name) _ :=
    Session.ask_eq_ok_iff.2 ⟨(congrArg (Resolver.ask o.name) hs).trans rfl, rfl⟩
  refine ⟨_, ?_, expand_eq_ofExcept hask ?_⟩
  · exact hs
  show (isAssigning o.symbol && s.resolver.acceptsAssignment) = false
  rw [hs]
  exact Bool.and_false _

namespace Interceptor
variable {σ : Type} {Inv : σ → Prop}

/-- So does a visit by the interceptor that hands the values on. -/
theorem gives_handing : ((handing f : Interceptor σ).visit o).Gives Inv (o.result (f o.name)) :=
  fun s hs => ⟨s, hs, rfl⟩

/-- The interceptor that applies the operators has their results, or fails with their faults. -/
theorem gives_settling : ((settling f : Interceptor σ).visit o).Gives Inv
    ((o.result (f o.name)).mapError (.wrapped .interceptor o.name)) := by
  intro s hs
  refine ⟨s, hs, ?_⟩
  cases hresult : o.result (f o.name) with
  | ok text =>
    have hsettling : settling f o s = .ok (some text, false) s := by
      rw [settling, hresult]
      rfl
    exact Run.bind_of_ok (Run.mapFault_eq_ok_iff.2 hsettling)
  | error fault =>
    have hsettling : (settling f : Interceptor σ) o s = .error fault s := by
      rw [settling, hresult]
      rfl
    exact Run.bind_of_error (Run.mapFault_eq_error_iff.2 ⟨fault, hsettling, rfl⟩)

end Interceptor

namespace Settles
variable {α β : Type} {x y : Except Fault α}

/-- What settles in two steps does so in both. -/
theorem bind {g k : α → Except Fault β} (hxy : Settles x y) (hgk : ∀ a, Settles (g a) (k a)) :
    Settles (x >>= g) (y >>= k) := by
  cases hxy with
  | ok => exact hgk _
  | evaluation => exact .evaluation
  | invalid => exact .invalid

/-- What is not refused is the same. -/
theorem eq_of_not_invalid (h : Settles x y) (hx : ∀ reason, x ≠ .error (.invalid reason)) :
    y = x ∧ ∃ z : Except EvaluationError α, x = z.mapError .evaluation := by
  cases h with
  | @ok a => exact ⟨rfl, .ok a, rfl⟩
  | @evaluation e => exact ⟨rfl, .error e, rfl⟩
  | invalid => exact absurd rfl (hx _)

/-- The result of an operator and what the interceptor makes of it. -/
theorem result (o : Occurrence) (value : Option Text) :
    Settles (o.result value) ((o.result value).mapError (.wrapped .interceptor o.name)) := by
  cases h : o.result value with
  | ok text => exact .ok
  | error fault =>
    obtain ⟨e, rfl⟩ | ⟨reason, rfl⟩ := Occurrence.isOperators_of_result h
    · exact .evaluation
    · exact .invalid

end Settles

namespace Node
variable {give give' : Occurrence → Except Fault Text}

mutual

/-- The values of a tree settle when those of its occurrences do. -/
theorem settles_valueBy (h : ∀ o, Settles (give o) (give' o)) :
    ∀ n : Node, Settles (n.valueBy give) (n.valueBy give')
  | .text _ => .ok
  | .reference _ _ arguments _ _ => by
    rw [valueBy, valueBy]
    exact (settles_valueByEach h arguments).bind fun _ => h _
  | .sequence children => by
    rw [valueBy, valueBy]
    exact (settles_valueByEach h children).bind fun _ => .ok

/-- The values of the trees of a list settle when those of their occurrences do. -/
theorem settles_valueByEach (h : ∀ o, Settles (give o) (give' o)) :
    ∀ ns : List Node, Settles (valueByEach give ns) (valueByEach give' ns)
  | [] => .ok
  | n :: ns => by
    rw [valueByEach, valueByEach]
    exact (settles_valueBy h n).bind fun _ => (settles_valueByEach h ns).bind fun _ => .ok

end

end Node

end

/-- Three ways to supply the values of a function agree: by a resolver, by an interceptor that hands
them on to the operators, and by one that applies the operators itself. All three give the same
text, or the same evaluation error with the same message about the same variable, unless an
oversized field is reached. -/
theorem Template.expand_supplied (template : Template) (f : Text → Option Text)
    (h : ∀ count t,
      ¬ template.ReachesOversized .standard (.ofResolver (.ofValues f)) count t) :
    ∃ x : Except EvaluationError Text,
      template.expandOver .standard (.ofValues f) = (x.mapError .evaluation, .ofValues f) ∧
      ∀ {σ : Type} (s : σ),
        template.expandWith (.handing f) s = Run.ofExcept (x.mapError .evaluation) s ∧
        template.expandWith (.settling f) s = Run.ofExcept (x.mapError .evaluation) s := by
  have hstandard : template.expandOver .standard (.ofValues f) = _ :=
    (template.root.gives_evaluate fun _ => Mode.gives_standard).outcome
  have hreached : ∀ reason, template.root.valueBy (fun o => o.result (f o.name)) ≠
      .error (.invalid reason) := by
    intro reason hvalue
    obtain ⟨t, -, hrun⟩ := template.root.gives_evaluate (fun _ => Mode.gives_standard)
      (.ofResolver (.ofValues f)) rfl
    rw [hvalue] at hrun
    obtain ⟨e, he, -⟩ | ⟨count, -, hcount⟩ := expand_eq_error_iff.1 hrun
    · cases he
    · exact h count t hcount
  have hsettles := template.root.settles_valueBy fun o => Settles.result o (f o.name)
  obtain ⟨hsame, x, hx⟩ := hsettles.eq_of_not_invalid hreached
  rw [hx] at hstandard hsame
  refine ⟨x, hstandard, fun s => ⟨?_, ?_⟩⟩
  · rw [← hx]
    exact (template.root.gives_evaluate fun _ => Interceptor.gives_handing).eq_ofExcept
  · rw [← hsame]
    exact (template.root.gives_evaluate fun _ => Interceptor.gives_settling).eq_ofExcept

/-- The template `$\x7bx:1:3\x7d$\x7by:=d\x7d$y`: a slice, a default and a variable. -/
def Template.slicing : Template where
  root := .sequence [
    .reference "x".toList ":".toList [.text "1".toList, .text "3".toList]
      "$\x7bx:1:3\x7d".toList 0,
    .reference "y".toList ":=".toList [.text "d".toList] "$\x7by:=d\x7d".toList 8,
    .reference "y".toList [] [] "$y".toList 15]
  source := "$\x7bx:1:3\x7d$\x7by:=d\x7d$y".toList

example : (Template.parse ⟨1, by decide, by decide⟩ Template.slicing.source).map (·.root) =
    .ok Template.slicing.root := by cbv

/-- The function that knows the value of one variable. -/
def onlyOf (name value : Text) (n : Text) : Option Text := if n = name then some value else none

/-- With `hello` for `x` alone, all three ways give the slice of it and the default of `y`, and that
once: nothing is assigned to a function. -/
theorem Template.expand_supplied_specimen :
    slicing.expandOver .standard (.ofValues (onlyOf "x".toList "hello".toList)) =
      (.ok "elld".toList, .ofValues (onlyOf "x".toList "hello".toList)) ∧
    slicing.expandWith (.handing (onlyOf "x".toList "hello".toList)) () = .ok "elld".toList () ∧
    slicing.expandWith (.settling (onlyOf "x".toList "hello".toList)) () =
      .ok "elld".toList () := by
  have hok : slicing.expand .standard (.ofResolver (.ofValues (onlyOf "x".toList "hello".toList))) =
      .ok "elld".toList _ := rfl
  -- The fields of the slice are reached, and they are read.
  have hreached : ∀ count t, ¬ slicing.ReachesOversized .standard
      (.ofResolver (.ofValues (onlyOf "x".toList "hello".toList))) count t := by
    intro count t hcount
    have herror := expand_eq_error_iff.2 (.inr ⟨count, rfl, hcount⟩)
    rw [hok] at herror
    cases herror
  obtain ⟨x, hstandard, hwith⟩ := expand_supplied slicing _ hreached
  have hx : x.mapError Fault.evaluation = .ok "elld".toList :=
    (congrArg Prod.fst hstandard).symm
  rw [hx] at hstandard hwith
  exact ⟨hstandard, hwith ()⟩

end ParameterExpansion

import ParameterExpansion.Operator.Action
import ParameterExpansion.Session

/-!
# Evaluation

An evaluation walks a tree from left to right, the arguments of a reference before the reference
itself, and puts the values side by side. What a reference gives is decided by a visit, which sees
the reference with its arguments evaluated, an `Occurrence`. There are three ways to evaluate:

* `Mode.standard` asks the resolver and applies the operator; what an assigning operator gives is
  assigned to the variable when it differs from its value;
* `Mode.strict` does the same, but refuses missing values that no operator accounts for;
* `Mode.preserving` leaves a reference to an unset variable as it is written, unless its operator is
  a defaulting one, and never assigns.

The last two are interceptors: what an interceptor gives is either the output of the occurrence or a
value for its operator.
-/

namespace ParameterExpansion

/-- A reference being evaluated: its arguments are texts already. -/
structure Occurrence where
  /-- The name of the variable. -/
  name : Text
  /-- The symbol of the operator. -/
  symbol : Text
  /-- The values of the arguments. -/
  arguments : List Text
  /-- The slice of the template. -/
  source : Text
  deriving DecidableEq

/-- `o.result value` is what the operator of an occurrence makes of a value; an error is about the
variable. -/
def Occurrence.result (o : Occurrence) (value : Option Text) : Except Fault Text :=
  match operate o.symbol value o.arguments with
  | .ok t => .ok t
  | .error fault => .error (fault.about o.name)

namespace Node

mutual

/-- Evaluates a tree, a reference by `visit`. -/
def evaluate {σ : Type} (visit : Occurrence → Run σ Text) : Node → Run σ Text
  | .text value => pure value
  | .reference name symbol arguments source _ => do
    let values ← evaluateEach visit arguments
    visit ⟨name, symbol, values, source⟩
  | .sequence children => do
    let values ← evaluateEach visit children
    return values.flatten

/-- Evaluates the trees of a list from left to right. -/
def evaluateEach {σ : Type} (visit : Occurrence → Run σ Text) : List Node → Run σ (List Text)
  | [] => pure []
  | n :: ns => do
    let value ← evaluate visit n
    let values ← evaluateEach visit ns
    return value :: values

end

end Node

/-- An interceptor gives a value for an occurrence and tells whether the operator is still to be
applied to it. -/
abbrev Interceptor (σ : Type) := Occurrence → Run σ (Option Text × Bool)

namespace Interceptor

/-- The visit that leaves it to an interceptor what an occurrence gives. -/
def visit {σ : Type} (interceptor : Interceptor σ) (o : Occurrence) : Run σ Text := do
  let (value, proceed) ← (interceptor o).mapFault (.wrapped .interceptor o.name)
  if proceed then Run.ofExcept (o.result value) else return value.getD []

/-- An interceptor that also keeps the occurrences it was called for, the first one first. -/
def recording {σ : Type} (interceptor : Interceptor σ) : Interceptor (σ × List Occurrence) :=
  fun o s => match interceptor o s.1 with
    | .ok a t => .ok a (t, s.2 ++ [o])
    | .error fault t => .error fault (t, s.2 ++ [o])

end Interceptor

/-- Which missing values are refused where no operator accounts for them. -/
structure Strictness where
  /-- Refuse unset variables. -/
  noUnset : Bool
  /-- Refuse empty variables. -/
  noEmpty : Bool
  deriving DecidableEq

/-- Why a value may not be used with the operator of a symbol, if it may not. -/
def Strictness.refusal? (s : Strictness) (symbol : Text) (value : Option Text) :
    Option EvaluationCause :=
  if isDefaulting symbol then none
  else if value = none && s.noUnset then some .notSet
  else if value = some [] && s.noEmpty then some .setButEmpty
  else none

/-- A way to evaluate a template. -/
inductive Mode where
  /-- Every reference is expanded. -/
  | standard
  /-- Missing values are refused. -/
  | strict (strictness : Strictness)
  /-- References to unset variables are left as they are written. -/
  | preserving
  deriving DecidableEq

namespace Mode

/-- Assigns the result of an assigning operator to its variable, when it differs from the value and
the resolver can be assigned to. -/
def writeBack (o : Occurrence) (value : Option Text) (result : Text) : Run Session Unit := do
  if isAssigning o.symbol && value ≠ some result && (← get).resolver.acceptsAssignment then
    Session.assign o.name result

/-- The visit of a standard evaluation. -/
def expand (o : Occurrence) : Run Session Text := do
  let value ← (Session.ask o.name).mapFault (.wrapped .resolver o.name)
  let result ← Run.ofExcept (o.result value)
  writeBack o value result
  return result

/-- The interceptor that refuses missing values and otherwise gives the value of the variable; an
assigning operator it applies itself, in order to assign the result. -/
def refuseMissing (s : Strictness) : Interceptor Session := fun o => do
  let value ← Session.ask o.name
  match s.refusal? o.symbol value with
  | some cause => throw (.evaluation ⟨cause, some o.name⟩)
  | none =>
    if isAssigning o.symbol && (← get).resolver.acceptsAssignment then
      let result ← Run.ofExcept (o.result value)
      if value ≠ some result then Session.assign o.name result
      return (some result, false)
    else return (value, true)

/-- The interceptor that leaves references to unset variables as they are written, defaulting
operators apart. -/
def keepUnset : Interceptor Session := fun o => do
  let value ← Session.ask o.name
  if value = none && !isDefaulting o.symbol then return (some o.source, false)
  else return (value, true)

/-- What a reference gives in a mode. -/
def visit : Mode → Occurrence → Run Session Text
  | .standard => expand
  | .strict s => (refuseMissing s).visit
  | .preserving => keepUnset.visit

end Mode

/-- Expands a template in a mode. -/
def Template.expand (mode : Mode) (t : Template) : Run Session Text := t.root.evaluate mode.visit

/-- Expands a template and leaves it to an interceptor what each reference gives. -/
def Template.expandWith {σ : Type} (interceptor : Interceptor σ) (t : Template) : Run σ Text :=
  t.root.evaluate interceptor.visit

end ParameterExpansion

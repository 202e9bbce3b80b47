import ParameterExpansion.Message
import ParameterExpansion.Resolver
import ParameterExpansion.Template

/-!
# Sessions

A session is a resolver in use: the resolver as it is now, the calls made on it, and the messages
noted meanwhile. What runs in a session may end with a fault; what it did before stays done.
-/

namespace ParameterExpansion

/-- What changes a state and may end with a fault, which keeps the state that was reached. -/
abbrev Run (σ : Type) := EStateM Fault σ

/-- What an `Except` gives, as a run that leaves the state alone. -/
def Run.ofExcept {σ α : Type} : Except Fault α → Run σ α
  | .ok a => pure a
  | .error fault => throw fault

/-- A run whose faults are changed by `f`. -/
def Run.mapFault {σ α : Type} (f : Fault → Fault) (run : Run σ α) : Run σ α := fun s =>
  match run s with
  | .ok a t => .ok a t
  | .error fault t => .error (f fault) t

/-- A call on a resolver. -/
inductive Call where
  /-- The resolver was asked for a name, and asked these leaves. -/
  | ask (name : Text) (leaves : List Nat)
  /-- A value was assigned to a name, and reached this leaf, if any. -/
  | assign (name value : Text) (leaf : Option Nat)
  deriving DecidableEq

/-- A resolver in use. -/
structure Session where
  /-- The resolver as it is now. -/
  resolver : Resolver
  /-- The calls made on it, the first one first. -/
  calls : List Call
  /-- The messages noted, the first one first. -/
  log : List Message

namespace Session

/-- A session that begins with a resolver. -/
def ofResolver (resolver : Resolver) : Session := ⟨resolver, [], []⟩

/-- Notes a message. -/
def note (message : Message) : Run Session Unit := fun s =>
  .ok () { s with log := s.log ++ [message] }

/-- Asks the resolver for the value of a name. -/
def ask (name : Text) : Run Session (Option Text) := fun s =>
  let t := { s with calls := s.calls ++ [.ask name (s.resolver.askedLeaves name 0)] }
  match s.resolver.ask name with
  | .ok answer => .ok answer t
  | .error fault => .error fault t

/-- Assigns a value to a name; a store that takes it notes so. -/
def assign (name value : Text) : Run Session Unit := fun s =>
  let leaf := s.resolver.assignedLeaf? 0
  .ok () {
    resolver := s.resolver.assign name value
    calls := s.calls ++ [.assign name value leaf]
    log := if leaf.isSome then s.log ++ [.assigning name] else s.log }

/-- Assigns a value to a name if the resolver can be assigned to, and tells whether it can. -/
def tryAssign (name value : Text) : Run Session Bool := do
  if (← get).resolver.acceptsAssignment then
    assign name value
    return true
  else return false

/-- Reads the next template with a parser: its tree or what is wrong with it, and the parser. -/
def parseNext (p : Parser) (source : Text) : Run Session (Except ParseError Node × Parser) := do
  let (result, next) := p.parse source
  if result.isOk then note (.parsed source.length)
  return (result, next)

/-- Reads a template under a limit of so many levels. -/
def parse (levels : Int) (source : Text) : Run Session Template := do
  match NestingLimit.ofInt levels with
  | .error reason => throw (.invalid reason)
  | .ok limit => match Template.parse limit source with
    | .error e => throw e.fault
    | .ok template =>
      note (.parsed source.length)
      return template

end Session

end ParameterExpansion

import ParameterExpansion.Error
import ParameterExpansion.Store

/-!
# Resolvers

A resolver answers with the values of variables: from a store, by a function, or by asking other
resolvers one after the other until one has a value. Stores can be assigned to, functions cannot. A
chain always can: it hands the value on to the first member that can be assigned to, and drops it
when there is none. The stores and functions of a resolver are its leaves, numbered from the left.
-/

namespace ParameterExpansion

/-- What answers with the values of variables; no answer means that a variable is unset. -/
inductive Resolver where
  /-- Answers from a store. -/
  | store (values : Store)
  /-- Answers by a function, which may raise a fault. -/
  | function (answer : Text → Except Fault (Option Text))
  /-- Answers as the first of its members that has a value. -/
  | chain (members : List Resolver)

namespace Resolver

/-- The chain of some resolvers, of which there has to be at least one. -/
def chain? : List Resolver → Except InvalidValue Resolver
  | [] => .error .emptyChain
  | r :: rs => .ok (.chain (r :: rs))

mutual

/-- The answer of a resolver for a name. -/
def ask (name : Text) : Resolver → Except Fault (Option Text)
  | .store values => .ok (values.get? name)
  | .function answer => answer name
  | .chain members => askEach name members

/-- The answer of the first resolver in a list that has a value or raises a fault. -/
def askEach (name : Text) : List Resolver → Except Fault (Option Text)
  | [] => .ok none
  | r :: rs => match ask name r with
    | .ok none => askEach name rs
    | answer => answer

end

/-- Whether a resolver can be assigned to. -/
def acceptsAssignment : Resolver → Bool
  | .store _ | .chain _ => true
  | .function _ => false

mutual

/-- The resolver with a value stored under a name, where a store is reached. -/
def assign (name value : Text) : Resolver → Resolver
  | .store values => .store (values.set name value)
  | .function answer => .function answer
  | .chain members => .chain (assignFirst name value members)

/-- The resolvers of a list with a value stored in the first one that can be assigned to. -/
def assignFirst (name value : Text) : List Resolver → List Resolver
  | [] => []
  | r :: rs =>
    if r.acceptsAssignment then assign name value r :: rs else r :: assignFirst name value rs

end

mutual

/-- The stores and functions of a resolver, from left to right. -/
def leaves : Resolver → List Resolver
  | .store values => [.store values]
  | .function answer => [.function answer]
  | .chain members => leavesEach members

/-- The stores and functions of the resolvers in a list, from left to right. -/
def leavesEach : List Resolver → List Resolver
  | [] => []
  | r :: rs => leaves r ++ leavesEach rs

end

mutual

/-- The numbers of the leaves that are asked for a name, counted from `first` on. -/
def askedLeaves (name : Text) (first : Nat) : Resolver → List Nat
  | .store _ | .function _ => [first]
  | .chain members => askedLeavesEach name first members

/-- The numbers of the leaves of a list of resolvers that are asked for a name. -/
def askedLeavesEach (name : Text) (first : Nat) : List Resolver → List Nat
  | [] => []
  | r :: rs => askedLeaves name first r ++ match ask name r with
    | .ok none => askedLeavesEach name (first + r.leaves.length) rs
    | _ => []

end

mutual

/-- The number of the leaf that an assignment reaches, counted from `first` on. -/
def assignedLeaf? (first : Nat) : Resolver → Option Nat
  | .store _ => some first
  | .function _ => none
  | .chain members => assignedLeafFirst? first members

/-- The number of the leaf that an assignment to a list of resolvers reaches. -/
def assignedLeafFirst? (first : Nat) : List Resolver → Option Nat
  | [] => none
  | r :: rs =>
    if r.acceptsAssignment then assignedLeaf? first r
    else assignedLeafFirst? (first + r.leaves.length) rs

end

/-- The store of a leaf, when it is one. -/
def store? : Resolver → Option Store
  | .store values => some values
  | .function _ | .chain _ => none

end Resolver

end ParameterExpansion

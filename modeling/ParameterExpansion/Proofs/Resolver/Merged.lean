import ParameterExpansion.Resolver

/-!
# Trees of stores

A resolver that is made of stores alone answers like one store, the union of its leaves in which the
first leaf that has a name counts (`Resolver.StoresOnly.ask_eq`). What is assigned to it goes to the
first leaf (`Resolver.StoresOnly.assign_setFirst`), so it still answers like one store to which the
same was assigned.
-/

namespace ParameterExpansion

namespace Store

/-- The names of two stores, with the value of the first store that has one. -/
def union (a b : Store) : Store := a.entries.foldr (fun entry s => s.set entry.1 entry.2) b

/-- The first of two stores counts. -/
theorem get?_union (a b : Store) (name : Text) :
    (a.union b).get? name = (a.get? name).or (b.get? name) := by
  show (union a b).get? name = (a.entries.lookup name).or (b.get? name)
  rw [union]
  induction a.entries with
  | nil => rfl
  | cons entry rest ih =>
    rw [List.foldr_cons, get?_set, List.lookup_cons]
    by_cases hname : name = entry.1
    · simp [hname]
    · rw [if_neg hname, ih, beq_eq_false_iff_ne.2 hname]

/-- The union of stores, of which the first one that has a name counts. -/
def unionAll (stores : List Store) : Store := stores.foldr union empty

/-- A name has the value of the first store that has one. -/
theorem get?_unionAll (stores : List Store) (name : Text) :
    (unionAll stores).get? name = stores.findSome? (·.get? name) := by
  induction stores with
  | nil => rfl
  | cons s stores ih =>
    rw [unionAll, List.foldr_cons, get?_union, ← unionAll, ih, List.findSome?_cons]
    cases s.get? name <;> rfl

end Store

namespace Resolver

/-- A tree of chains, none of them empty, whose leaves are stores. -/
inductive StoresOnly : Resolver → Prop
  /-- A store. -/
  | store : StoresOnly (.store values)
  /-- A chain of such trees. -/
  | chain : StoresOnly r → (∀ q ∈ rs, StoresOnly q) → StoresOnly (.chain (r :: rs))

/-- The store that a resolver answers like when all its leaves are stores. -/
def merged (r : Resolver) : Store := .unionAll (r.leaves.filterMap store?)

mutual

/-- A resolver with another store in place of its first leaf. -/
def setFirst (first : Store) : Resolver → Resolver
  | .store _ => .store first
  | .function answer => .function answer
  | .chain members => .chain (setFirstEach first members)

/-- The resolvers of a list with another store in place of the first leaf of the first one. -/
def setFirstEach (first : Store) : List Resolver → List Resolver
  | [] => []
  | r :: rs => setFirst first r :: rs

end

section
variable {r : Resolver} {rs : List Resolver}

/-- Resolvers that each answer like one store answer like one store together. -/
theorem askEach_merged {name : Text} (h : ∀ r ∈ rs, ask name r = .ok (r.merged.get? name)) :
    askEach name rs =
      .ok ((Store.unionAll ((leavesEach rs).filterMap store?)).get? name) := by
  induction rs with
  | nil => rfl
  | cons r rs ih =>
    obtain ⟨hr, hrs⟩ := List.forall_mem_cons.1 h
    rw [askEach, hr, ih hrs, leavesEach, List.filterMap_append, Store.get?_unionAll,
      Store.get?_unionAll, List.findSome?_append, merged, Store.get?_unionAll]
    cases ((leaves r).filterMap store?).findSome? (·.get? name) <;> rfl

namespace StoresOnly

/-- A tree of stores answers like the union of its leaves. -/
theorem ask_eq (h : r.StoresOnly) (name : Text) : r.ask name = .ok (r.merged.get? name) := by
  induction h with
  | @store values =>
    rw [ask, merged, Store.get?_unionAll]
    show _ = Except.ok ([values].findSome? (·.get? name))
    rw [List.findSome?_singleton]
  | chain _ _ ihr ihs => exact askEach_merged (List.forall_mem_cons.2 ⟨ihr, ihs⟩)

/-- A tree of stores can be assigned to. -/
theorem acceptsAssignment_eq (h : r.StoresOnly) : r.acceptsAssignment = true := by
  cases h <;> rfl

/-- Another first leaf leaves a tree of stores one. -/
theorem setFirst (h : r.StoresOnly) (first : Store) : (r.setFirst first).StoresOnly := by
  induction h with
  | store => exact .store
  | chain _ hs ihr _ => exact .chain ihr hs

/-- A tree of stores has a first leaf. -/
theorem exists_setFirst_eq (h : r.StoresOnly) : ∃ first, r.setFirst first = r := by
  induction h with
  | @store values => exact ⟨values, rfl⟩
  | @chain r rs _ _ ihr _ =>
    obtain ⟨first, hfirst⟩ := ihr
    exact ⟨first, congrArg (fun r => Resolver.chain (r :: rs)) hfirst⟩

/-- Only the first leaf is another one. -/
theorem leaves_setFirst (h : r.StoresOnly) (first : Store) :
    (r.setFirst first).leaves = .store first :: r.leaves.tail := by
  induction h generalizing first with
  | store => rfl
  | @chain r rs hr _ ihr _ =>
    obtain ⟨old, hold⟩ := hr.exists_setFirst_eq
    have hleaves := ihr old
    rw [hold] at hleaves
    show (r.setFirst first).leaves ++ leavesEach rs =
      .store first :: (r.leaves ++ leavesEach rs).tail
    rw [ihr, hleaves]
    rfl

/-- What is assigned to a tree of stores goes to its first leaf. -/
theorem assign_setFirst (h : r.StoresOnly) (first : Store) (name value : Text) :
    (r.setFirst first).assign name value = r.setFirst (first.set name value) := by
  induction h with
  | store => rfl
  | @chain r rs hr _ ihr _ =>
    show Resolver.chain (assignFirst name value (r.setFirst first :: rs)) = _
    rw [assignFirst, (hr.setFirst first).acceptsAssignment_eq, ihr]
    rfl

/-- A tree of stores with another first leaf answers from this leaf first. -/
theorem ask_setFirst (h : r.StoresOnly) (first : Store) (name : Text) :
    (r.setFirst first).ask name =
      .ok ((first.get? name).or ((r.leaves.tail.filterMap store?).findSome? (·.get? name))) := by
  rw [(h.setFirst first).ask_eq, merged, h.leaves_setFirst, Store.get?_unionAll]
  show Except.ok ((first :: r.leaves.tail.filterMap store?).findSome? (·.get? name)) = _
  rw [List.findSome?_cons]
  cases first.get? name <;> rfl

end StoresOnly

end

end Resolver

end ParameterExpansion

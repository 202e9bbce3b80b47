import ParameterExpansion.Resolver

/-!
# Chains

A chain asks its members one after the other (`Resolver.askEach_append`) and hands what is assigned
on to the first one that takes it (`Resolver.assignFirst_append`). In a chain of stores and
functions this is the first store, which answers between the members around it
(`Resolver.ask_around`, `Resolver.assign_around`).
-/

namespace ParameterExpansion.Resolver

variable {name value : Text} {rs qs : List Resolver}

/-- Further members are asked where the ones in front have no value. -/
theorem askEach_append :
    askEach name (rs ++ qs) = match askEach name rs with
      | .ok none => askEach name qs
      | answer => answer := by
  induction rs with
  | nil => rfl
  | cons r rs ih =>
    rw [List.cons_append, askEach, askEach]
    split
    · exact ih
    · next answer hvalue =>
      cases hanswer : ask name r with
      | error fault => rfl
      | ok value =>
        cases value with
        | none => exact absurd hanswer hvalue
        | some value => rfl

/-- Resolvers have no value together when none of them has one. -/
theorem askEach_eq_none_iff : askEach name rs = .ok none ↔ ∀ r ∈ rs, ask name r = .ok none := by
  induction rs with
  | nil => simp [askEach]
  | cons r rs ih =>
    rw [askEach, List.forall_mem_cons, ← ih]
    split
    · next hnone => simp [hnone]
    · next hvalue =>
      constructor
      · intro h
        exact absurd h hvalue
      · rintro ⟨h, -⟩
        exact absurd h hvalue

/-- What is assigned passes by members that cannot be assigned to. -/
theorem assignFirst_append (h : ∀ r ∈ rs, r.acceptsAssignment = false) :
    assignFirst name value (rs ++ qs) = rs ++ assignFirst name value qs := by
  induction rs with
  | nil => rfl
  | cons r rs ih =>
    obtain ⟨hr, hrs⟩ := List.forall_mem_cons.1 h
    rw [List.cons_append, assignFirst, hr, ih hrs]
    rfl

/-! ## Chains with a first store -/

/-- A store or a function. -/
def IsLeaf : Resolver → Prop
  | .store _ | .function _ => True
  | .chain _ => False

/-- The members of a chain in front of the first one that can be assigned to. -/
def inFront (members : List Resolver) : List Resolver :=
  members.takeWhile fun r => !r.acceptsAssignment

/-- A chain in which a store stands behind some members and in front of others. -/
def around (front back : List Resolver) (values : Store) : Resolver :=
  .chain (front ++ .store values :: back)

section
variable {front back : List Resolver} {values : Store} {name : Text}

/-- The store answers between the members around it. -/
theorem ask_around :
    ask name (around front back values) = match askEach name front with
      | .ok none => match values.get? name with
        | some value => .ok (some value)
        | none => askEach name back
      | answer => answer := by
  rw [around, ask, askEach_append, askEach, ask]
  cases askEach name front with
  | error fault => rfl
  | ok answer =>
    cases answer with
    | some value => rfl
    | none => cases values.get? name <;> rfl

/-- The members in front of the store have no value, or it is the answer. -/
theorem askEach_of_ask_around {value : Option Text}
    (h : ask name (around front back values) = .ok value) :
    askEach name front = .ok none ∨ askEach name front = .ok value := by
  rw [ask_around] at h
  split at h
  · next hnone => exact .inl hnone
  · exact .inr h

/-- The store answers where the members in front of it have no value. -/
theorem ask_around_of_get? {value : Text} (hfront : askEach name front = .ok none)
    (hvalue : values.get? name = some value) :
    ask name (around front back values) = .ok (some value) := by
  rw [ask_around, hfront]
  show (match values.get? name with
    | some value => Except.ok (some value)
    | none => askEach name back) = _
  rw [hvalue]

/-- The members in front of the store answer where they have a value. -/
theorem ask_around_of_front (hfront : askEach name front ≠ .ok none) :
    ask name (around front back values) = askEach name front := by
  rw [ask_around]
  split
  · next hnone => exact absurd hnone hfront
  · rfl

/-- Of the store, only the value of the name matters. -/
theorem ask_around_congr {values' : Store} (h : values.get? name = values'.get? name) :
    ask name (around front back values) = ask name (around front back values') := by
  rw [ask_around, ask_around, h]

/-- What is assigned goes to the store. -/
theorem assign_around (hfront : ∀ r ∈ front, r.acceptsAssignment = false) (value : Text) :
    (around front back values).assign name value =
      around front back (values.set name value) := by
  show Resolver.chain (assignFirst name value (front ++ .store values :: back)) = _
  rw [assignFirst_append hfront]
  rfl

/-- A chain of leaves has a first store, if it has one at all. -/
theorem exists_around {members : List Resolver} (hmembers : ∀ r ∈ members, r.IsLeaf)
    (hstore : ∃ values, .store values ∈ members) :
    ∃ values back, .chain members = around (inFront members) back values := by
  induction members with
  | nil =>
    obtain ⟨values, hvalues⟩ := hstore
    cases hvalues
  | cons r rs ih =>
    obtain ⟨hr, hrs⟩ := List.forall_mem_cons.1 hmembers
    cases r with
    | store values => exact ⟨values, rs, rfl⟩
    | function answer =>
      obtain ⟨values, hvalues⟩ := hstore
      obtain ⟨values, back, hback⟩ := ih hrs ⟨values, (List.mem_cons.1 hvalues).resolve_left nofun⟩
      have hrs := Resolver.chain.inj hback
      exact ⟨values, back, congrArg (fun rs => Resolver.chain (.function answer :: rs)) hrs⟩
    | chain => exact hr.elim

/-- None of the members in front of the first one that can be assigned to can be. -/
theorem acceptsAssignment_of_mem_inFront {members : List Resolver} {r : Resolver}
    (h : r ∈ inFront members) : r.acceptsAssignment = false := by
  simpa using List.all_eq_true.1 List.all_takeWhile r h

end

end ParameterExpansion.Resolver

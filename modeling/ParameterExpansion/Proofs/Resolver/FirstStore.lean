import ParameterExpansion.Proofs.Resolver.Chain

/-!
# The first store of a resolver

What is assigned to a chain goes to its first member that can be assigned to, and a chain is one
whether or not there is a store in it. So it reaches the first store among the leaves of a resolver
if only functions stand in front in each chain on the way there (`Resolver.LeadsToStore`,
`Resolver.LeadsToStore.assign_eq`), and is dropped otherwise (`Resolver.assign_eq_self`).
-/

namespace ParameterExpansion.Resolver

/-- Among the leaves of a resolver, the first store is `values`; functions stand in front of it, and
any leaves behind. -/
structure HasFirstStore (r : Resolver) (front : List Resolver) (values : Store)
    (back : List Resolver) : Prop where
  /-- The leaves are those in front, the store and those behind. -/
  leaves_eq : r.leaves = front ++ .store values :: back
  /-- No store stands in front. -/
  noStore : ∀ f ∈ front, f.store? = none

/-- A resolver is a store, or a chain in which the first member that is no function leads to a store
again. -/
inductive LeadsToStore : Resolver → Prop
  /-- A store. -/
  | store : LeadsToStore (.store values)
  /-- A chain of functions, a member that leads to a store, and any others. -/
  | chain : (∀ q ∈ passed, q.acceptsAssignment = false) → LeadsToStore r →
      LeadsToStore (.chain (passed ++ r :: others))

variable {r : Resolver} {rs front back front' back' : List Resolver} {values values' : Store}
  {name value : Text}

/-! ## The first store -/

/-- There is one first store. -/
theorem HasFirstStore.unique (h : r.HasFirstStore front values back)
    (h' : r.HasFirstStore front' values' back') :
    front = front' ∧ values = values' ∧ back = back' := by
  -- If one front were longer, the store of the other one would stand in it.
  rcases List.append_eq_append_iff.1 (h.leaves_eq.symm.trans h'.leaves_eq) with
    ⟨between, rfl, heq⟩ | ⟨between, rfl, heq⟩
  · cases between with
    | nil =>
      cases heq
      exact ⟨(List.append_nil _).symm, rfl, rfl⟩
    | cons q between =>
      obtain ⟨rfl, -⟩ := List.cons.inj heq
      cases h'.noStore _ (List.mem_append_right _ List.mem_cons_self)
  · cases between with
    | nil =>
      cases heq
      exact ⟨List.append_nil _, rfl, rfl⟩
    | cons q between =>
      obtain ⟨rfl, -⟩ := List.cons.inj heq
      cases h.noStore _ (List.mem_append_right _ List.mem_cons_self)

/-- A list with a store in it has a first one. -/
theorem exists_first_store (h : .store values ∈ rs) :
    ∃ front first back, rs = front ++ .store first :: back ∧ ∀ f ∈ front, f.store? = none := by
  induction rs with
  | nil => cases h
  | cons q rs ih =>
    cases hq : q.store? with
    | some first =>
      cases q with
      | store first => exact ⟨[], first, rs, rfl, List.forall_mem_nil _⟩
      | function | chain => cases hq
    | none =>
      have hrs : .store values ∈ rs := by
        refine (List.mem_cons.1 h).resolve_left ?_
        rintro rfl
        cases hq
      obtain ⟨front, first, back, rfl, hfront⟩ := ih hrs
      exact ⟨q :: front, first, back, rfl, List.forall_mem_cons.2 ⟨hq, hfront⟩⟩

/-- The leaves of two lists of resolvers stand side by side. -/
theorem leavesEach_append : leavesEach (rs ++ front) = leavesEach rs ++ leavesEach front := by
  induction rs with
  | nil => rfl
  | cons q rs ih => rw [List.cons_append, leavesEach, leavesEach, ih, List.append_assoc]

/-- Resolvers that cannot be assigned to are leaves, and no stores. -/
theorem leavesEach_of_not_accepts (h : ∀ q ∈ rs, q.acceptsAssignment = false) :
    leavesEach rs = rs ∧ ∀ q ∈ rs, q.store? = none := by
  induction rs with
  | nil => exact ⟨rfl, List.forall_mem_nil _⟩
  | cons q rs ih =>
    obtain ⟨hq, hrs⟩ := List.forall_mem_cons.1 h
    obtain ⟨hleaves, hstore⟩ := ih hrs
    cases q with
    | store | chain => cases hq
    | function answer =>
      exact ⟨congrArg (Resolver.function answer :: ·) hleaves,
        List.forall_mem_cons.2 ⟨rfl, hstore⟩⟩

/-- The first store of a member behind functions is that of the chain. -/
theorem HasFirstStore.of_member (h : r.HasFirstStore front values back)
    (hpassed : ∀ q ∈ rs, q.acceptsAssignment = false) (others : List Resolver) :
    (chain (rs ++ r :: others)).HasFirstStore (rs ++ front) values
      (back ++ leavesEach others) := by
  obtain ⟨hleaves, hstore⟩ := leavesEach_of_not_accepts hpassed
  refine ⟨?_, fun f hf => (List.mem_append.1 hf).elim (hstore f) (h.noStore f)⟩
  show leavesEach (rs ++ r :: others) = _
  rw [leavesEach_append, hleaves, leavesEach, h.leaves_eq]
  simp

/-! ## What is assigned -/

/-- What leads to a store can be assigned to. -/
theorem LeadsToStore.acceptsAssignment_eq (h : r.LeadsToStore) : r.acceptsAssignment = true := by
  cases h <;> rfl

/-- In a list of resolvers, the first one that can be assigned to is reached. -/
theorem assignedLeafFirst?_append (hpassed : ∀ q ∈ rs, q.acceptsAssignment = false)
    (hr : r.acceptsAssignment = true) (first : Nat) :
    assignedLeafFirst? first (rs ++ r :: back) = r.assignedLeaf? (first + rs.length) := by
  induction rs generalizing first with
  | nil =>
    rw [List.nil_append, assignedLeafFirst?, if_pos hr]
    rfl
  | cons q rs ih =>
    obtain ⟨hq, hrs⟩ := List.forall_mem_cons.1 hpassed
    have hlength : q.leaves.length = 1 := by
      cases q with
      | store | chain => cases hq
      | function => rfl
    rw [List.cons_append, assignedLeafFirst?, hq, if_neg Bool.false_ne_true, ih hrs, hlength,
      List.length_cons, Nat.add_assoc, Nat.add_comm 1]

/-- What is assigned to a chain goes to its first member that can be assigned to. -/
theorem assign_chain (hpassed : ∀ q ∈ rs, q.acceptsAssignment = false)
    (hr : r.acceptsAssignment = true) :
    (chain (rs ++ r :: back)).assign name value = chain (rs ++ r.assign name value :: back) := by
  show chain (assignFirst name value (rs ++ r :: back)) = _
  rw [assignFirst_append hpassed, assignFirst, if_pos hr]

/-- Where a resolver leads to a store, what is assigned is set in its first store. -/
theorem LeadsToStore.assign_eq (h : r.LeadsToStore) : ∃ front values back,
    r.HasFirstStore front values back ∧
    (∀ name value, (r.assign name value).HasFirstStore front (values.set name value) back) ∧
    ∀ first, r.assignedLeaf? first = some (first + front.length) := by
  induction h with
  | @store values =>
    exact ⟨[], values, [], ⟨rfl, List.forall_mem_nil _⟩, fun _ _ => ⟨rfl, List.forall_mem_nil _⟩,
      fun _ => rfl⟩
  | @chain passed r others hpassed hr ih =>
    obtain ⟨front, values, back, hfirst, hassign, hleaf⟩ := ih
    refine ⟨passed ++ front, values, back ++ leavesEach others, hfirst.of_member hpassed others,
      fun name value => ?_, fun first => ?_⟩
    · rw [assign_chain hpassed hr.acceptsAssignment_eq]
      exact (hassign name value).of_member hpassed others
    · show assignedLeafFirst? first (passed ++ r :: others) = _
      rw [assignedLeafFirst?_append hpassed hr.acceptsAssignment_eq, hleaf, List.length_append,
        Nat.add_assoc]

mutual

/-- Where a resolver leads to no store, what is assigned is dropped. -/
theorem assign_eq_self : ∀ {r : Resolver}, ¬ r.LeadsToStore →
    r.assign name value = r ∧ ∀ first, r.assignedLeaf? first = none
  | .store _, h => absurd .store h
  | .function _, _ => ⟨rfl, fun _ => rfl⟩
  | .chain members, h => by
    have hmembers : ∀ passed r others, members = passed ++ r :: others →
        (∀ q ∈ passed, q.acceptsAssignment = false) → ¬ r.LeadsToStore := by
      rintro passed r others rfl hpassed hr
      exact h (.chain hpassed hr)
    obtain ⟨hassign, hleaf⟩ := assignFirst_eq_self hmembers
    exact ⟨congrArg Resolver.chain hassign, hleaf⟩

/-- Where the first of some resolvers that can be assigned to leads to no store, what is assigned is
dropped. -/
theorem assignFirst_eq_self : ∀ {rs : List Resolver},
    (∀ passed r others, rs = passed ++ r :: others →
      (∀ q ∈ passed, q.acceptsAssignment = false) → ¬ r.LeadsToStore) →
    assignFirst name value rs = rs ∧ ∀ first, assignedLeafFirst? first rs = none
  | [], _ => ⟨rfl, fun _ => rfl⟩
  | r :: rs, h => by
    cases haccepts : r.acceptsAssignment with
    | true =>
      obtain ⟨hassign, hleaf⟩ := assign_eq_self (h [] r rs rfl (List.forall_mem_nil _))
      rw [assignFirst, if_pos haccepts, hassign]
      refine ⟨rfl, fun first => ?_⟩
      rw [assignedLeafFirst?, if_pos haccepts]
      exact hleaf first
    | false =>
      have hrs : ∀ passed q others, rs = passed ++ q :: others →
          (∀ p ∈ passed, p.acceptsAssignment = false) → ¬ q.LeadsToStore := by
        rintro passed q others rfl hpassed
        exact h (r :: passed) q others rfl (List.forall_mem_cons.2 ⟨haccepts, hpassed⟩)
      obtain ⟨hassign, hleaf⟩ := assignFirst_eq_self hrs
      have hnot : ¬ r.acceptsAssignment = true := Bool.eq_false_iff.1 haccepts
      rw [assignFirst, if_neg hnot, hassign]
      refine ⟨rfl, fun first => ?_⟩
      rw [assignedLeafFirst?, if_neg hnot]
      exact hleaf _

end

/-- Assigning does not change whether a resolver leads to a store. -/
theorem leadsToStore_assign : (r.assign name value).LeadsToStore ↔ r.LeadsToStore := by
  constructor
  · refine fun h => Classical.byContradiction fun hr => ?_
    rw [(assign_eq_self hr).1] at h
    exact hr h
  · intro h
    induction h with
    | store => exact .store
    | chain hpassed hr ih =>
      rw [assign_chain hpassed hr.acceptsAssignment_eq]
      exact .chain hpassed ih

namespace HasFirstStore

/-- What is assigned is set in the first store, where the resolver leads to one. -/
theorem assign_of_leads (h : r.HasFirstStore front values back) (hr : r.LeadsToStore)
    (name value : Text) : (r.assign name value).HasFirstStore front (values.set name value) back ∧
      r.assignedLeaf? 0 = some front.length := by
  obtain ⟨front', values', back', hfirst, hassign, hleaf⟩ := hr.assign_eq
  obtain ⟨rfl, rfl, rfl⟩ := h.unique hfirst
  exact ⟨hassign name value, (hleaf 0).trans (by rw [Nat.zero_add])⟩

/-- The first store stays where it is, whatever is assigned. -/
theorem exists_assign (h : r.HasFirstStore front values back) (name value : Text) :
    ∃ values', (r.assign name value).HasFirstStore front values' back := by
  by_cases hr : r.LeadsToStore
  · exact ⟨_, (h.assign_of_leads hr name value).1⟩
  · rw [(assign_eq_self hr).1]
    exact ⟨values, h⟩

/-- After an assignment the first store has the value for the name, and else what it had, if the
resolver leads to it or if it had the value before; in no other case. -/
theorem assigned_iff (h : r.HasFirstStore front values back) (name value : Text) :
    (∃ values', (r.assign name value).leaves = front ++ .store values' :: back ∧
      values'.get? name = some value ∧ ∀ n, n ≠ name → values'.get? n = values.get? n) ↔
      r.LeadsToStore ∨ values.get? name = some value := by
  by_cases hr : r.LeadsToStore
  · have hassign := (h.assign_of_leads hr name value).1
    refine iff_of_true ⟨_, hassign.leaves_eq, ?_, fun n hn => ?_⟩ (.inl hr)
    · rw [Store.get?_set, if_pos rfl]
    · rw [Store.get?_set, if_neg hn]
  · rw [(assign_eq_self hr).1, or_iff_right hr]
    constructor
    · rintro ⟨values', hleaves, hvalue, -⟩
      obtain ⟨-, rfl, -⟩ := h.unique ⟨hleaves, h.noStore⟩
      exact hvalue
    · exact fun hvalue => ⟨values, h.leaves_eq, hvalue, fun _ _ => rfl⟩

/-- Where there is a store, there is something to assign to. -/
theorem acceptsAssignment_eq (h : r.HasFirstStore front values back) :
    r.acceptsAssignment = true := by
  cases r with
  | store | chain => rfl
  | function =>
    obtain ⟨hleaves, -⟩ := h
    rcases front with _ | ⟨f, front⟩
    · cases hleaves
    · obtain ⟨-, hnil⟩ := List.cons.inj hleaves
      cases front <;> cases hnil

end HasFirstStore

end ParameterExpansion.Resolver

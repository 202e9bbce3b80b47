import ParameterExpansion.Session

/-!
# Resolvers that always answer

A resolver of stores, of functions that raise nothing and of chains of such resolvers always answers
(`Resolver.Answers.exists_ask`), and goes on doing so when it is assigned to.
-/

namespace ParameterExpansion

namespace Resolver

/-- A resolver in which no function raises a fault. -/
inductive Answers : Resolver → Prop
  /-- A store. -/
  | store : Answers (.store values)
  /-- A function that has an answer for every name. -/
  | function : (∀ name, ∃ value, answer name = .ok value) → Answers (.function answer)
  /-- A chain of such resolvers. -/
  | chain : (∀ r ∈ members, Answers r) → Answers (.chain members)

/-- Resolvers of which each has an answer have one together. -/
theorem exists_askEach {rs : List Resolver} {name : Text}
    (h : ∀ r ∈ rs, ∃ value, ask name r = .ok value) : ∃ value, askEach name rs = .ok value := by
  induction rs with
  | nil => exact ⟨none, rfl⟩
  | cons r rs ih =>
    obtain ⟨value, hvalue⟩ := h r List.mem_cons_self
    rw [askEach, hvalue]
    cases value with
    | none => exact ih fun q hq => h q (List.mem_cons_of_mem _ hq)
    | some value => exact ⟨some value, rfl⟩

/-- A resolver that raises nothing has an answer for every name. -/
theorem Answers.exists_ask {r : Resolver} (h : r.Answers) (name : Text) :
    ∃ value, r.ask name = .ok value := by
  induction h with
  | store => exact ⟨_, rfl⟩
  | function h => exact h name
  | chain _ ih => exact exists_askEach ih

/-- A resolver that raises nothing still raises nothing when it is assigned to. -/
theorem Answers.assign {r : Resolver} (h : r.Answers) (name value : Text) :
    (r.assign name value).Answers := by
  induction h with
  | store => exact .store
  | function h => exact .function h
  | @chain members h ih =>
    refine .chain ?_
    induction members with
    | nil => exact h
    | cons r rs ihr =>
      rw [assignFirst]
      split
      · exact List.forall_mem_cons.2
          ⟨ih r List.mem_cons_self, fun q hq => h q (List.mem_cons_of_mem _ hq)⟩
      · exact List.forall_mem_cons.2 ⟨h r List.mem_cons_self,
          ihr (fun q hq => h q (List.mem_cons_of_mem _ hq))
            fun q hq => ih q (List.mem_cons_of_mem _ hq)⟩

end Resolver

/-- A question that is answered leaves the resolver as it is. -/
theorem Session.ask_eq_ok_iff {name : Text} {value : Option Text} {s t : Session} :
    Session.ask name s = .ok value t ↔ s.resolver.ask name = .ok value ∧
      t = { s with calls := s.calls ++ [.ask name (s.resolver.askedLeaves name 0)] } := by
  unfold Session.ask
  cases s.resolver.ask name with
  | error fault => simp
  | ok answer =>
    constructor
    · intro h
      cases h
      exact ⟨rfl, rfl⟩
    · rintro ⟨h, rfl⟩
      cases h
      rfl

end ParameterExpansion

import ParameterExpansion.Proofs.Evaluation.Outcome
import ParameterExpansion.Proofs.Evaluation.Standard
import ParameterExpansion.Proofs.Resolver.Merged
import ParameterExpansion.Render

/-!
# Expanding over a tree of stores

A tree of stores and the union of its leaves cannot be told apart while the same is assigned to both
(`Resolver.StoresOnly.areAlike`), so expanding over the one comes to the same as expanding over the
other, and writes to the first leaf only (`Template.expandOver_merged`).
-/

namespace ParameterExpansion

/-- The resolvers come from the tree `r` and from one store, in that the first leaf of the tree may
have become another one, and they have the same answers. -/
def Resolver.MergesTo (r q p : Resolver) : Prop :=
  ∃ first values, q = r.setFirst first ∧ p = .store values ∧
    ∀ name, q.ask name = .ok (values.get? name)

namespace Resolver.StoresOnly

section
variable {r : Resolver}

/-- A tree of stores answers like its union. -/
theorem mergesTo (h : r.StoresOnly) : r.MergesTo r (.store r.merged) := by
  obtain ⟨first, hfirst⟩ := h.exists_setFirst_eq
  exact ⟨first, r.merged, hfirst.symm, rfl, h.ask_eq⟩

/-- A tree of stores and one store with the same answers cannot be told apart. -/
theorem areAlike (h : r.StoresOnly) : AreAlike (fun _ => True) r.MergesTo where
  ask := by
    rintro _ _ name - ⟨first, values, rfl, rfl, hask⟩
    exact hask name
  acceptsAssignment := by
    rintro _ _ ⟨first, values, rfl, rfl, -⟩
    exact (h.setFirst first).acceptsAssignment_eq
  assign := by
    rintro _ _ name value - ⟨first, values, rfl, rfl, hask⟩
    refine ⟨first.set name value, values.set name value, h.assign_setFirst first name value, rfl,
      fun other => ?_⟩
    have hother := hask other
    rw [h.ask_setFirst] at hother
    rw [h.assign_setFirst, h.ask_setFirst, Store.get?_set, Store.get?_set]
    split
    · rfl
    · exact hother

end

end Resolver.StoresOnly

namespace Template

/-- Over a tree of stores an expansion in any mode comes to the same text or fault as over the union
of its leaves, and what it leaves answers like the store that is left there. Only the first leaf of
the tree may have changed; so behind overrides, the environment has not. -/
theorem expandOver_merged (t : Template) (mode : Mode) :
    (∀ r : Resolver, r.StoresOnly → ∃ first values,
      (t.expandOver mode r).1 = (t.expandOver mode (.store r.merged)).1 ∧
      (t.expandOver mode r).2 = r.setFirst first ∧
      (t.expandOver mode (.store r.merged)).2 = .store values ∧
      (∀ name, (t.expandOver mode r).2.ask name = .ok (values.get? name)) ∧
      (t.expandOver mode r).2.leaves = .store first :: r.leaves.tail) ∧
    ∀ overrides environment, ∃ first,
      (t.expandOver mode (.overriding overrides (some environment))).2 =
        .overriding first (some environment) := by
  have hmerged : ∀ r : Resolver, r.StoresOnly → ∃ first values,
      (t.expandOver mode r).1 = (t.expandOver mode (.store r.merged)).1 ∧
      (t.expandOver mode r).2 = r.setFirst first ∧
      (t.expandOver mode (.store r.merged)).2 = .store values ∧
      (∀ name, (t.expandOver mode r).2.ask name = .ok (values.get? name)) ∧
      (t.expandOver mode r).2.leaves = .store first :: r.leaves.tail := by
    intro r hr
    have hagrees : (t.expand mode).Agrees r.MergesTo :=
      Node.agrees_evaluate (N := fun _ => True)
        (fun _ _ => Mode.agrees_visit hr.areAlike trivial mode) t.root fun _ _ => trivial
    obtain ⟨hresult, first, values, hleft, hstore, hask⟩ :=
      hagrees (.ofResolver r) (.ofResolver (.store r.merged)) hr.mergesTo
    exact ⟨first, values, hresult, hleft, hstore, hask,
      (congrArg Resolver.leaves hleft).trans (hr.leaves_setFirst first)⟩
  refine ⟨hmerged, fun overrides environment => ?_⟩
  have hboth : (Resolver.overriding overrides (some environment)).StoresOnly :=
    .chain .store (List.forall_mem_singleton.2 .store)
  obtain ⟨first, -, -, hleft, -⟩ := hmerged _ hboth
  exact ⟨first, hleft⟩

/-- The specimen over a chain in a chain: the default of `x` goes to the first store, and `y` is
found in the second one. -/
theorem expandOver_merged_specimen :
    ∃ first, specimen.expandOver .standard
      (.chain [.chain [.store .empty], .store (.ofList [("y".toList, "e".toList)])]) =
        (.ok "dde".toList,
          .chain [.chain [.store first], .store (.ofList [("y".toList, "e".toList)])]) := by
  have hstores : Resolver.StoresOnly
      (.chain [.chain [.store .empty], .store (.ofList [("y".toList, "e".toList)])]) :=
    .chain (.chain .store nofun) (List.forall_mem_singleton.2 .store)
  obtain ⟨hmerged, -⟩ := expandOver_merged specimen .standard
  obtain ⟨first, values, hresult, hleft, -⟩ := hmerged _ hstores
  exact ⟨first, Prod.ext (hresult.trans rfl) hleft⟩

end Template

end ParameterExpansion

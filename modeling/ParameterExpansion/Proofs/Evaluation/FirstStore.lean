import ParameterExpansion.Proofs.Evaluation.Assigned
import ParameterExpansion.Proofs.Resolver.FirstStore

/-!
# Defaults that reach the first store

Whatever an evaluation assigns, the first store of the resolver stays where it is, and so does the
way to it (`Session.Keeps`). So a default that is taken is stored there in the course of any
evaluation, if the resolver leads to it, and is dropped in the course of any, if it does not
(`Resolver.assigned_to_first_store`).
-/

namespace ParameterExpansion

section
variable {s t u : Session} {o : Occurrence} {value : Option Text} {text : Text}
  {front back : List Resolver} {values : Store}

/-- The first store of the resolver stays where it is, with any values, and so does the way to
it. -/
def Session.KeepsFirstStore (s t : Session) : Prop :=
  (t.resolver.LeadsToStore ↔ s.resolver.LeadsToStore) ∧
    ∀ front values back, s.resolver.HasFirstStore front values back →
      ∃ values', t.resolver.HasFirstStore front values' back

namespace Session.KeepsFirstStore

/-- A session keeps its own first store. -/
theorem refl (s : Session) : s.KeepsFirstStore s := ⟨Iff.rfl, fun _ values _ h => ⟨values, h⟩⟩

/-- The first store stays where it is from one session to the next. -/
theorem trans (h : s.KeepsFirstStore t) (h' : t.KeepsFirstStore u) : s.KeepsFirstStore u := by
  refine ⟨h'.1.trans h.1, fun front values back hs => ?_⟩
  obtain ⟨values', ht⟩ := h.2 front values back hs
  exact h'.2 front values' back ht

end Session.KeepsFirstStore

namespace Mode

/-- A visit keeps the first store where it is. -/
theorem keepsFirstStore_visit (mode : Mode) (o : Occurrence) (s : Session) :
    s.KeepsFirstStore ((mode.visit o).left s) := by
  obtain hsame | ⟨_, text, -, -, -, hleft⟩ := resolver_of_visit mode o s
  · rw [Session.KeepsFirstStore, hsame]
    exact Session.KeepsFirstStore.refl s
  · rw [Session.KeepsFirstStore, hleft]
    exact ⟨Resolver.leadsToStore_assign, fun front values back h => h.exists_assign o.name text⟩

/-- A standard or strict visit that takes a default assigns it, if there is something to assign
to. -/
theorem resolver_of_takesDefault {mode : Mode} (hmode : mode ≠ .preserving)
    (hask : s.resolver.ask o.name = .ok value) (hdefault : o.TakesDefault value)
    (hchanged : value ≠ some text) (haccepts : s.resolver.acceptsAssignment = true)
    (h : mode.visit o s = .ok text t) : t.resolver = s.resolver.assign o.name text := by
  have hstandard : expand o s = .ok text t := by
    cases mode with
    | standard => exact h
    | strict k =>
      rw [strict_visit_eq (Session.ask_eq_ok_iff.2 ⟨hask, rfl⟩)] at h
      split at h
      · cases h
      · exact h
    | preserving => exact absurd rfl hmode
  obtain ⟨answer, u, hanswer, -, hwrite⟩ := expand_eq_ok_iff.1 hstandard
  obtain ⟨hvalue, rfl⟩ := Session.ask_eq_ok_iff.1 hanswer
  rw [hask] at hvalue
  cases hvalue
  rw [resolver_of_writeBack hwrite, if_pos ⟨hdefault.isAssigning, haccepts, hchanged⟩]

end Mode

/-- Up to any visit of an evaluation, the first store stays where it is. -/
theorem Node.keepsFirstStore_of_visits {n : Node} {mode : Mode} {v : Occurrence × Session}
    (hv : v ∈ n.visits mode.visit s) : s.KeepsFirstStore v.2 := by
  obtain ⟨before, behind, hvisits⟩ := List.append_of_mem hv
  obtain ⟨_, _, hwalk⟩ := n.exists_walk mode.visit s
  rw [hvisits] at hwalk
  exact hwalk.of_append_cons.1.rel .refl .trans fun w _ => mode.keepsFirstStore_visit w.1 w.2

/-- What is assigned to a resolver with a store among its leaves reaches the first one, and it
alone, if the resolver leads to it: the name gets the value there, and nothing else changes. If the
resolver does not lead to it, what is assigned is dropped and nothing changes at all; then the store
has the value for the name only if it had it before. In the course of a standard or strict expansion
it is the same: a default that is taken, and is not the value already, is stored in the first store
if the resolver led to it at the start, and dropped otherwise. -/
theorem Resolver.assigned_to_first_store {r : Resolver}
    (hstore : ∃ values, .store values ∈ r.leaves) :
    ∃ front values back, r.leaves = front ++ .store values :: back ∧
    (∀ f ∈ front, f.store? = none) ∧
    (∀ name value,
      ((∃ values', (r.assign name value).leaves = front ++ .store values' :: back ∧
        values'.get? name = some value ∧ ∀ n, n ≠ name → values'.get? n = values.get? n) ↔
        r.LeadsToStore ∨ values.get? name = some value) ∧
      (r.LeadsToStore → r.assignedLeaf? 0 = some front.length) ∧
      (¬ r.LeadsToStore → r.assign name value = r ∧ r.assignedLeaf? 0 = none)) ∧
    ∀ (template : Template) {mode : Mode}, mode ≠ .preserving → ∀ {s : Session}, s.resolver = r →
      ∀ {o : Occurrence} {u : Session}, (o, u) ∈ template.root.visits mode.visit s →
      ∀ {value text t}, u.resolver.ask o.name = .ok value → o.TakesDefault value →
      value ≠ some text → mode.visit o u = .ok text t →
      ∃ stored, u.resolver.leaves = front ++ .store stored :: back ∧
        ((∃ stored', t.resolver.leaves = front ++ .store stored' :: back ∧
          stored'.get? o.name = some text ∧ ∀ n, n ≠ o.name → stored'.get? n = stored.get? n) ↔
          r.LeadsToStore ∨ stored.get? o.name = some text) := by
  obtain ⟨_, hmem⟩ := hstore
  obtain ⟨front, values, back, hleaves, hfront⟩ := exists_first_store hmem
  have h : r.HasFirstStore front values back := ⟨hleaves, hfront⟩
  refine ⟨front, values, back, hleaves, hfront, fun name value => ⟨h.assigned_iff name value,
    fun hr => (h.assign_of_leads hr name value).2, fun hr => ?_⟩, ?_⟩
  · obtain ⟨hassign, hleaf⟩ := assign_eq_self hr
    exact ⟨hassign, hleaf 0⟩
  · intro template mode hmode s hs o u hvisits value text t hask hdefault hchanged hvisit
    obtain ⟨hleads, hkeeps⟩ := Node.keepsFirstStore_of_visits hvisits
    rw [hs] at hleads hkeeps
    obtain ⟨stored, hstored⟩ := hkeeps front values back h
    refine ⟨stored, hstored.leaves_eq, ?_⟩
    rw [Mode.resolver_of_takesDefault hmode hask hdefault hchanged hstored.acceptsAssignment_eq
      hvisit, hstored.assigned_iff, hleads]

/-- A store behind a chain that has none. -/
def Resolver.misleading : Resolver := .chain [.chain [.function fun _ => .ok none], .store .empty]

/-- What is assigned to a function and a store, and a default that is taken over them, is stored;
over a chain without a store in front of the store it is dropped. -/
theorem Resolver.assigned_to_first_store_specimens :
    (∃ front values back, (Resolver.specimen.assign "x".toList "d".toList).leaves =
        front ++ .store values :: back ∧ (∀ f ∈ front, f.store? = none) ∧
      values.get? "x".toList = some "d".toList) ∧
    (∃ u t front values back,
      (Occurrence.specimen, u) ∈
        Template.specimen.root.visits Mode.standard.visit (.ofResolver .specimen) ∧
      Mode.standard.visit .specimen u = .ok "d".toList t ∧
      t.resolver.leaves = front ++ .store values :: back ∧
      values.get? "x".toList = some "d".toList) ∧
    misleading.assign "x".toList "d".toList = misleading ∧ misleading.assignedLeaf? 0 = none := by
  have hleads : Resolver.specimen.LeadsToStore :=
    @LeadsToStore.chain [.function fun _ => .ok none] _ [] (List.forall_mem_singleton.2 rfl) .store
  have hdropped : ¬ misleading.LeadsToStore := by
    intro h
    obtain ⟨front, -, -, -, -, hleaf⟩ := h.assign_eq
    have hnone : none = some (0 + front.length) := hleaf 0
    cases hnone
  have hstore : ∀ {f : Resolver}, Resolver.store .empty ∈ [f, .store .empty] :=
    List.mem_cons_of_mem _ List.mem_cons_self
  obtain ⟨front, values, back, -, hfront, hassign, hexpand⟩ :=
    @assigned_to_first_store .specimen ⟨.empty, hstore⟩
  obtain ⟨_, _, _, -, -, hassign', -⟩ := @assigned_to_first_store misleading ⟨.empty, hstore⟩
  obtain ⟨hstored, -, -⟩ := hassign "x".toList "d".toList
  obtain ⟨values', hleaves, hvalue, -⟩ := hstored.2 (.inl hleads)
  obtain ⟨-, -, hsame⟩ := hassign' "x".toList "d".toList
  have hvisit : Mode.standard.visit .specimen (.ofResolver .specimen) = .ok "d".toList _ := rfl
  obtain ⟨stored, -, hdefault⟩ := @hexpand Template.specimen .standard nofun _ rfl .specimen _
    List.mem_cons_self none _ _ rfl (.inr ⟨rfl, .inl rfl⟩) nofun hvisit
  obtain ⟨stored', hleaves', hvalue', -⟩ := hdefault.2 (.inl hleads)
  exact ⟨⟨front, values', back, hleaves, hfront, hvalue⟩,
    ⟨_, _, front, stored', back, List.mem_cons_self, hvisit, hleaves', hvalue'⟩, hsame hdropped⟩

end

end ParameterExpansion

import ParameterExpansion.Proofs.Evaluation.Assigned
import ParameterExpansion.Proofs.Evaluation.Outcome

/-!
# Unset and empty variables

But for `=`, no operator tells an unset variable from an empty one (`Occurrence.result_congr`). In a
standard evaluation over a store, `:=` may assign an empty default to the one where the other has it
already, and so the stores go on having the same texts (`Store.SameTexts`), as
`Template.expand_unset_or_empty` says.
-/

namespace ParameterExpansion

/-- Stores have the same texts when an unset variable counts as empty. -/
def Store.SameTexts (a b : Store) : Prop := ∀ name, (a.get? name).getD [] = (b.get? name).getD []

/-- The resolvers are stores with the same texts. -/
def Resolver.SameTexts (r q : Resolver) : Prop :=
  ∃ a b : Store, r = .store a ∧ q = .store b ∧ a.SameTexts b

section
variable {value value' : Option Text}

/-! ## Operators -/

namespace Action
variable {action : Action}

/-- Of a missing value, an action other than that of `=` makes what it makes of the empty one. -/
theorem apply_congr (h : ∀ other, action ≠ .defaultUnset other)
    (hvalue : value.getD [] = value'.getD []) : action.apply value = action.apply value' := by
  cases action with
  | defaultUnset other => exact absurd rfl (h other)
  | _ => simp only [apply, hvalue]

/-- One operator stands in for an unset value only. -/
theorem symbol_of_of?_defaultUnset {symbol : Text} {arguments : List Text} {other : Text}
    (h : of? symbol arguments = some (.defaultUnset other)) :
    symbol = Operator.assignUnset.symbol := by
  obtain ⟨operator, rfl, haction⟩ := exists_operator_of_of? h nofun nofun
  unfold Operator.action? at haction
  split at haction <;> cases haction
  rfl

end Action

/-- Of a missing value, an operator other than `=` makes what it makes of the empty one. -/
theorem Occurrence.result_congr {o : Occurrence} (ho : o.symbol ≠ Operator.assignUnset.symbol)
    (hvalue : value.getD [] = value'.getD []) : o.result value = o.result value' := by
  unfold result operate
  cases haction : Action.of? o.symbol o.arguments with
  | none => rfl
  | some action =>
    have hother : ∀ other, action ≠ .defaultUnset other := by
      rintro other rfl
      exact ho (Action.symbol_of_of?_defaultUnset haction)
    dsimp only
    rw [Action.apply_congr hother hvalue]

example : operate Operator.assignUnset.symbol none ["d".toList] = .ok "d".toList ∧
    operate Operator.assignUnset.symbol (some []) ["d".toList] = .ok [] := ⟨rfl, rfl⟩

end

/-! ## Visits -/

namespace Mode
variable {o : Occurrence} {s : Session} {m : Store}

/-- What a standard visit comes to over a store: the result of the operator for what is stored; and
if there is one, it is what is stored then, in case the operator is an assigning one. -/
theorem exists_outcomeIn_store (hs : s.resolver = .store m) :
    ∃ m' : Store, (standard.visit o).outcomeIn s = (o.result (m.get? o.name), .store m') ∧
      ∀ name, m'.get? name = match o.result (m.get? o.name) with
        | .ok text => if isAssigning o.symbol ∧ name = o.name then some text else m.get? name
        | .error _ => m.get? name := by
  obtain ⟨t, hask, ht⟩ : ∃ t, Session.ask o.name s = .ok (m.get? o.name) t ∧
      t.resolver = .store m := ⟨_, Session.ask_eq_ok_iff.2 ⟨by rw [hs]; rfl, rfl⟩, hs⟩
  have hexpand : standard.visit o s = _ := expand_eq hask
  cases hresult : o.result (m.get? o.name) with
  | error fault =>
    rw [hresult] at hexpand
    refine ⟨m, ?_, fun _ => rfl⟩
    rw [Run.outcomeIn, hexpand]
    exact congrArg _ ht
  | ok text =>
    obtain ⟨u, hwrite⟩ := exists_writeBack o (m.get? o.name) text t
    rw [hresult, Run.ofExcept, pure_bind, Run.bind_of_ok hwrite] at hexpand
    have hleft := resolver_of_writeBack hwrite
    rw [ht] at hleft
    have hvisit : (standard.visit o).outcomeIn s = (.ok text, u.resolver) := by
      rw [Run.outcomeIn, hexpand]
      rfl
    rw [hvisit, hleft]
    by_cases hchanged : isAssigning o.symbol ∧ m.get? o.name ≠ some text
    · rw [if_pos ⟨hchanged.1, rfl, hchanged.2⟩]
      refine ⟨m.set o.name text, rfl, fun name => ?_⟩
      rw [Store.get?_set]
      simp [hchanged.1]
    · -- What is stored already is not assigned, and need not be.
      rw [if_neg fun hall => hchanged ⟨hall.1, hall.2.2⟩]
      refine ⟨m, rfl, fun name => ?_⟩
      dsimp only
      split
      · next hassign =>
        rw [hassign.2]
        exact Decidable.not_not.1 fun hvalue => hchanged ⟨hassign.1, hvalue⟩
      · rfl

/-- A standard visit does not tell stores with the same texts apart, unless the operator is `=`. -/
theorem agrees_sameTexts (ho : o.symbol ≠ Operator.assignUnset.symbol) :
    (standard.visit o).Agrees Resolver.SameTexts := by
  rintro s t ⟨a, b, hs, ht, hab⟩
  obtain ⟨a', hs', ha'⟩ := exists_outcomeIn_store (o := o) hs
  obtain ⟨b', ht', hb'⟩ := exists_outcomeIn_store (o := o) ht
  rw [← Occurrence.result_congr ho (hab o.name)] at ht' hb'
  rw [hs', ht']
  refine ⟨rfl, a', b', rfl, rfl, fun name => ?_⟩
  rw [ha', hb']
  cases o.result (a.get? o.name) with
  | error fault => exact hab name
  | ok text =>
    dsimp only
    split
    · rfl
    · exact hab name

end Mode

namespace Template

/-- Where no operator is `=`, a standard expansion comes to the same over two stores of which one
has empty texts where the other has nothing, and it leaves two such stores. -/
theorem expand_unset_or_empty (template : Template) {a b : Store}
    (h : ∀ ref ∈ template.root.references, ref.symbol ≠ Operator.assignUnset.symbol)
    (hab : a.SameTexts b) : ∃ (result : Except Fault Text) (a' b' : Store),
      template.expandOver .standard (.store a) = (result, .store a') ∧
      template.expandOver .standard (.store b) = (result, .store b') ∧ a'.SameTexts b' := by
  have hagrees : (template.expand .standard).Agrees Resolver.SameTexts :=
    Node.matches_evaluate template.root fun ref href _ => Mode.agrees_sameTexts (h ref href)
  obtain ⟨hresult, a', b', ha', hb', hsame⟩ :=
    hagrees (.ofResolver (.store a)) (.ofResolver (.store b)) ⟨a, b, rfl, rfl, hab⟩
  exact ⟨_, a', b', Prod.ext rfl ha', Prod.ext hresult.symm hb', hsame⟩

/-- In the specimen it does not matter whether `x` is unset or empty: its default is taken. -/
theorem expand_unset_or_empty_specimen : ∃ a' b' : Store,
    specimen.expandOver .standard (.store .empty) = (.ok "dd".toList, .store a') ∧
    specimen.expandOver .standard (.store (.ofList [("x".toList, [])])) =
      (.ok "dd".toList, .store b') ∧ a'.SameTexts b' := by
  have hsymbols : ∀ ref ∈ specimen.root.references,
      ref.symbol ≠ Operator.assignUnset.symbol := by decide
  have hstores : Store.empty.SameTexts (.ofList [("x".toList, [])]) := by
    intro name
    show [] = ((Store.empty.set "x".toList []).get? name).getD []
    rw [Store.get?_set]
    split <;> rfl
  obtain ⟨result, a', b', ha', hb', hsame⟩ := expand_unset_or_empty specimen hsymbols hstores
  obtain rfl : .ok "dd".toList = result := congrArg Prod.fst ha'
  exact ⟨a', b', ha', hb', hsame⟩

end Template

end ParameterExpansion

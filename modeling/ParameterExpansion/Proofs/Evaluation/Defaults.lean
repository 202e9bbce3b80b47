import ParameterExpansion.Proofs.Evaluation.Standard
import ParameterExpansion.Proofs.Evaluation.Visits
import ParameterExpansion.Proofs.Resolver.Chain

/-!
# Defaults that were taken

In a chain of stores and functions, all that is assigned in an evaluation goes to the first store.
So a default that was taken is what the next question for the variable is answered with, unless a
function in front of that store answers first (`Template.expand_default_iff`).
-/

namespace ParameterExpansion

section
variable {front back : List Resolver} {values : Store}

/-! ## What evaluations leave in the store -/

namespace Mode
variable {o : Occurrence} {s t : Session} {text : Text} {vs : List (Occurrence × Session)}
  {value : Option Text}

/-- A standard visit may set its variable in the store. -/
theorem store_of_expand (hfront : ∀ r ∈ front, r.acceptsAssignment = false)
    (hs : s.resolver = .around front back values) (h : expand o s = .ok text t) :
    ∃ value, s.resolver.ask o.name = .ok value ∧
      t.resolver = .around front back
        (if isAssigning o.symbol ∧ value ≠ some text then values.set o.name text else values) := by
  obtain ⟨value, u, hask, -, hwrite⟩ := expand_eq_ok_iff.1 h
  obtain ⟨hvalue, rfl⟩ := Session.ask_eq_ok_iff.1 hask
  refine ⟨value, hvalue, ?_⟩
  rw [resolver_of_writeBack hwrite, hs, Resolver.assign_around hfront]
  have haccepts : (Resolver.around front back values).acceptsAssignment = true := rfl
  by_cases hassign : isAssigning o.symbol ∧ value ≠ some text
  · rw [if_pos hassign, if_pos ⟨hassign.1, haccepts, hassign.2⟩]
  · rw [if_neg hassign, if_neg fun hall => hassign ⟨hall.1, hall.2.2⟩]

/-- Standard visits leave the values of names that they are not about. -/
theorem store_of_walk (hfront : ∀ r ∈ front, r.acceptsAssignment = false)
    (hs : s.resolver = .around front back values) (h : Walk expand s vs none t) :
    ∃ values', t.resolver = .around front back values' ∧
      ∀ name, (∀ v ∈ vs, v.1.name ≠ name) → values'.get? name = values.get? name := by
  generalize hend : (none : Option Fault) = fault? at h
  induction h generalizing values with
  | nil => exact ⟨values, hs, fun _ _ => rfl⟩
  | fault => cases hend
  | cons hvisit _ ih =>
    obtain ⟨value, -, ht⟩ := store_of_expand hfront hs hvisit
    obtain ⟨values', hu, hget⟩ := ih ht hend
    refine ⟨values', hu, fun name hname => ?_⟩
    obtain ⟨ho, hvs⟩ := List.forall_mem_cons.1 hname
    rw [hget name hvs]
    split
    · rw [Store.get?_set, if_neg (Ne.symm ho)]
    · rfl

/-- After a standard visit with an assigning operator, its result is the answer unless a member in
front of the store has one. -/
theorem ask_of_expand (hfront : ∀ r ∈ front, r.acceptsAssignment = false)
    (hs : s.resolver = .around front back values) (hassign : isAssigning o.symbol = true)
    (h : expand o s = .ok text t) :
    (Resolver.askEach o.name front = .ok none → t.resolver.ask o.name = .ok (some text)) ∧
    (Resolver.askEach o.name front ≠ .ok none →
      t.resolver.ask o.name = Resolver.askEach o.name front) := by
  obtain ⟨value, hvalue, ht⟩ := store_of_expand hfront hs h
  rw [ht]
  refine ⟨fun hnone => ?_, fun hfound => Resolver.ask_around_of_front hfound⟩
  by_cases heq : value = some text
  · rw [if_neg fun hall => hall.2 heq, ← hs, hvalue, heq]
  · rw [if_pos ⟨hassign, heq⟩]
    exact Resolver.ask_around_of_get? hnone (by rw [Store.get?_set, if_pos rfl])

end Mode

end

/-! ## The next question -/

/-- An assigning operator takes its default for an unset variable and, when it is `:=`, for an empty
one. -/
def Occurrence.TakesDefault (o : Occurrence) (value : Option Text) : Prop :=
  (o.symbol = Operator.assignUnset.symbol ∧ value = none) ∨
    (o.symbol = Operator.assignEmpty.symbol ∧ (value = none ∨ value = some []))

/-- Only assigning operators take their defaults. -/
theorem Occurrence.TakesDefault.isAssigning {o : Occurrence} {value : Option Text}
    (h : o.TakesDefault value) : isAssigning o.symbol = true := by
  rcases h with ⟨hsymbol, -⟩ | ⟨hsymbol, -⟩ <;> rw [hsymbol] <;> decide

/-- A default is taken where there is no value, or an empty one. -/
theorem Occurrence.TakesDefault.missing {o : Occurrence} {value : Option Text}
    (h : o.TakesDefault value) : value = none ∨ value = some [] := by
  rcases h with ⟨-, hnone⟩ | ⟨-, hmissing⟩
  · exact .inl hnone
  · exact hmissing

/-- In a standard expansion over a chain of stores and functions, of which at least one is a store,
the next question for a variable that has taken a default is answered with it, if the variable was
unset; and if it was empty, exactly if the default is empty as well or no function in front of the
first store has a value for it. -/
theorem Template.expand_default_iff (template : Template) {members : List Resolver}
    (hmembers : ∀ r ∈ members, r.IsLeaf) (hstore : ∃ values, .store values ∈ members)
    {s s₁ s₂ t : Session} (hs : s.resolver = .chain members) {o o' : Occurrence}
    {before between behind : List (Occurrence × Session)}
    (hvisits : template.root.visits Mode.standard.visit s =
      before ++ (o, s₁) :: (between ++ (o', s₂) :: behind))
    (hname : o'.name = o.name) (hbetween : ∀ v ∈ between, v.1.name ≠ o.name)
    {value : Option Text} (hvalue : s₁.resolver.ask o.name = .ok value)
    (hdefault : o.TakesDefault value) {r : Text} (hr : Mode.standard.visit o s₁ = .ok r t) :
    (value = none → s₂.resolver.ask o'.name = .ok (some r)) ∧
    (s₂.resolver.ask o'.name = .ok (some r) ↔
      r = [] ∨ ∀ f ∈ Resolver.inFront members, f.ask o.name = .ok none) := by
  obtain ⟨values, back, hchain⟩ := Resolver.exists_around hmembers hstore
  have hfront : ∀ f ∈ Resolver.inFront members, f.acceptsAssignment = false :=
    fun f hf => Resolver.acceptsAssignment_of_mem_inFront hf
  rw [hchain] at hs
  rw [← Resolver.askEach_eq_none_iff, hname]
  obtain ⟨fault?, u, hwalk⟩ := template.root.exists_walk Mode.standard.visit s
  rw [hvisits] at hwalk
  obtain ⟨hbefore, hwalk⟩ := hwalk.of_append_cons
  rw [← List.cons_append] at hwalk
  obtain ⟨hwalk, -⟩ := hwalk.of_append_cons
  -- Up to the visit that takes the default, in it, and from it to the next question, what is
  -- assigned goes to the first store; of the name in question, only the visit itself assigns.
  cases hwalk with
  | cons hvisit hwalk =>
    rw [hr] at hvisit
    cases hvisit
    obtain ⟨values₁, hs₁, -⟩ := Mode.store_of_walk hfront hs hbefore
    obtain ⟨_, -, ht⟩ := Mode.store_of_expand hfront hs₁ hr
    obtain ⟨values₂, hs₂, hget⟩ := Mode.store_of_walk hfront ht hwalk
    have hask : s₂.resolver.ask o.name = t.resolver.ask o.name := by
      rw [hs₂, ht]
      exact Resolver.ask_around_congr (hget _ hbetween)
    obtain ⟨hbehind, hinFront⟩ := Mode.ask_of_expand hfront hs₁ hdefault.isAssigning hr
    rw [hs₁] at hvalue
    rw [hask]
    rcases Resolver.askEach_of_ask_around hvalue with hnone | hfound
    · rw [hbehind hnone]
      exact ⟨fun _ => rfl, iff_of_true rfl (.inr hnone)⟩
    · rcases hdefault.missing with rfl | rfl
      · rw [hbehind hfound]
        exact ⟨fun _ => rfl, iff_of_true rfl (.inr hfound)⟩
      · -- A function in front gave the empty value, and goes on giving it.
        rw [hinFront (by rw [hfound]; nofun), hfound]
        simp [@eq_comm _ [] r]

/-- The first occurrence in the specimen. -/
def Occurrence.specimen : Occurrence :=
  ⟨"x".toList, ":=".toList, ["d".toList], "$\x7bx:=d\x7d".toList⟩

/-- In the specimen the default of `x` is seen by the reference behind it. It is not when the
function in front of the store answers with empty texts. -/
theorem Template.expand_default_specimens :
    (∃ s₁ o' s₂ behind, specimen.root.visits Mode.standard.visit (.ofResolver .specimen) =
        (.specimen, s₁) :: (o', s₂) :: behind ∧
      Occurrence.specimen.TakesDefault none ∧ s₂.resolver.ask o'.name = .ok (some "d".toList)) ∧
    ∃ s₁ o' s₂ behind, specimen.root.visits Mode.standard.visit
        (.ofResolver (.chain [.function fun _ => .ok (some []), .store .empty])) =
        (.specimen, s₁) :: (o', s₂) :: behind ∧
      Occurrence.specimen.TakesDefault (some []) ∧ s₂.resolver.ask o'.name ≠ .ok (some "d".toList) := by
  have hleaves : ∀ answer, ∀ r ∈ [Resolver.function answer, .store .empty], r.IsLeaf :=
    fun answer => List.forall_mem_cons.2 ⟨trivial, List.forall_mem_singleton.2 trivial⟩
  have hstore : ∀ answer, ∃ values, .store values ∈ [Resolver.function answer, .store .empty] :=
    fun answer => ⟨.empty, List.mem_cons_of_mem _ List.mem_cons_self⟩
  have hvisits : ∀ value, value = none ∨ value = some [] → ∃ s₁ s₂ t behind,
      specimen.root.visits Mode.standard.visit
        (.ofResolver (.chain [.function fun _ => .ok value, .store .empty])) =
        [] ++ (.specimen, s₁) :: ([] ++ (⟨"x".toList, [], [], "$x".toList⟩, s₂) :: behind) ∧
      s₁.resolver.ask "x".toList = .ok value ∧
      Mode.standard.visit .specimen s₁ = .ok "d".toList t := by
    rintro _ (rfl | rfl) <;> exact ⟨_, _, _, _, rfl, rfl, rfl⟩
  constructor
  · obtain ⟨s₁, s₂, t, behind, hvisits, hvalue, hr⟩ := hvisits none (.inl rfl)
    have hdefault : Occurrence.specimen.TakesDefault none := .inr ⟨rfl, .inl rfl⟩
    obtain ⟨hseen, -⟩ := expand_default_iff specimen (hleaves _) (hstore _) rfl hvisits rfl nofun
      hvalue hdefault hr
    exact ⟨_, _, _, _, hvisits, hdefault, hseen rfl⟩
  · obtain ⟨s₁, s₂, t, behind, hvisits, hvalue, hr⟩ := hvisits (some []) (.inr rfl)
    have hdefault : Occurrence.specimen.TakesDefault (some []) := .inr ⟨rfl, .inr rfl⟩
    obtain ⟨-, hseen⟩ := expand_default_iff specimen (hleaves _) (hstore _) rfl hvisits rfl nofun
      hvalue hdefault hr
    refine ⟨_, _, _, _, hvisits, hdefault, fun h => ?_⟩
    obtain hempty | hnone := hseen.1 h
    · cases hempty
    · cases hnone _ List.mem_cons_self

end ParameterExpansion

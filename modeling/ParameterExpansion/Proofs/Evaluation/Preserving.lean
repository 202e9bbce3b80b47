import ParameterExpansion.Proofs.Evaluation.Unassigned

/-!
# Preserving evaluation

A preserving evaluation asks the resolver and does nothing else to the session, however it ends
(`Session.OnlyAsked`). It gives what a standard evaluation does where no operator assigns anything
and every variable that is used without a defaulting operator has a value
(`Mode.preserving_matches`). Both are stated in `Template.expand_preserving`.
-/

namespace ParameterExpansion

/-- From one session to another one, the resolver was asked and nothing else was done. -/
def Session.OnlyAsked (s t : Session) : Prop :=
  ∃ asked : List Call, (∀ call ∈ asked, ∃ name leaves, call = .ask name leaves) ∧
    t = { s with calls := s.calls ++ asked }

namespace Session.OnlyAsked
variable {s t u : Session}

/-- Nothing need be asked. -/
theorem refl (s : Session) : s.OnlyAsked s := ⟨[], nofun, by rw [List.append_nil]⟩

/-- Some questions, and others after them. -/
theorem trans (hst : s.OnlyAsked t) (htu : t.OnlyAsked u) : s.OnlyAsked u := by
  obtain ⟨before, hbefore, rfl⟩ := hst
  obtain ⟨behind, hbehind, rfl⟩ := htu
  exact ⟨before ++ behind, List.forall_mem_append.2 ⟨hbefore, hbehind⟩,
    by rw [List.append_assoc]⟩

/-- One question. -/
theorem ask (name : Text) (s : Session) : s.OnlyAsked ((Session.ask name).left s) := by
  refine ⟨[.ask name (s.resolver.askedLeaves name 0)], List.forall_mem_singleton.2 ⟨_, _, rfl⟩, ?_⟩
  unfold Run.left Session.ask
  cases s.resolver.ask name <;> rfl

end Session.OnlyAsked

/-- A preserving visit leaves what the question for the variable leaves. -/
theorem Mode.left_preserving_visit (o : Occurrence) (s : Session) :
    (preserving.visit o).left s = (Session.ask o.name).left s := by
  cases hask : Session.ask o.name s with
  | error fault t => rw [left_visit_of_ask_error hask, Run.left_of_error hask]
  | ok value t =>
    have hvisit := preserving_visit_eq hask
    rw [Run.left_of_ok hask]
    split at hvisit
    · exact Run.left_of_ok hvisit
    · rw [Run.left, hvisit]
      exact Run.left_ofExcept _ _

namespace Template

/-- A preserving expansion asks the resolver and does nothing else, so it leaves all stores as they
are, whether it ends well or not. It comes to what a standard one does when no operator assigns
anything and every variable has a value that is used without a defaulting operator. -/
theorem expand_preserving (template : Template) :
    (∀ s : Session, s.OnlyAsked ((template.expand .preserving).left s)) ∧
    ∀ r : Resolver, r.Answers →
      (∀ ref ∈ template.root.references, isAssigning ref.symbol = false) →
      (∀ ref ∈ template.root.references, isDefaulting ref.symbol = false →
        r.ask ref.name ≠ .ok none) →
      template.expandOver .preserving r = template.expandOver .standard r := by
  constructor
  · intro s
    refine Node.rel_left_evaluate .refl .trans fun v _ => ?_
    rw [Mode.left_preserving_visit]
    exact .ask _ _
  · intro r hr hassign hset
    have hmatches : (template.expand .preserving).Matches (fun p q => p = r ∧ q = r)
        (template.expand .standard) := by
      refine Node.matches_evaluate template.root fun ref href values => ?_
      obtain ⟨value, hvalue⟩ := hr.exists_ask ref.name
      refine Mode.preserving_matches hvalue hvalue (hassign ref href) fun hdefaulting hnone => ?_
      rw [hnone] at hvalue
      exact hset ref href hdefaulting hvalue
    obtain ⟨hresult, hleft, hleft'⟩ := hmatches (.ofResolver r) (.ofResolver r) ⟨rfl, rfl⟩
    exact Prod.ext hresult (hleft.trans hleft'.symm)

/-- The template `$\x7bx:-$y\x7d`, with a default that is a reference. -/
def defaulted : Template where
  root := .reference "x".toList ":-".toList [.reference "y".toList [] [] "$y".toList 5]
    "$\x7bx:-$y\x7d".toList 0
  source := "$\x7bx:-$y\x7d".toList

/-- With a value for `y` alone, the default is taken in both modes. -/
theorem expand_preserving_defaulted :
    defaulted.expandOver .preserving (.store (.ofList [("y".toList, "b".toList)])) =
      (.ok "b".toList, .store (.ofList [("y".toList, "b".toList)])) ∧
    defaulted.expandOver .standard (.store (.ofList [("y".toList, "b".toList)])) =
      (.ok "b".toList, .store (.ofList [("y".toList, "b".toList)])) := by
  obtain ⟨-, hsame⟩ := expand_preserving defaulted
  have hassign : ∀ ref ∈ defaulted.root.references, isAssigning ref.symbol = false := by decide
  have hset : ∀ ref ∈ defaulted.root.references, isDefaulting ref.symbol = false →
      (Resolver.store (.ofList [("y".toList, "b".toList)])).ask ref.name ≠ .ok none := by
    refine List.forall_mem_cons.2 ⟨fun hdefaulting => ?_, List.forall_mem_singleton.2 fun _ h => ?_⟩
    · cases hdefaulting
    · cases h
  rw [hsame _ .store hassign hset]
  exact ⟨rfl, rfl⟩

end Template

end ParameterExpansion

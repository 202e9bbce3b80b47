import Mathlib.Data.List.Forall2
import ParameterExpansion.Proofs.Evaluation.Visits

/-!
# The order of an evaluation

An evaluation visits the references of a tree one after the other, each after the ones in its
arguments (`Node.postorder`), whatever the visits give: all of them if it ends well, and otherwise
all up to one (`Node.visitedInOrder`). What a visit sees are the values that the arguments of its
reference have just been given (`IsVisited`).
-/

namespace ParameterExpansion

namespace Node

mutual

/-- The references of a tree, each after the ones in its arguments. -/
def postorder : Node → List Reference
  | .text _ => []
  | .reference name symbol arguments source position =>
    postorderEach arguments ++ [⟨name, symbol, arguments, source, position⟩]
  | .sequence children => postorderEach children

/-- The references of each node of a list, in order. -/
def postorderEach : List Node → List Reference
  | [] => []
  | n :: ns => postorder n ++ postorderEach ns

end

mutual

/-- The names that a tree asks for are those of its references. -/
theorem asks_eq_map_postorder : ∀ n : Node, n.asks = n.postorder.map (·.name)
  | .text _ => rfl
  | .reference name symbol arguments source position => by
    rw [asks, postorder, asksEach_eq_map_postorderEach arguments, List.map_append]
    rfl
  | .sequence children => asksEach_eq_map_postorderEach children

/-- The names that the trees of a list ask for are those of their references. -/
theorem asksEach_eq_map_postorderEach :
    ∀ ns : List Node, asksEach ns = (postorderEach ns).map (·.name)
  | [] => rfl
  | n :: ns => by
    rw [asksEach, postorderEach, asks_eq_map_postorder n, asksEach_eq_map_postorderEach ns,
      List.map_append]

end

mutual

/-- A tree has the same references in both orders. -/
theorem postorder_perm_references : ∀ n : Node, n.postorder.Perm n.references
  | .text _ => .nil
  | .reference name symbol arguments source position => by
    have ih := postorderEach_perm_referencesEach arguments
    rw [postorder, references]
    exact (ih.append_right _).trans List.perm_append_comm
  | .sequence children => postorderEach_perm_referencesEach children

/-- The trees of a list have the same references in both orders. -/
theorem postorderEach_perm_referencesEach :
    ∀ ns : List Node, (postorderEach ns).Perm (referencesEach ns)
  | [] => .nil
  | n :: ns => (postorder_perm_references n).append (postorderEach_perm_referencesEach ns)

end

end Node

/-! ## Coming to a part of a tree -/

mutual

/-- An evaluation of a tree from a state comes to a part of it in a state. -/
inductive Comes {σ : Type} (visit : Occurrence → Run σ Text) : Node → σ → Node → σ → Prop
  /-- It begins with the tree itself. -/
  | self : Comes visit n s n s
  /-- A part of the arguments of a reference. -/
  | argument : ComesEach visit arguments s m t →
      Comes visit (.reference name symbol arguments source position) s m t
  /-- A part of a sequence. -/
  | child : ComesEach visit children s m t → Comes visit (.sequence children) s m t

/-- An evaluation of a list of trees from a state comes to a part of one in a state. -/
inductive ComesEach {σ : Type} (visit : Occurrence → Run σ Text) :
    List Node → σ → Node → σ → Prop
  /-- It is a part of the first tree. -/
  | head : Comes visit n s m t → ComesEach visit (n :: ns) s m t
  /-- It is a part of a further tree, and the first one has a value. -/
  | tail : n.evaluate visit s = .ok value t → ComesEach visit ns t m u →
      ComesEach visit (n :: ns) s m u

end

section
variable {σ : Type} {visit : Occurrence → Run σ Text} {At At' : Node → σ → Prop}
  {rs qs : List Reference} {vs ws : List (Occurrence × σ)} {r : Reference} {v : Occurrence × σ}

/-! ## Visits in order -/

/-- Where an evaluation is at a reference, it visits it with the values of its arguments, in the
state in which these leave it. -/
def IsVisited (visit : Occurrence → Run σ Text) (At : Node → σ → Prop) (r : Reference)
    (v : Occurrence × σ) : Prop :=
  ∃ s values, At r.node s ∧ Node.evaluateEach visit r.arguments s = .ok values v.2 ∧
    v.1 = ⟨r.name, r.symbol, values, r.source⟩

/-- The visits are those of the references in a list, from the first one up to some reference. -/
def VisitedUpTo (visit : Occurrence → Run σ Text) (At : Node → σ → Prop) (rs : List Reference)
    (vs : List (Occurrence × σ)) : Prop :=
  ∃ done, done <+: rs ∧ List.Forall₂ (IsVisited visit At) done vs

/-- A reference is visited wherever else the evaluation is at it. -/
theorem IsVisited.mono (h : IsVisited visit At r v) (hat : ∀ n s, At n s → At' n s) :
    IsVisited visit At' r v := by
  obtain ⟨s, values, hs, hvalues, hv⟩ := h
  exact ⟨s, values, hat _ _ hs, hvalues, hv⟩

/-- The visits are the same wherever else the evaluation is at the references. -/
theorem VisitedUpTo.mono (h : VisitedUpTo visit At rs vs) (hat : ∀ n s, At n s → At' n s) :
    VisitedUpTo visit At' rs vs := by
  obtain ⟨done, hdone, hvisits⟩ := h
  exact ⟨done, hdone, hvisits.imp fun _ _ hv => hv.mono hat⟩

/-- Visits up to some reference do not depend on the references behind. -/
theorem VisitedUpTo.append_right (h : VisitedUpTo visit At rs vs) (qs : List Reference) :
    VisitedUpTo visit At (rs ++ qs) vs := by
  obtain ⟨done, hdone, hvisits⟩ := h
  exact ⟨done, hdone.trans (List.prefix_append _ _), hvisits⟩

/-- Visits to all references of a list go on with those behind. -/
theorem VisitedUpTo.append_left (h : List.Forall₂ (IsVisited visit At) rs vs)
    (h' : VisitedUpTo visit At qs ws) : VisitedUpTo visit At (rs ++ qs) (vs ++ ws) := by
  obtain ⟨done, hdone, hvisits⟩ := h'
  exact ⟨rs ++ done, (List.prefix_append_right_inj rs).2 hdone, List.rel_append h hvisits⟩

mutual

/-- An evaluation that ends well visits every reference, in order; any other does so up to some
reference. -/
theorem Node.visitedInOrder : ∀ (n : Node) (s : σ),
    (∀ {value t}, n.evaluate visit s = .ok value t →
      List.Forall₂ (IsVisited visit (Comes visit n s)) n.postorder (n.visits visit s)) ∧
    VisitedUpTo visit (Comes visit n s) n.postorder (n.visits visit s)
  | .text value, s => by
    rw [Node.postorder, Node.visits]
    exact ⟨fun _ => .nil, [], List.prefix_rfl, .nil⟩
  | .reference name symbol arguments source position, s => by
    obtain ⟨hall, hsome⟩ := Node.visitedInOrderEach arguments s
    rw [Node.postorder, Node.visits]
    cases harguments : Node.evaluateEach visit arguments s with
    | ok values u =>
      have hself : IsVisited visit
          (Comes visit (.reference name symbol arguments source position) s)
          ⟨name, symbol, arguments, source, position⟩ (⟨name, symbol, values, source⟩, u) :=
        ⟨s, values, .self, harguments, rfl⟩
      have hvisits := List.rel_append
        ((hall harguments).imp fun _ _ hv => hv.mono fun _ _ => Comes.argument)
        (List.Forall₂.cons hself .nil)
      exact ⟨fun _ => hvisits, _, List.prefix_rfl, hvisits⟩
    | error fault u =>
      rw [List.append_nil]
      refine ⟨fun h => ?_, (hsome.mono fun _ _ => Comes.argument).append_right _⟩
      rw [Node.evaluate, Run.bind_of_error harguments] at h
      cases h
  | .sequence children, s => by
    obtain ⟨hall, hsome⟩ := Node.visitedInOrderEach children s
    rw [Node.postorder, Node.visits]
    refine ⟨fun h => ?_, hsome.mono fun _ _ => Comes.child⟩
    rw [Node.evaluate] at h
    obtain ⟨values, u, hchildren, -⟩ := Run.bind_eq_ok_iff.1 h
    exact (hall hchildren).imp fun _ _ hv => hv.mono fun _ _ => Comes.child

/-- An evaluation of a list of trees that ends well visits every reference, in order; any other does
so up to some reference. -/
theorem Node.visitedInOrderEach : ∀ (ns : List Node) (s : σ),
    (∀ {values t}, Node.evaluateEach visit ns s = .ok values t →
      List.Forall₂ (IsVisited visit (ComesEach visit ns s)) (Node.postorderEach ns)
        (Node.visitsEach visit ns s)) ∧
    VisitedUpTo visit (ComesEach visit ns s) (Node.postorderEach ns) (Node.visitsEach visit ns s)
  | [], s => by
    rw [Node.postorderEach, Node.visitsEach]
    exact ⟨fun _ => .nil, [], List.prefix_rfl, .nil⟩
  | n :: ns, s => by
    obtain ⟨hall, hsome⟩ := Node.visitedInOrder n s
    rw [Node.postorderEach, Node.visitsEach]
    cases hfirst : n.evaluate visit s with
    | ok value u =>
      obtain ⟨hallEach, hsomeEach⟩ := Node.visitedInOrderEach ns u
      have hhead : List.Forall₂ (IsVisited visit (ComesEach visit (n :: ns) s)) n.postorder
          (n.visits visit s) :=
        (hall hfirst).imp fun _ _ hv => hv.mono fun _ _ => ComesEach.head
      refine ⟨fun h => ?_, .append_left hhead (hsomeEach.mono fun _ _ => ComesEach.tail hfirst)⟩
      rw [Node.evaluateEach, Run.bind_of_ok hfirst] at h
      obtain ⟨values, _, hothers, -⟩ := Run.bind_eq_ok_iff.1 h
      exact List.rel_append hhead
        ((hallEach hothers).imp fun _ _ hv => hv.mono fun _ _ => ComesEach.tail hfirst)
    | error fault u =>
      rw [List.append_nil]
      refine ⟨fun h => ?_, (hsome.mono fun _ _ => ComesEach.head).append_right _⟩
      rw [Node.evaluateEach, Run.bind_of_error hfirst] at h
      cases h

end

/-- What is read off the visits can be read off the references, if the values of arguments have no
part in it. -/
theorem map_eq_of_forall₂ {α : Type} {f : Reference → α} {g : Occurrence → α}
    (h : List.Forall₂ (IsVisited visit At) rs vs)
    (hfg : ∀ r values, f r = g ⟨r.name, r.symbol, values, r.source⟩) :
    rs.map f = vs.map fun v => g v.1 := by
  rw [← List.forall₂_eq_eq_eq, List.forall₂_map_left_iff, List.forall₂_map_right_iff]
  refine h.imp fun r v hv => ?_
  obtain ⟨s, values, -, -, hv⟩ := hv
  rw [hv, hfg r values]

/-- Each visit of those to the references in a list is one to such a reference. -/
theorem exists_isVisited_of_forall₂ (h : List.Forall₂ (IsVisited visit At) rs vs) (hv : v ∈ vs) :
    ∃ r ∈ rs, IsVisited visit At r v := by
  induction h with
  | nil => cases hv
  | cons hr _ ih =>
    rcases List.mem_cons.1 hv with rfl | hv
    · exact ⟨_, List.mem_cons_self, hr⟩
    · obtain ⟨r, hr, hvisited⟩ := ih hv
      exact ⟨r, List.mem_cons_of_mem _ hr, hvisited⟩

/-- The trees of a list have one value each. -/
theorem Node.length_of_evaluateEach : ∀ {ns : List Node} {s t : σ} {values : List Text},
    evaluateEach visit ns s = .ok values t → values.length = ns.length
  | [], _, _, _, h => by
    rw [evaluateEach] at h
    cases h
    rfl
  | n :: ns, _, _, _, h => by
    rw [evaluateEach] at h
    obtain ⟨value, _, -, h⟩ := Run.bind_eq_ok_iff.1 h
    obtain ⟨others, _, hothers, h⟩ := Run.bind_eq_ok_iff.1 h
    cases h
    exact congrArg (· + 1) (length_of_evaluateEach hothers)

/-- What is visited is a reference of the tree, under its name and with its operator, and has a
value for each argument. -/
theorem Node.exists_reference_of_visits {n : Node} {s : σ} (hv : v ∈ n.visits visit s) :
    ∃ r ∈ n.references, r.name = v.1.name ∧ r.symbol = v.1.symbol ∧
      r.arguments.length = v.1.arguments.length := by
  obtain ⟨done, hdone, hvisits⟩ := (n.visitedInOrder s).2
  obtain ⟨r, hr, _, values, -, hvalues, heq⟩ := exists_isVisited_of_forall₂ hvisits hv
  refine ⟨r, n.postorder_perm_references.mem_iff.1 (hdone.subset hr), ?_⟩
  rw [heq]
  exact ⟨rfl, rfl, (length_of_evaluateEach hvalues).symm⟩

end

end ParameterExpansion

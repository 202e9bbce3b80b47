import ParameterExpansion.Proofs.Grammar.Spans
import ParameterExpansion.Proofs.Template.Accepted

/-!
# Reading the slice of a reference

Every reference of a template, however deep it stands, is read back from its slice: by itself the
slice is a template whose tree is the reference, with positions counted from where the reference
starts (`Template.parse_source`). Neither the arguments that the reference is in, nor what is behind
it, nor the nesting around it have a part in how it is read.
-/

namespace ParameterExpansion

/-- A reference that is derived somewhere is derived by itself, from its own start on. -/
theorem Reference.StandsIn.derives {r : Reference} {p d : Nat} {t after : Text}
    (h : r.StandsIn p t after d) :
    ∃ e, e ≤ d ∧ Derives r.source (r.node.moved (-r.position)) e := by
  obtain ⟨before, behind, e, -, hposition, hr, he⟩ := h
  -- Nothing stands behind it then, so no bare name can go on there.
  have halone : Refers (p + before.length) r.source [] r.node e := hr.onto fun _ _ _ => nofun
  have hmoved : Refers 0 r.source [] (r.node.moved (-r.position)) e := by
    refine halone.moved 0 ?_
    rw [hposition]
    omega
  have hpieces : Pieces .template 0 (r.source ++ []) [] _ (max e 0) := .reference hmoved .nil
  rw [List.append_nil, Nat.max_zero] at hpieces
  exact ⟨e, he, _, hpieces, rfl⟩

namespace Template

/-- The slice of a reference is read as the reference: the tree is the same as in the template, with
every position less by that of the reference. -/
theorem parse_source {limit : NestingLimit} {s : Text} {t : Template}
    (ht : Template.parse limit s = .ok t) {r : Reference} (hr : r ∈ t.references) :
    ∃ v : Template, Template.parse limit r.source = .ok v ∧ v.root.same r.node = true ∧
      v.root = r.node.moved (-r.position) ∧
      v.references.map (·.position) = r.node.references.map (·.position - r.position) := by
  obtain ⟨-, d, hd, ps, hps, hroot⟩ := parse_eq_ok_iff.1 ht
  rw [Template.references, hroot, Node.references_ofPieces] at hr
  obtain ⟨e, he, hderives⟩ := (hps.standsIn r hr).derives
  refine ⟨⟨r.node.moved (-r.position), r.source⟩,
    parse_eq_ok_iff.2 ⟨rfl, e, Nat.le_trans he hd, hderives⟩, ?_, rfl, ?_⟩
  · exact Node.same_mapPositions _ r.node
  · show (Node.mapPositions _ r.node).references.map _ = _
    rw [Node.references_mapPositions, List.map_map]
    rfl

/-- The reference in the arguments of the specimen's outer one is read back from its slice. -/
theorem parse_source_specimen :
    ∃ t : Template, Template.parse ⟨2, by decide, by decide⟩ Node.specimen.print = .ok t ∧
      ⟨['y'], [], [], "$\x7by\x7d".toList, 10⟩ ∈ t.references ∧
      ∃ v : Template, Template.parse ⟨2, by decide, by decide⟩ "$\x7by\x7d".toList = .ok v ∧
        v.root = .reference ['y'] [] [] "$\x7by\x7d".toList 0 := by
  have hr : ⟨['y'], [], [], "$\x7by\x7d".toList, 10⟩ ∈
      (Node.specimen.placed (fun _ => false) 0).references :=
    List.mem_cons_of_mem _ List.mem_cons_self
  obtain ⟨v, hv, -, hroot, -⟩ := parse_source parse_specimen hr
  exact ⟨_, parse_specimen, hr, v, hv, hroot⟩

end Template

end ParameterExpansion

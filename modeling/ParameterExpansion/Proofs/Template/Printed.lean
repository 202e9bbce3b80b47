import ParameterExpansion.Proofs.Template.Accepted

/-!
# Reading what was printed

Printing loses nothing but the slices and offsets of references: a well-formed tree is read back
from what it is printed as, with the slices and offsets of what was printed
(`Template.parse_print`).
-/

namespace ParameterExpansion.Template

/-- A well-formed tree is read back from what it is printed as, if no symbol goes on into a longer
one and no more braced references stand in each other than the limit allows: the tree is the one
that was printed, with the slices and offsets of what was printed. -/
theorem parse_print (limit : NestingLimit) (r : Node) (hr : r.WellFormed)
    (hsymbols : ∀ reference ∈ r.references, reference.SymbolEnds)
    (hnesting : r.nesting ≤ limit.levels) :
    Template.parse limit r.print = .ok ⟨r.placed (fun _ => false) 0, r.print⟩ ∧
      (r.placed (fun _ => false) 0).shape = r.shape := by
  refine ⟨?_, r.shape_placed _ _⟩
  exact parse_eq_ok_iff.2 ⟨rfl, r.nesting, hnesting, hr.derives_print hsymbols⟩

/-- The specimen is read back. -/
theorem parse_print_specimen :
    Node.specimen.WellFormed ∧ (∀ r ∈ Node.specimen.references, r.SymbolEnds) ∧
      Node.specimen.nesting ≤ 2 ∧
      Template.parse ⟨2, by decide, by decide⟩ "$$\x7bx/a\\/\\\x7d$\x7by\x7d/\\/\x7d".toList =
        .ok ⟨.sequence [.text ['$'], .reference ['x'] ['/']
          [.sequence [.text "a/\x7d".toList, .reference ['y'] [] [] "$\x7by\x7d".toList 10],
            .text ['/']]
          "$\x7bx/a\\/\\\x7d$\x7by\x7d/\\/\x7d".toList 1], Node.specimen.print⟩ :=
  ⟨Node.wellFormed_specimen, Node.symbolEnds_specimen, Nat.le_refl 2,
    (parse_print ⟨2, by decide, by decide⟩ _ Node.wellFormed_specimen Node.symbolEnds_specimen
      (Nat.le_refl 2)).1⟩

end ParameterExpansion.Template

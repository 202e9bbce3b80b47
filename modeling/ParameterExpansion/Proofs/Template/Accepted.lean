import ParameterExpansion.Proofs.Grammar.Printed
import ParameterExpansion.Proofs.Scanner.Agree
import ParameterExpansion.Template

/-!
# The accepted texts

A parser accepts exactly the texts that the grammar derives within its nesting limit, and gives the
tree of the derivation (`Template.parse_exact`). What it read before has no influence
(`Parser.parse_eq_ok_iff`).
-/

namespace ParameterExpansion

/-- A parser gives the tree that the grammar derives, whatever it read before. -/
theorem Parser.parse_eq_ok_iff {p : Parser} {s : Text} {r : Node} :
    (p.parse s).1 = .ok r ↔ ∃ d, d ≤ p.limit.levels ∧ Derives s r d := by
  cases hscan : Scanner.pieces p.limit .template ⟨s, 0, 0⟩ with
  | error halt =>
    have hparse : (p.parse s).1 = .error halt.error := by
      simp only [Parser.parse, Parser.reset, Parser.scanner, List.drop_zero, hscan]
    rw [hparse]
    constructor
    · intro h
      cases h
    · rintro ⟨d, hd, ps, hps, -⟩
      have := Scanner.pieces_complete p.limit hps 0 Context.regular_template
        (Context.endsAt_nil _) (by omega)
      rw [List.append_nil, hscan] at this
      cases this
  | ok read =>
    have hparse : (p.parse s).1 = .ok (.ofPieces read.1) := by
      simp only [Parser.parse, Parser.reset, Parser.scanner, List.drop_zero, hscan]
    rw [hparse]
    constructor
    · intro h
      cases h
      obtain ⟨u, after, d, rfl, -, hu, hd, hends⟩ :=
        Scanner.pieces_sound s 0 0 .template read.1 read.2 hscan Context.regular_template
          (Nat.zero_le _)
      obtain rfl : after = [] := by
        cases after with
        | nil => rfl
        | cons c rest => exact (hends c rfl).elim
      rw [List.append_nil]
      exact ⟨d, by omega, read.1, hu, rfl⟩
    · rintro ⟨d, hd, ps, hps, rfl⟩
      have := Scanner.pieces_complete p.limit hps 0 Context.regular_template
        (Context.endsAt_nil _) (by omega)
      rw [List.append_nil, hscan] at this
      cases this
      rfl

namespace Template

/-- A text is read as the template that the grammar derives. -/
theorem parse_eq_ok_iff {limit : NestingLimit} {s : Text} {t : Template} :
    Template.parse limit s = .ok t ↔
      t.source = s ∧ ∃ d, d ≤ limit.levels ∧ Derives s t.root d := by
  have hmap : Template.parse limit s = .ok t ↔
      t.source = s ∧ ((Parser.ofLimit limit).parse s).1 = .ok t.root := by
    obtain ⟨root, source⟩ := t
    unfold Template.parse
    cases ((Parser.ofLimit limit).parse s).1 <;> simp [Except.map, and_comm, eq_comm]
  rw [hmap, Parser.parse_eq_ok_iff]
  rfl

/-- A text is accepted exactly when the grammar derives it within the nesting limit, and then the
tree is the one that it derives. All other texts are refused, and no text has two derivations. -/
theorem parse_exact (limit : NestingLimit) (s : Text) :
    (∀ t : Template, Template.parse limit s = .ok t ↔
      t.source = s ∧ ∃ d, d ≤ limit.levels ∧ Derives s t.root d) ∧
    ((∃ e, Template.parse limit s = .error e) ↔ ¬ ∃ r d, d ≤ limit.levels ∧ Derives s r d) ∧
    (∀ r d r' d', Derives s r d → Derives s r' d' → r = r' ∧ d = d') := by
  refine ⟨fun t => parse_eq_ok_iff, ?_, fun r d r' d' h h' => h.unique h'⟩
  constructor
  · rintro ⟨e, he⟩ ⟨r, d, hd, h⟩
    have := (parse_eq_ok_iff (t := ⟨r, s⟩)).2 ⟨rfl, d, hd, h⟩
    rw [he] at this
    cases this
  · intro h
    cases hp : Template.parse limit s with
    | error e => exact ⟨e, rfl⟩
    | ok t =>
      obtain ⟨-, d, hd, hderives⟩ := parse_eq_ok_iff.1 hp
      exact absurd ⟨t.root, d, hd, hderives⟩ h

/-- The specimen is read with two levels. -/
theorem parse_specimen : Template.parse ⟨2, by decide, by decide⟩ Node.specimen.print =
    .ok ⟨Node.specimen.placed (fun _ => false) 0, Node.specimen.print⟩ :=
  parse_eq_ok_iff.2 ⟨rfl, 2, Nat.le_refl 2, Node.derives_specimen⟩

/-- The specimen is read with two levels and refused with one, and has no other tree. -/
theorem parse_exact_specimen :
    Template.parse ⟨2, by decide, by decide⟩ Node.specimen.print =
      .ok ⟨Node.specimen.placed (fun _ => false) 0, Node.specimen.print⟩ ∧
    (∃ e, Template.parse ⟨1, by decide, by decide⟩ Node.specimen.print = .error e) ∧
    ∀ r d, Derives Node.specimen.print r d →
      r = Node.specimen.placed (fun _ => false) 0 ∧ d = 2 := by
  have hderives := Node.derives_specimen
  obtain ⟨haccepted, -, hunique⟩ := parse_exact ⟨2, by decide, by decide⟩ Node.specimen.print
  obtain ⟨-, hrefused, -⟩ := parse_exact ⟨1, by decide, by decide⟩ Node.specimen.print
  refine ⟨(haccepted ⟨_, _⟩).2 ⟨rfl, 2, Nat.le_refl 2, hderives⟩, hrefused.2 ?_,
    fun r d h => hunique _ _ _ _ h hderives⟩
  rintro ⟨r, d, hd, h⟩
  obtain ⟨-, rfl⟩ := hunique _ _ _ _ h hderives
  exact absurd hd (by decide)

end Template

end ParameterExpansion

import ParameterExpansion.Proofs.Grammar.Canonical
import ParameterExpansion.Proofs.Template.Accepted

/-!
# The nodes of a template

What is true of every node of the tree of a template, wherever it stands (`Node.Holds`): its texts
are not split and hold no reference, and an empty one is a whole argument or the whole template; its
references have names, and their symbols are as long as they can be (`Template.parse_canonical`).
-/

namespace ParameterExpansion

/-- What a node is in a tree. -/
inductive Node.Role where
  /-- It is the tree. -/
  | root
  /-- It is an argument of a reference. -/
  | argument
  /-- It is a node of a sequence. -/
  | child
  deriving DecidableEq

/-- `r.Holds role n` says that the tree `r` holds the node `n` in such a role. -/
inductive Node.Holds (r : Node) : Role → Node → Prop
  /-- The tree itself. -/
  | root : r.Holds .root r
  /-- An argument of a reference in the tree. -/
  | argument : r.Holds role (.reference name symbol arguments source position) →
      n ∈ arguments → r.Holds .argument n
  /-- A node of a sequence in the tree. -/
  | child : r.Holds role (.sequence children) → n ∈ children → r.Holds .child n

section
variable {r n : Node} {role : Node.Role}

/-- The nodes of a well-formed tree are well-formed, and those of its sequences are parts. -/
theorem Node.Holds.wellFormed (h : r.Holds role n) (hr : r.WellFormed) :
    n.WellFormed ∧ (role = .child → n.IsPart) := by
  induction h with
  | root => exact ⟨hr, nofun⟩
  | argument _ hn ih =>
    cases ih.1 with
    | reference _ _ harguments => exact ⟨harguments _ hn, nofun⟩
  | child _ hn ih =>
    cases ih.1 with
    | sequence _ hparts _ hchildren => exact ⟨hchildren _ hn, fun _ => hparts _ hn⟩

/-- The references of a node in a tree are references of the tree. -/
theorem Node.Holds.mem_references (h : r.Holds role n) {q : Reference} (hq : q ∈ n.references) :
    q ∈ r.references := by
  induction h with
  | root => exact hq
  | argument _ hn ih =>
    exact ih (List.mem_cons_of_mem _ (Node.mem_referencesEach_iff.2 ⟨_, hn, hq⟩))
  | child _ hn ih => exact ih (Node.mem_referencesEach_iff.2 ⟨_, hn, hq⟩)

end

namespace Template

/-- Each node in the tree of a template that was read is canonical. A sequence has two nodes or
more, each of them a reference or a text with a character, and no two texts side by side; so an
empty text is the whole tree or a whole argument. In a text no reference starts, and by itself it is
a template that is this text. A reference has a name, and its symbol is not continued to a longer
one by the first character that its arguments are written with; so `/` has no replacement for an
empty pattern. -/
theorem parse_canonical {limit : NestingLimit} {s : Text} {t : Template}
    (ht : Template.parse limit s = .ok t) {role : Node.Role} {n : Node} (hn : t.root.Holds role n) :
    (∀ children, n = .sequence children → 2 ≤ children.length ∧ (∀ m ∈ children, m.IsPart) ∧
      children.IsChain fun m k => ¬ (m.IsText ∧ k.IsText)) ∧
    (n = .text [] → role = .root ∨ role = .argument) ∧
    (∀ value, n = .text value → IsLiteral value ∧
      ∀ limit', Template.parse limit' value = .ok ⟨.text value, value⟩) ∧
    ∀ q : Reference, n = q.node → IsName q.name ∧ q.SymbolEnds ∧
      (q.symbol = Operator.replaceFirst.symbol →
        ∀ replacement, q.arguments ≠ [.text [], replacement]) := by
  obtain ⟨-, d, -, hderives⟩ := parse_eq_ok_iff.1 ht
  obtain ⟨hwell, hpart⟩ := hn.wellFormed hderives.wellFormed
  refine ⟨?_, ?_, ?_, ?_⟩
  · rintro children rfl
    cases hwell with
    | sequence hlength hparts hchain _ => exact ⟨hlength, hparts, hchain⟩
  · rintro rfl
    cases role with
    | root => exact .inl rfl
    | argument => exact .inr rfl
    | child => exact absurd rfl (hpart rfl)
  · rintro value rfl
    cases hwell with
    | text hliteral =>
      exact ⟨hliteral, fun limit' => parse_eq_ok_iff.2 ⟨rfl, 0, Nat.zero_le _, hliteral.derives⟩⟩
  · rintro q rfl
    have hends := hderives.symbolEnds q (hn.mem_references List.mem_cons_self)
    refine ⟨?_, hends, fun hsymbol replacement harguments => ?_⟩
    · generalize hnode : q.node = node at hwell
      cases hwell with
      | text | sequence => cases hnode
      | reference hname =>
        obtain ⟨rfl, -⟩ := Node.reference.inj hnode
        exact hname
    · -- Behind an empty pattern stands the separator, which makes the symbol of `//`.
      refine hends '/' .replaceAll ?_ (by rw [hsymbol]; rfl)
      rw [harguments, hsymbol]
      rfl

/-- In the specimen, the reference in the template has a pattern that is a sequence, with a text
that was written with escapes. -/
theorem parse_canonical_specimen :
    ∃ (q : Reference) (pattern : List Node) (value : Text),
      (Node.specimen.placed (fun _ => false) 0).Holds .child q.node ∧
      q.arguments = [.sequence pattern, .text ['/']] ∧ .text value ∈ pattern ∧
      IsName q.name ∧ q.SymbolEnds ∧ 2 ≤ pattern.length ∧ (∀ m ∈ pattern, m.IsPart) ∧
      IsLiteral value := by
  have hreference : (Node.specimen.placed (fun _ => false) 0).Holds .child
      (.reference ['x'] ['/'] [.sequence _, .text ['/']] _ _) :=
    .child .root (List.mem_cons_of_mem _ List.mem_cons_self)
  have hpattern := hreference.argument List.mem_cons_self
  have htext : (Node.specimen.placed (fun _ => false) 0).Holds .child (.text "a/\x7d".toList) :=
    hpattern.child List.mem_cons_self
  obtain ⟨-, -, -, hq⟩ := parse_canonical parse_specimen hreference
  obtain ⟨hname, hends, -⟩ := hq ⟨_, _, _, _, _⟩ rfl
  obtain ⟨hsequence, -⟩ := parse_canonical parse_specimen hpattern
  obtain ⟨hlength, hparts, -⟩ := hsequence _ rfl
  obtain ⟨-, -, hvalue, -⟩ := parse_canonical parse_specimen htext
  exact ⟨⟨_, _, _, _, _⟩, _, _, hreference, rfl, List.mem_cons_self, hname, hends, hlength, hparts,
    (hvalue _ rfl).1⟩

end Template

end ParameterExpansion

import ParameterExpansion.Proofs.Grammar.Parts

/-!
# Texts in place of references

In a template, some references are kept as they are written and others give way to texts. If the
ones that are kept are in braces, and the texts have no dollar sign and stand behind none, then what
is written in the end is a template again (`Pieces.replaced`): its pieces are the references that
were kept, which have moved, and characters (`Becomes`).
-/

namespace ParameterExpansion

/-- What a piece becomes when texts are written for references. -/
def Piece.written (out : Node → Text) : Piece → Text
  | .char c => [c]
  | .reference n => out n

/-- The pieces `qs` are the pieces `ps` with some references kept, but for positions, and characters
in place of the others. -/
inductive Becomes (kept : Node → Prop) (out : Node → Text) : List Piece → List Piece → Prop
  /-- No pieces are left. -/
  | nil : Becomes kept out [] []
  /-- A character stays. -/
  | char : Becomes kept out ps qs → Becomes kept out (.char c :: ps) (.char c :: qs)
  /-- A reference is kept, and may have moved. -/
  | kept : kept n → Becomes kept out ps qs →
      Becomes kept out (.reference n :: ps) (.reference (n.moved distance) :: qs)
  /-- A reference gives way to the characters of a text. -/
  | replaced : ¬ kept n → Becomes kept out ps qs →
      Becomes kept out (.reference n :: ps) ((out n).map .char ++ qs)

section
variable {kept : Node → Prop} {out : Node → Text} {piece : Piece} {ps qs : List Piece} {n : Node}

/-- Texts may be written for the references among some pieces. -/
structure Replaceable (kept : Node → Prop) (out : Node → Text) (ps : List Piece) : Prop where
  /-- The references that are kept are in braces, and are written as they are. -/
  braced : ∀ n, .reference n ∈ ps → kept n →
    ∃ r : Reference, n = r.node ∧ r.IsBraced ∧ out n = r.source
  /-- The other texts have no dollar sign. -/
  dollar_not_mem : ∀ n, .reference n ∈ ps → ¬ kept n → '$' ∉ out n
  /-- The other texts stand behind no dollar sign. -/
  not_behind_dollar : ∀ n, ¬ kept n → ¬ [.char '$', .reference n] <:+: ps

/-- Texts may be written for the references among fewer pieces. -/
theorem Replaceable.of_cons (h : Replaceable kept out (piece :: ps)) : Replaceable kept out ps where
  braced n hn := h.braced n (List.mem_cons_of_mem _ hn)
  dollar_not_mem n hn := h.dollar_not_mem n (List.mem_cons_of_mem _ hn)
  not_behind_dollar n hkept hpair :=
    h.not_behind_dollar n hkept (hpair.trans (List.suffix_cons _ _).isInfix)

/-- In a template a character means itself where no reference starts. -/
theorem Context.literal_template {c : Char} {after : Text} (h : ¬ OpensReference (c :: after)) :
    Context.template.Literal c after where
  not_ends := id
  not_opens := h
  not_escape _ _ _ := id

/-- A text without dollar signs is made of characters that mean themselves. -/
theorem Pieces.chars_append {u t after : Text} {p d : Nat} (hu : '$' ∉ u)
    (h : Pieces .template (p + u.length) t after qs d) :
    Pieces .template p (u ++ t) after (u.map .char ++ qs) d := by
  induction u generalizing p with
  | nil => exact h
  | cons c u ih =>
    obtain ⟨hc, hu⟩ := not_or.1 (List.mem_cons.not.1 hu)
    rw [List.length_cons, Nat.add_comm u.length, ← Nat.add_assoc] at h
    refine .char (Context.literal_template fun hopens => ?_) (ih hu h)
    exact hc (opensReference_cons_iff.1 hopens).1.symm

/-- What is written starts as the text does, if it does not start with a text in place of a
reference. -/
theorem Pieces.head?_written {p d : Nat} {t : Text} (h : Pieces .template p t [] ps d)
    (hps : Replaceable kept out ps) (hfirst : ∀ n, ps.head? = some (.reference n) → kept n) :
    (ps.flatMap (Piece.written out)).head? = t.head? := by
  cases h with
  | nil => rfl
  | char => rfl
  | escape he => exact he.elim
  | @reference _ u _ _ n _ _ _ _ hu =>
    obtain ⟨r, rfl, -, hout⟩ := hps.braced n List.mem_cons_self (hfirst n rfl)
    obtain ⟨_, _, _, heq⟩ := hu.exists_eq
    have hsource : r.source = u := (Node.reference.inj heq).2.2.2.1
    have hpos := hu.length_pos
    rw [List.flatMap_cons, Piece.written, hout, hsource]
    cases u with
    | nil => cases hpos
    | cons => rfl

/-- What is written for a template in which some references are kept, and others give way to texts
without dollar signs, is a template that is nested no more deeply. -/
theorem Pieces.replaced {p d : Nat} {t : Text} (h : Pieces .template p t [] ps d)
    (hps : Replaceable kept out ps) (q : Nat) :
    ∃ qs e, Pieces .template q (ps.flatMap (Piece.written out)) [] qs e ∧ e ≤ d ∧
      Becomes kept out ps qs := by
  induction ps generalizing p t d q with
  | nil => exact ⟨[], 0, .nil, Nat.zero_le _, .nil⟩
  | cons piece ps ih =>
    cases h with
    | @char _ _ c t _ _ _ hl hp =>
      obtain ⟨qs, e, hqs, he, hbecomes⟩ := ih hp hps.of_cons (q + 1)
      refine ⟨_, e, .char (Context.literal_template fun hopens => ?_) hqs, he, .char hbecomes⟩
      -- A dollar sign that means itself has the same character behind it as before.
      obtain rfl := (opensReference_cons_iff.1 hopens).1
      have hhead := hp.head?_written hps.of_cons fun n hn => by
        by_contra hkept
        obtain ⟨rest, rfl⟩ := List.head?_eq_some_iff.1 hn
        exact hps.not_behind_dollar n hkept ⟨[], rest, rfl⟩
      rw [List.append_nil] at hl hopens
      exact (hl.congr_head? hhead).not_opens hopens
    | escape he => exact he.elim
    | @reference _ u t _ n _ _ _ f hu hp =>
      by_cases hkept : kept n
      · obtain ⟨qs, e, hqs, he, hbecomes⟩ := ih hp hps.of_cons (q + u.length)
        obtain ⟨r, rfl, hbraced, hout⟩ := hps.braced n List.mem_cons_self hkept
        obtain ⟨_, _, _, heq⟩ := hu.exists_eq
        have hsource : r.source = u := (Node.reference.inj heq).2.2.2.1
        rw [List.flatMap_cons, Piece.written, hout, hsource]
        refine ⟨_, _, .reference ((hu.onto fun r' hr' hnot => ?_).moved q
          (show (q : Int) = p + (q - p) by omega)) hqs, 
          Nat.max_le.2 ⟨Nat.le_max_left _ _, Nat.le_trans he (Nat.le_max_right _ _)⟩,
          .kept hkept hbecomes⟩
        obtain ⟨-, -, -, hsource', -⟩ := Node.reference.inj hr'
        rw [Reference.IsBraced, hsource'] at hbraced
        exact absurd hbraced hnot
      · obtain ⟨qs, e, hqs, he, hbecomes⟩ := ih hp hps.of_cons (q + (out n).length)
        rw [List.flatMap_cons, Piece.written]
        exact ⟨_, e, hqs.chars_append (hps.dollar_not_mem n List.mem_cons_self hkept),
          Nat.le_trans he (Nat.le_max_right _ _), .replaced hkept hbecomes⟩

/-! ## Pieces and parts -/

namespace Piece
variable {c : Char} {r : Reference}

/-- A character becomes the start of a text, or a text of its own. -/
theorem fuse_char (c : Char) (ps : List Piece) :
    (∃ value nodes, fuse ps = .text value :: nodes ∧
      fuse (.char c :: ps) = .text (c :: value) :: nodes) ∨
    fuse (.char c :: ps) = .text [c] :: fuse ps := by
  rw [fuse]
  split
  · next value nodes heq => exact .inl ⟨value, nodes, heq, rfl⟩
  · exact .inr rfl

/-- A reference among pieces is one of the nodes that they become. -/
theorem node_mem_fuse (h : .reference r.node ∈ ps) : r.node ∈ fuse ps := by
  induction ps with
  | nil => cases h
  | cons piece ps ih =>
    cases piece with
    | reference m =>
      rw [fuse]
      rcases List.mem_cons.1 h with heq | h
      · cases heq
        exact List.mem_cons_self
      · exact List.mem_cons_of_mem _ (ih h)
    | char c =>
      rcases List.mem_cons.1 h with heq | h
      · cases heq
      rcases fuse_char c ps with ⟨value, nodes, heq, hfuse⟩ | hfuse <;> rw [hfuse]
      · have hmem := ih h
        rw [heq] at hmem
        rcases List.mem_cons.1 hmem with htext | hmem
        · cases htext
        · exact List.mem_cons_of_mem _ hmem
      · exact List.mem_cons_of_mem _ (ih h)

/-- A character in front of a reference becomes the end of a text in front of it. -/
theorem exists_text_infix_fuse (h : [.char c, .reference r.node] <:+: ps) :
    ∃ value, [.text value, r.node] <:+: fuse ps ∧ value.getLast? = some c := by
  obtain ⟨before, behind, rfl⟩ := h
  rw [List.append_assoc]
  induction before with
  | nil => exact ⟨[c], (List.prefix_append [.text [c], r.node] (fuse behind)).isInfix, rfl⟩
  | cons piece before ih =>
    obtain ⟨value, hpair, hlast⟩ := ih
    rw [List.cons_append]
    cases piece with
    | reference m =>
      rw [fuse]
      exact ⟨value, hpair.trans (List.suffix_cons _ _).isInfix, hlast⟩
    | char d =>
      rcases fuse_char d (before ++ ([.char c, .reference r.node] ++ behind)) with
        ⟨first, nodes, heq, hfuse⟩ | hfuse <;> rw [hfuse]
      · rw [heq, List.infix_cons_iff] at hpair
        rcases hpair with hstart | hpair
        · -- The text is the first node, and the character is put in front of it.
          obtain ⟨htext, hnodes⟩ := List.cons_prefix_cons.1 hstart
          cases htext
          refine ⟨d :: value, ?_, getLast?_cons_of_eq_some hlast⟩
          exact (List.cons_prefix_cons.2 ⟨rfl, hnodes⟩).isInfix
        · exact ⟨value, hpair.trans (List.suffix_cons _ _).isInfix, hlast⟩
      · exact ⟨value, hpair.trans (List.suffix_cons _ _).isInfix, hlast⟩

end Piece

end

end ParameterExpansion

import ParameterExpansion.Proofs.Grammar.Printed
import ParameterExpansion.Proofs.Grammar.Replaced

/-!
# Derived trees are canonical

The tree of a derivation is a well-formed one (`Derives.wellFormed`): texts are as long as they can
be, and no reference starts in them, as what an escape yields neither starts a reference nor goes on
with one (`Pieces.isChain_startNothing`). The symbol of each of its references ends where it is
written to end (`Derives.symbolEnds`), because the arguments of a reference are written with the
character in front that they were read with (`Arguments.head?_written`).
-/

namespace ParameterExpansion

section
variable {context : Context} {op : Operator} {p d : Nat} {c : Char} {t after value : Text}
  {ps : List Piece} {n : Node} {ns : List Node}

/-! ## Texts in which no reference starts -/

/-- No reference starts with the one piece and goes on with the other. -/
def Piece.StartNothing : Piece → Piece → Prop
  | .char c, .char e => ¬ OpensReference [c, e]
  | _, _ => True

/-- What a backslash makes literal in a context neither starts a reference nor goes on with one. -/
def Context.IsTame (context : Context) : Prop :=
  ∀ c, context.Escapable c → c ≠ '$' ∧ c ≠ '{' ∧ isNameStart c = false

/-- A backslash makes nothing literal in a template. -/
theorem Context.isTame_template : Context.template.IsTame := fun _ h => h.elim

/-- Neither the backslash nor the closing brace nor a separator belongs to the start of a
reference. -/
theorem Operator.isTame_argument (op : Operator) (more : Bool) :
    (Context.argument op.separator more).IsTame := by
  intro c hc
  refine ⟨fun h => op.not_escapable_dollar more (h ▸ hc), ?_⟩
  rcases hc with rfl | rfl | hc
  · decide
  · decide
  · exact Node.separator_literal hc

/-- Whether a reference starts at a character shows in the two characters there. -/
theorem opensReference_cons_cons_iff {e : Char} :
    OpensReference (c :: e :: t) ↔ OpensReference [c, e] := by
  rw [opensReference_cons_iff, opensReference_cons_iff]
  rfl

/-- A character that starts no reference before a text starts none with the first piece of the
text. -/
theorem Pieces.startNothing_head? (h : Pieces context p t after ps d) (htame : context.IsTame)
    (hc : ¬ OpensReference (c :: (t ++ after))) :
    ∀ next ∈ ps.head?, Piece.StartNothing (.char c) next := by
  cases h with
  | nil => exact nofun
  | char =>
    rintro _ ⟨⟩ hopens
    exact hc (opensReference_cons_cons_iff.2 hopens)
  | escape he =>
    rintro _ ⟨⟩ hopens
    obtain ⟨-, _, ⟨⟩, hbrace | hname⟩ := opensReference_cons_iff.1 hopens
    · exact (htame _ he).2.1 hbrace
    · rw [(htame _ he).2.2] at hname
      cases hname
  | reference =>
    rintro _ ⟨⟩
    trivial

/-- No reference starts with two pieces of a text side by side. -/
theorem Pieces.isChain_startNothing (h : Pieces context p t after ps d) (htame : context.IsTame) :
    ps.IsChain Piece.StartNothing := by
  induction ps generalizing p t d with
  | nil => exact .nil
  | cons piece ps ih =>
    cases h with
    | char hl hp =>
      exact List.isChain_cons.2 ⟨hp.startNothing_head? htame hl.not_opens, ih hp⟩
    | escape he hp =>
      refine List.isChain_cons.2 ⟨hp.startNothing_head? htame fun hopens => ?_, ih hp⟩
      exact (htame _ he).1 (opensReference_cons_iff.1 hopens).1
    | reference _ hp => exact List.isChain_cons.2 ⟨fun _ _ => trivial, ih hp⟩

/-- A text in front of the nodes that pieces become starts with the first piece. -/
theorem Piece.head?_of_fuse_eq (h : AreProper ps) (hfuse : fuse ps = .text value :: ns) :
    ∃ c rest, value = c :: rest ∧ ps.head? = some (.char c) := by
  cases ps with
  | nil => cases hfuse
  | cons piece ps =>
    cases piece with
    | reference m =>
      obtain ⟨r, rfl⟩ := h m List.mem_cons_self
      cases hfuse
    | char c =>
      rcases fuse_char c ps with ⟨first, nodes, -, heq⟩ | heq
      · cases heq.symm.trans hfuse
        exact ⟨c, first, rfl, rfl⟩
      · cases heq.symm.trans hfuse
        exact ⟨c, [], rfl, rfl⟩

/-- Where no reference starts with two pieces side by side, none starts in a text that they
become. -/
theorem Piece.isLiteral_of_mem_fuse (h : AreProper ps) (hchain : ps.IsChain StartNothing) :
    ∀ value, .text value ∈ fuse ps → IsLiteral value := by
  induction ps with
  | nil => exact nofun
  | cons piece ps ih =>
    obtain ⟨hfirst, hrest⟩ := List.isChain_cons.1 hchain
    have ih := ih h.of_cons hrest
    intro value hvalue
    cases piece with
    | reference m =>
      obtain ⟨r, rfl⟩ := h m List.mem_cons_self
      rcases List.mem_cons.1 hvalue with heq | hvalue
      · cases heq
      · exact ih value hvalue
    | char c =>
      rcases fuse_char c ps with ⟨first, nodes, hfuse, heq⟩ | heq
      · rw [heq] at hvalue
        rcases List.mem_cons.1 hvalue with heq | hvalue
        · cases heq
          refine isLiteral_cons.2 ⟨?_, ih first (by rw [hfuse]; exact List.mem_cons_self)⟩
          obtain ⟨e, rest, rfl, hhead⟩ := head?_of_fuse_eq h.of_cons hfuse
          rw [← Bool.not_eq_true, startsReference_iff]
          intro hopens
          exact hfirst _ hhead (opensReference_cons_cons_iff.1 hopens)
        · exact ih value (by rw [hfuse]; exact List.mem_cons_of_mem _ hvalue)
      · rw [heq] at hvalue
        rcases List.mem_cons.1 hvalue with heq | hvalue
        · cases heq
          refine isLiteral_cons.2 ⟨?_, by decide⟩
          rw [← Bool.not_eq_true, startsReference_iff]
          rintro ⟨_, _, ⟨⟩, -⟩
        · exact ih value hvalue

/-! ## Well-formed trees -/

/-- A node in front of others, in which no texts touch, makes none touch. -/
theorem Node.isChain_adjoin (n : Node) (h : ns.IsChain fun m k => ¬ (m.IsText ∧ k.IsText)) :
    (n.adjoin ns).IsChain fun m k => ¬ (m.IsText ∧ k.IsText) := by
  rcases n with a | _ | _
  · rcases ns with _ | ⟨b | _ | _, ns⟩
    · exact .singleton _
    · exact List.isChain_cons.2 (List.isChain_cons.1 h)
    · exact .cons_cons (fun hboth => hboth.2) h
    · exact .cons_cons (fun hboth => hboth.2) h
  · exact List.isChain_cons.2 ⟨fun _ _ hboth => hboth.1, h⟩
  · exact List.isChain_cons.2 ⟨fun _ _ hboth => hboth.1, h⟩

/-- No texts touch in the nodes that pieces become. -/
theorem Piece.isChain_fuse (h : AreProper ps) :
    (fuse ps).IsChain fun n m => ¬ (n.IsText ∧ m.IsText) := by
  induction ps with
  | nil => exact .nil
  | cons piece ps ih =>
    rw [fuse_cons h]
    exact Node.isChain_adjoin _ (ih h.of_cons)

/-- A node that pieces become is a text or one of the pieces. -/
theorem Piece.mem_of_mem_fuse (hn : n ∈ fuse ps) : n.IsText ∨ .reference n ∈ ps := by
  induction ps with
  | nil => cases hn
  | cons piece ps ih =>
    have hlater : n ∈ fuse ps → n.IsText ∨ .reference n ∈ piece :: ps :=
      fun hn => (ih hn).imp_right (List.mem_cons_of_mem _)
    cases piece with
    | reference m =>
      rcases List.mem_cons.1 hn with rfl | hn
      · exact .inr List.mem_cons_self
      · exact hlater hn
    | char c =>
      rcases fuse_char c ps with ⟨first, nodes, hfuse, heq⟩ | heq <;> rw [heq] at hn
      · rcases List.mem_cons.1 hn with rfl | hn
        · exact .inl trivial
        · exact hlater (by rw [hfuse]; exact List.mem_cons_of_mem _ hn)
      · rcases List.mem_cons.1 hn with rfl | hn
        · exact .inl trivial
        · exact hlater hn

/-- Parts of which no texts touch make up a well-formed tree if they are well-formed. -/
theorem Node.wellFormed_ofPieces (hparts : ∀ n ∈ Piece.fuse ps, n.IsPart)
    (hchain : (Piece.fuse ps).IsChain fun n m => ¬ (n.IsText ∧ m.IsText))
    (hnodes : ∀ n ∈ Piece.fuse ps, n.WellFormed) : (ofPieces ps).WellFormed := by
  rw [ofPieces]
  split
  · exact .text (by decide)
  · next n heq => exact hnodes n (by rw [heq]; exact List.mem_cons_self)
  · next hnil hsingle =>
    refine .sequence ?_ hparts hchain hnodes
    rcases heq : Piece.fuse ps with _ | ⟨n, _ | ⟨m, ns⟩⟩
    · exact absurd heq hnil
    · exact absurd heq (hsingle n)
    · exact Nat.le_add_left 2 _

/-- The tree of the pieces of a text is well-formed if the references among them are. -/
theorem Pieces.wellFormed_ofPieces (h : Pieces context p t after ps d) (htame : context.IsTame)
    (hreferences : ∀ n, .reference n ∈ ps → n.WellFormed) : (Node.ofPieces ps).WellFormed := by
  refine Node.wellFormed_ofPieces (Piece.isPart_of_mem_fuse h.areProper)
    (Piece.isChain_fuse h.areProper) fun n hn => ?_
  rcases Piece.mem_of_mem_fuse hn with htext | hpiece
  · cases n with
    | text value =>
      exact .text (Piece.isLiteral_of_mem_fuse h.areProper (h.isChain_startNothing htame) value hn)
    | reference | sequence => exact htext.elim
  · exact hreferences n hpiece

/-- An operator has as many arguments as it takes. -/
theorem Arguments.length_le (h : Arguments op p t after ns d) :
    op.minArguments ≤ ns.length ∧ ns.length ≤ op.maxArguments := by
  have hmin : op.minArguments ≤ 1 ∧ (op.maxArguments = 0 → op.minArguments = 0) := by
    cases op <;> decide
  cases h with
  | none h0 => exact ⟨Nat.le_of_eq (hmin.2 h0), Nat.zero_le _⟩
  | one h1 => exact ⟨hmin.1, h1⟩
  | two h2 => exact ⟨Nat.le_trans hmin.1 (Nat.le_add_left 1 1), Nat.le_of_eq h2.symm⟩

mutual

/-- The references among the pieces of a text are well-formed. -/
theorem Pieces.wellFormed : ∀ {context p t after ps d}, Pieces context p t after ps d →
    ∀ n, .reference n ∈ ps → n.WellFormed
  | _, _, _, _, _, _, .nil, _, hn => nomatch hn
  | _, _, _, _, _, _, .char _ hp, n, hn => Pieces.wellFormed hp n (by simpa using hn)
  | _, _, _, _, _, _, .escape _ hp, n, hn => Pieces.wellFormed hp n (by simpa using hn)
  | _, _, _, _, _, _, .reference hu hp, n, hn => by
    have ihu := Refers.wellFormed hu
    have ihp := Pieces.wellFormed hp n
    rcases List.mem_cons.1 hn with heq | hn
    · cases heq
      exact ihu
    · exact ihp hn

/-- A reference is well-formed. -/
theorem Refers.wellFormed : ∀ {p t after node d}, Refers p t after node d → node.WellFormed
  | _, _, _, _, _, .bare hn _ => .reference hn (.inl ⟨rfl, rfl⟩) nofun
  | _, _, _, _, _, .plain hn => .reference hn (.inl ⟨rfl, rfl⟩) nofun
  | _, _, _, _, _, .length hn => .reference hn (.inr (.inl ⟨rfl, rfl⟩)) nofun
  | _, _, _, _, _, .operator hn _ harg =>
    .reference hn (.inr (.inr ⟨_, rfl, harg.length_le⟩)) (Arguments.wellFormed harg)

/-- The arguments of an operator are well-formed. -/
theorem Arguments.wellFormed : ∀ {op p t after nodes d}, Arguments op p t after nodes d →
    ∀ n ∈ nodes, n.WellFormed
  | _, _, _, _, _, _, .none _ => nofun
  | op, _, _, _, _, _, .one _ hp => by
    have ih := Pieces.wellFormed hp
    exact List.forall_mem_singleton.2 (hp.wellFormed_ofPieces (op.isTame_argument _) ih)
  | op, _, _, _, _, _, .two _ _ hp hq => by
    have ihp := Pieces.wellFormed hp
    have ihq := Pieces.wellFormed hq
    exact List.forall_mem_cons.2 ⟨hp.wellFormed_ofPieces (op.isTame_argument _) ihp,
      List.forall_mem_singleton.2 (hq.wellFormed_ofPieces (op.isTame_argument _) ihq)⟩

end

/-- The tree of a template is well-formed. -/
theorem Derives.wellFormed {s : Text} {r : Node} (h : Derives s r d) : r.WellFormed := by
  obtain ⟨ps, hps, rfl⟩ := h
  exact hps.wellFormed_ofPieces Context.isTame_template hps.wellFormed

/-! ## Symbols -/

/-- The tree of some pieces is written as the nodes that they become. -/
theorem Node.written_ofPieces (special : Char → Bool) (ps : List Piece) :
    (ofPieces ps).written special = writtenEach special (Piece.fuse ps) := by
  rw [ofPieces]
  split
  · next heq => rw [heq]; rfl
  · next n heq => rw [heq, writtenEach, writtenEach, List.append_nil]
  · rfl

/-- What an argument is written as starts with the character that it was read with, if the separator
ended it or there is none. -/
theorem Pieces.head?_written_ofPieces {more : Bool}
    (h : Pieces (.argument op.separator more) p t after ps d)
    (hmore : more = true ∨ op.separator = none) :
    ((Node.ofPieces ps).written (specialFor op.symbol)).head? = t.head? := by
  have hspecial : specialFor op.symbol = (Context.argument op.separator more).escapes := by
    rw [specialFor, separatorOf_symbol, Context.escapes_argument _ more]
  have hchar : ∀ c qs, (Node.writtenEach (specialFor op.symbol) (Piece.fuse (.char c :: qs))).head?
      = some (if (Context.argument op.separator more).escapes c then '\\' else c) := by
    intro c qs
    rcases Piece.fuse_char c qs with ⟨first, nodes, -, heq⟩ | heq <;>
    · rw [heq, Node.writtenEach, Node.written, Text.backslashed, hspecial]
      split <;> rfl
  rw [Node.written_ofPieces]
  cases h with
  | nil => rfl
  | @char _ _ c _ _ _ _ hl =>
    rw [hchar, List.head?_cons]
    split
    · next hescapes =>
      -- A character that is written with a backslash although it was read without is one.
      rcases Context.escapes_iff.1 hescapes with rfl | rfl | hseparator
      · rfl
      · exact absurd (.inl rfl) hl.not_ends
      · rcases hmore with rfl | hnone
        · exact absurd (.inr ⟨rfl, hseparator⟩) hl.not_ends
        · rw [hnone] at hseparator
          cases hseparator
    · rfl
  | @escape _ _ c _ _ _ _ he =>
    rw [hchar, if_pos (Context.escapes_iff.2 he)]
    rfl
  | @reference _ u _ _ node _ _ _ _ hu =>
    obtain ⟨name, symbol, nodes, rfl⟩ := hu.exists_eq
    obtain ⟨tail, htail⟩ :=
      Node.written_reference (specialFor op.symbol) name symbol nodes u p
    obtain ⟨b, rest, hopens, -⟩ := hu.opens []
    rw [List.append_nil] at hopens
    rw [Piece.fuse, Node.writtenEach, htail, hopens]
    rfl

/-- What the arguments of an operator are written as, up to the closing brace, starts with the
character that they were read with. -/
theorem Arguments.head?_written (h : Arguments op p t after ns d) :
    (Node.writtenArguments op.symbol ns ++ ['}']).head? = (t ++ ['}']).head? := by
  cases h with
  | none => rfl
  | one h1 hp =>
    have hmore : decide (1 < op.maxArguments) = true ∨ op.separator = Option.none := by
      cases op <;> simp [Operator.maxArguments, Operator.separator]
    rw [Node.writtenArguments, List.head?_append, List.head?_append,
      hp.head?_written_ofPieces hmore]
  | two _ hc hp hq =>
    rw [Node.writtenArguments, separatorOf_symbol, hc, List.append_assoc, List.append_assoc,
      List.append_assoc, List.head?_append, hp.head?_written_ofPieces (.inl rfl),
      ← List.head?_append]
    exact head?_append_congr _ rfl

/-- The symbol of a reference ends where it is written to end. -/
theorem Refers.symbolEnds {r : Reference} (h : Refers p t after r.node d) : r.SymbolEnds := by
  obtain ⟨name, symbol, nodes, source, position⟩ := r
  have h : Refers p t after (.reference name symbol nodes source position) d := h
  intro c other hc
  cases h with
  | bare | plain | length =>
    obtain rfl : '}' = c := Option.some.inj hc
    intro heq
    exact other.not_mem_symbol (by decide) (heq ▸ List.mem_append_right _ List.mem_cons_self)
  | operator hn hop harg =>
    refine Operator.isLongest_append_iff.1 hop c other ?_
    rw [← hc, harg.head?_written, List.head?_append, List.head?_append]
    rfl

/-- The symbols of the references of a template end where they are written to end. -/
theorem Derives.symbolEnds {s : Text} {r : Node} (h : Derives s r d) :
    ∀ q ∈ r.references, q.SymbolEnds := by
  obtain ⟨ps, hps, rfl⟩ := h
  intro q hq
  rw [Node.references_ofPieces] at hq
  obtain ⟨_, _, _, -, -, hrefers, -⟩ := hps.standsIn q hq
  exact hrefers.symbolEnds

end

end ParameterExpansion

import ParameterExpansion.Proofs.Grammar.Surroundings

/-!
# The spans of references

Where the references of a derivation are in its text. The slice of each is a part of the text that
is derived as the reference by itself (`Pieces.standsIn`), and the slices of those in its
arguments lie between its braces (`Refers.between`). In the order in which a tree lists its
references, each one stands before the next ones but for those in its arguments
(`Pieces.pairwise_references`), and their positions are all the places where a reference starts in
the text (`Pieces.triggers_eq`): nothing that a derivation passes over hides or adds a dollar sign.
-/

namespace ParameterExpansion

/-! ## Lists of references -/

/-- The references of a piece, each before the ones in its arguments. -/
def Piece.references : Piece → List Reference
  | .char _ => []
  | .reference node => node.references

/-- Characters that become one text hold no references. -/
theorem Piece.referencesEach_fuse (ps : List Piece) :
    Node.referencesEach (fuse ps) = ps.flatMap references := by
  induction ps with
  | nil => rfl
  | cons piece ps ih =>
    rw [List.flatMap_cons, ← ih]
    cases piece with
    | reference node => rfl
    | char c =>
      rw [fuse]
      split
      · next heq => rw [heq]; rfl
      · rfl

/-- The references of a tree are those of the pieces that make it up. -/
theorem Node.references_ofPieces (ps : List Piece) :
    (ofPieces ps).references = ps.flatMap Piece.references := by
  rw [← Piece.referencesEach_fuse, ofPieces]
  split
  · next heq => rw [heq]; rfl
  · next node heq => rw [heq, referencesEach, referencesEach, List.append_nil]
  · rfl

namespace Reference

/-- The offset behind the slice of a reference. -/
def stop (r : Reference) : Int := r.position + r.source.length

/-- The slice of `r` is a part of the text `t` at offset `p` with `after` behind it, and is derived
there as `r`, with braced references no more than `d` deep in each other. -/
def StandsIn (r : Reference) (p : Nat) (t after : Text) (d : Nat) : Prop :=
  ∃ before behind e, t = before ++ (r.source ++ behind) ∧
    r.position = ((p + before.length : Nat) : Int) ∧
    Refers (p + before.length) r.source (behind ++ after) r.node e ∧ e ≤ d

section
variable {r : Reference} {p d e : Nat} {t u after : Text}

/-- A deeper nesting may be allowed. -/
theorem StandsIn.mono (h : r.StandsIn p t after d) (hle : d ≤ e) : r.StandsIn p t after e := by
  obtain ⟨before, behind, f, ht, hposition, hr, hf⟩ := h
  exact ⟨before, behind, f, ht, hposition, hr, Nat.le_trans hf hle⟩

/-- The text may be the end of a longer one. -/
theorem StandsIn.prepend (h : r.StandsIn (p + u.length) t after d) :
    r.StandsIn p (u ++ t) after d := by
  obtain ⟨before, behind, f, rfl, hposition, hr, hf⟩ := h
  refine ⟨u ++ before, behind, f, (List.append_assoc _ _ _).symm, ?_, ?_, hf⟩
  · rw [offset_append, hposition]
  · rw [offset_append]
    exact hr

/-- The text may be the start of a longer one. -/
theorem StandsIn.append (h : r.StandsIn p t (u ++ after) d) : r.StandsIn p (t ++ u) after d := by
  obtain ⟨before, behind, f, rfl, hposition, hr, hf⟩ := h
  refine ⟨before, behind ++ u, f, by simp, hposition, ?_, hf⟩
  rw [List.append_assoc]
  exact hr

/-- A reference starts in the text where it stands. -/
theorem StandsIn.le_position (h : r.StandsIn p t after d) : (p : Int) ≤ r.position := by
  obtain ⟨before, behind, f, -, hposition, -⟩ := h
  omega

/-- A reference stops in the text where it stands. -/
theorem StandsIn.stop_le (h : r.StandsIn p t after d) : r.stop ≤ p + t.length := by
  obtain ⟨before, behind, f, rfl, hposition, -⟩ := h
  simp only [stop, hposition, List.length_append]
  omega

end

end Reference

section
variable {op : Operator} {p d : Nat} {t after : Text} {node : Node}

/-- A text that is a reference is the slice of the reference, at its offset. -/
theorem Refers.exists_eq (h : Refers p t after node d) :
    ∃ name symbol nodes, node = .reference name symbol nodes t p := by
  cases h <;> exact ⟨_, _, _, rfl⟩

/-- A reference stands in the text that it is. -/
theorem Refers.standsIn_self {r : Reference} (h : Refers p t after r.node d) :
    r.StandsIn p t after d := by
  obtain ⟨name, symbol, nodes, heq⟩ := h.exists_eq
  obtain ⟨_, _, _, source, position⟩ := r
  cases heq
  exact ⟨[], [], d, (List.append_nil _).symm, rfl, h, Nat.le_refl d⟩

/-! ## Where references stand -/

mutual

/-- Each reference in the pieces of a text stands in the text. -/
theorem Pieces.standsIn : ∀ {context p t after ps d}, Pieces context p t after ps d →
    ∀ r ∈ ps.flatMap Piece.references, r.StandsIn p t after d
  | _, _, _, _, _, _, .nil, _, hr => nomatch hr
  | _, _, _, _, _, _, .char (c := c) _ hp, r, hr =>
    Reference.StandsIn.prepend (u := [c]) (Pieces.standsIn hp r hr)
  | _, _, _, _, _, _, .escape (c := c) _ hp, r, hr =>
    Reference.StandsIn.prepend (u := ['\\', c]) (Pieces.standsIn hp r hr)
  | _, _, _, _, _, _, .reference hu hp, r, hr => by
    have ihu := Refers.standsIn hu r
    have ihp := Pieces.standsIn hp r
    rw [List.flatMap_cons, List.mem_append] at hr
    rcases hr with hr | hr
    · exact (ihu hr).append.mono (Nat.le_max_left _ _)
    · exact (ihp hr).prepend.mono (Nat.le_max_right _ _)

/-- A reference stands in its text, and so does each one in its arguments. -/
theorem Refers.standsIn : ∀ {p t after node d}, Refers p t after node d →
    ∀ r ∈ node.references, r.StandsIn p t after d
  | _, _, _, _, _, .bare hn ha, r, hr => by
    obtain rfl := List.mem_singleton.1 hr
    exact Refers.standsIn_self (.bare hn ha)
  | _, _, _, _, _, .plain hn, r, hr => by
    obtain rfl := List.mem_singleton.1 hr
    exact Refers.standsIn_self (.plain hn)
  | _, _, _, _, _, .length hn, r, hr => by
    obtain rfl := List.mem_singleton.1 hr
    exact Refers.standsIn_self (.length hn)
  | _, _, _, _, _, @Refers.operator n op p t _ _ _ hn hop harg, r, hr => by
    have ih := Arguments.standsIn harg r
    rcases List.mem_cons.1 hr with rfl | hr
    · exact Refers.standsIn_self (.operator hn hop harg)
    · have hsource : inBraces (n ++ (op.symbol ++ t)) =
          ('$' :: '{' :: (n ++ op.symbol)) ++ (t ++ ['}']) := by
        simp [inBraces]
      have hoffset : p + 2 + n.length + op.symbol.length =
          p + ('$' :: '{' :: (n ++ op.symbol)).length := by
        simp only [List.length_cons, List.length_append]
        omega
      rw [hoffset] at ih
      rw [hsource]
      exact (Reference.StandsIn.append (u := ['}']) (ih hr)).prepend.mono (Nat.le_succ _)

/-- Each reference in the arguments of an operator stands in their text. -/
theorem Arguments.standsIn : ∀ {op p t after nodes d}, Arguments op p t after nodes d →
    ∀ r ∈ Node.referencesEach nodes, r.StandsIn p t after d
  | _, _, _, _, _, _, .none _, _, hr => nomatch hr
  | _, _, _, _, _, _, .one _ hp, r, hr => by
    have ih := Pieces.standsIn hp r
    rw [Node.referencesEach, Node.referencesEach, List.append_nil, Node.references_ofPieces] at hr
    exact ih hr
  | _, p, _, _, _, _, .two (c := c) (t := t) (u := u) _ _ hp hq, r, hr => by
    have ihp := Pieces.standsIn hp r
    have ihq := Pieces.standsIn hq r
    rw [Node.referencesEach, Node.referencesEach, Node.referencesEach, List.append_nil,
      Node.references_ofPieces, Node.references_ofPieces, List.mem_append] at hr
    rcases hr with hr | hr
    · exact (Reference.StandsIn.append (u := c :: u) (ihp hr)).mono (Nat.le_max_left _ _)
    · have hoffset : p + t.length + 1 = p + (t ++ [c]).length := by
        rw [List.length_append, List.length_singleton, Nat.add_assoc]
      have htext : t ++ c :: u = (t ++ [c]) ++ u := by simp
      rw [hoffset] at ihq
      rw [htext]
      exact (ihq hr).prepend.mono (Nat.le_max_right _ _)

end

/-- The references in the arguments of a reference lie between its braces. -/
theorem Refers.between {r s : Reference} (h : Refers p t after r.node d)
    (hs : s ∈ Node.referencesEach r.arguments) : r.position < s.position ∧ s.stop < r.stop := by
  obtain ⟨name, symbol, nodes, source, position⟩ := r
  have h : Refers p t after (.reference name symbol nodes source position) d := h
  cases h with
  | bare | plain | length => exact nomatch hs
  | operator hn hop harg =>
    have hstands := harg.standsIn s hs
    have hposition := hstands.le_position
    have hstop := hstands.stop_le
    simp only [Reference.stop, length_inBraces, List.length_append] at hstop ⊢
    omega

/-! ## The order of references -/

mutual

/-- Each reference in the pieces of a text stands before the next ones, but for those in its
arguments. -/
theorem Pieces.pairwise_references : ∀ {context p t after ps d}, Pieces context p t after ps d →
    (ps.flatMap Piece.references).Pairwise fun r s =>
      r.stop ≤ s.position ∨ s ∈ Node.referencesEach r.arguments
  | _, _, _, _, _, _, .nil => .nil
  | _, _, _, _, _, _, .char _ hp => by
    have ih := Pieces.pairwise_references hp
    exact ih
  | _, _, _, _, _, _, .escape _ hp => by
    have ih := Pieces.pairwise_references hp
    exact ih
  | _, _, _, _, _, _, .reference hu hp => by
    have ihu := Refers.pairwise_references hu
    have ihp := Pieces.pairwise_references hp
    rw [List.flatMap_cons]
    refine List.pairwise_append.2 ⟨ihu, ihp, fun r hr s hs => .inl ?_⟩
    have hstop := (hu.standsIn r hr).stop_le
    have hposition := (hp.standsIn s hs).le_position
    omega

/-- A reference stands before the next ones, but for those in its arguments. -/
theorem Refers.pairwise_references : ∀ {p t after node d}, Refers p t after node d →
    node.references.Pairwise fun r s => r.stop ≤ s.position ∨ s ∈ Node.referencesEach r.arguments
  | _, _, _, _, _, .bare .. => List.pairwise_singleton _ _
  | _, _, _, _, _, .plain _ => List.pairwise_singleton _ _
  | _, _, _, _, _, .length _ => List.pairwise_singleton _ _
  | _, _, _, _, _, .operator _ _ harg => by
    have ih := Arguments.pairwise_references harg
    exact List.pairwise_cons.2 ⟨fun s hs => .inr hs, ih⟩

/-- Each reference in the arguments of an operator stands before the next ones, but for those in its
own arguments. -/
theorem Arguments.pairwise_references : ∀ {op p t after nodes d},
    Arguments op p t after nodes d → (Node.referencesEach nodes).Pairwise fun r s =>
      r.stop ≤ s.position ∨ s ∈ Node.referencesEach r.arguments
  | _, _, _, _, _, _, .none _ => .nil
  | _, _, _, _, _, _, .one _ hp => by
    have ih := Pieces.pairwise_references hp
    rw [Node.referencesEach, Node.referencesEach, List.append_nil, Node.references_ofPieces]
    exact ih
  | _, _, _, _, _, _, .two _ _ hp hq => by
    have ihp := Pieces.pairwise_references hp
    have ihq := Pieces.pairwise_references hq
    rw [Node.referencesEach, Node.referencesEach, Node.referencesEach, List.append_nil,
      Node.references_ofPieces, Node.references_ofPieces]
    refine List.pairwise_append.2 ⟨ihp, ihq, fun r hr s hs => .inl ?_⟩
    have hstop := (hp.standsIn r hr).stop_le
    have hposition := (hq.standsIn s hs).le_position
    omega

end

end

/-! ## Places where references start -/

/-- The offsets at which references start in a text that stands at an offset. -/
def triggers (p : Nat) : Text → List Nat
  | [] => []
  | c :: rest =>
    if startsReference (c :: rest) then p :: triggers (p + 1) rest else triggers (p + 1) rest

section
variable {op : Operator} {p i : Nat} {c : Char} {t u : Text}

/-- No reference starts at a character other than a dollar sign. -/
theorem triggers_cons_of_ne (hc : c ≠ '$') : triggers p (c :: t) = triggers (p + 1) t := by
  rw [triggers, if_neg]
  intro h
  exact hc (opensReference_cons_iff.1 (startsReference_iff.1 h)).1

/-- No reference starts in a text without a dollar sign. -/
theorem triggers_append (hu : '$' ∉ u) : triggers p (u ++ t) = triggers (p + u.length) t := by
  induction u generalizing p with
  | nil => rfl
  | cons c u ih =>
    rw [List.mem_cons, not_or] at hu
    rw [List.cons_append, triggers_cons_of_ne (Ne.symm hu.1), ih hu.2, List.length_cons]
    congr 1
    omega

/-- Where a reference starts, it is the first one. -/
theorem triggers_of_opens (h : OpensReference (c :: t)) :
    triggers p (c :: t) = p :: triggers (p + 1) t := by
  rw [triggers, if_pos (startsReference_iff.2 h)]

/-- A braced reference starts at its dollar sign, and none starts at its braces. -/
theorem triggers_inBraces (inner after : Text) :
    triggers p (inBraces inner ++ after) = p :: triggers (p + 2) (inner ++ '}' :: after) := by
  rw [inBraces_append, triggers_of_opens ⟨'{', _, rfl, .inl rfl⟩, triggers_cons_of_ne (by decide)]

/-- No offset of a place where a reference starts is before that of the text. -/
theorem le_of_mem_triggers (h : i ∈ triggers p t) : p ≤ i := by
  induction t generalizing p with
  | nil => cases h
  | cons c t ih =>
    rw [triggers] at h
    split at h
    · rcases List.mem_cons.1 h with rfl | h
      · exact Nat.le_refl _
      · exact Nat.le_of_succ_le (ih h)
    · exact Nat.le_of_succ_le (ih h)

/-- The places where references start are listed from left to right. -/
theorem pairwise_triggers (p : Nat) (t : Text) : (triggers p t).Pairwise (· < ·) := by
  induction t generalizing p with
  | nil => exact .nil
  | cons c t ih =>
    rw [triggers]
    split
    · exact List.pairwise_cons.2 ⟨fun i hi => le_of_mem_triggers hi, ih (p + 1)⟩
    · exact ih (p + 1)

/-- The places where references start are all listed. -/
theorem mem_triggers_iff : p + i ∈ triggers p t ↔ OpensReference (t.drop i) := by
  induction t generalizing p i with
  | nil =>
    rw [List.drop_nil]
    exact ⟨nofun, nofun⟩
  | cons c t ih =>
    have hlater : ∀ j, p + (j + 1) ∈ triggers (p + 1) t ↔ OpensReference (t.drop j) := by
      intro j
      rw [Nat.add_comm j 1, ← Nat.add_assoc, ih]
    have hnot : p ∉ triggers (p + 1) t := fun h => absurd (le_of_mem_triggers h) (by omega)
    cases i with
    | zero =>
      rw [List.drop_zero, ← startsReference_iff, triggers]
      split
      · next h => simp [h]
      · next h => simp [h, hnot]
    | succ j =>
      rw [List.drop_succ_cons, ← hlater, triggers]
      split
      · rw [List.mem_cons]
        exact or_iff_right (by omega)
      · exact Iff.rfl

/-! ## Nothing hides or adds a dollar sign -/

/-- There is no dollar sign in a name. -/
theorem IsName.dollar_not_mem {n : Text} (hn : IsName n) : '$' ∉ n := by
  intro h
  have := hn.isNameChar_of_mem h
  revert this
  decide

/-- The characters of which symbols are made. -/
def Operator.characters : List Char := ['#', '%', '/', ':', '=', '-', '?', '+', ',', '^']

/-- No other character stands in a symbol. -/
theorem Operator.not_mem_symbol {c : Char} (hc : c ∉ characters) (op : Operator) :
    c ∉ op.symbol := by
  have hsymbol : op.symbol.all (· ∈ characters) = true := by cases op <;> rfl
  exact fun h => hc (of_decide_eq_true (List.all_eq_true.1 hsymbol c h))

/-- In an argument no backslash makes a dollar sign literal. -/
theorem Operator.not_escapable_dollar (op : Operator) (more : Bool) :
    ¬ (Context.argument op.separator more).Escapable '$' := by
  cases op <;> simp [Context.Escapable, Operator.separator]

mutual

/-- The places where references start in a text and behind it are the positions of the references in
its pieces and those behind it. -/
theorem Pieces.triggers_eq : ∀ {context p t after ps d}, Pieces context p t after ps d →
    ¬ context.Escapable '$' → (triggers p (t ++ after)).map Nat.cast =
      (ps.flatMap Piece.references).map (·.position) ++
        (triggers (p + t.length) after).map Nat.cast
  | _, _, _, _, _, _, .nil, _ => rfl
  | _, p, _, _, _, _, .char (c := c) (t := t) hl hp, hdollar => by
    have ih := Pieces.triggers_eq hp hdollar
    have hstart := mt startsReference_iff.1 hl.not_opens
    rw [List.cons_append, triggers, if_neg hstart, ih, offset_cons]
    rfl
  | _, p, _, after, _, _, .escape (c := c) (t := t) he hp, hdollar => by
    have ih := Pieces.triggers_eq hp hdollar
    have hc : '$' ∉ ['\\', c] := by
      intro h
      have hne : ('$' : Char) ≠ '\\' := by decide
      rcases List.mem_cons.1 h with h | h
      · exact hne h
      · exact hdollar (List.mem_singleton.1 h ▸ he)
    have htext : '\\' :: c :: t ++ after = ['\\', c] ++ (t ++ after) := rfl
    rw [htext, triggers_append hc, List.length_cons, List.length_singleton, ih, offset_cons_cons]
    rfl
  | _, p, _, _, _, _, .reference (u := u) (t := t) hu hp, hdollar => by
    have ihu := Refers.triggers_eq hu
    have ihp := Pieces.triggers_eq hp hdollar
    rw [List.append_assoc, ihu, ihp, List.flatMap_cons, List.map_append, List.append_assoc,
      List.length_append, Nat.add_assoc]
    rfl

/-- The places where references start in a reference and behind it are its position, those of the
references in its arguments, and those behind it. -/
theorem Refers.triggers_eq : ∀ {p t after node d}, Refers p t after node d →
    (triggers p (t ++ after)).map Nat.cast =
      node.references.map (·.position) ++ (triggers (p + t.length) after).map Nat.cast
  | p, _, after, _, _, .bare (n := n) hn ha => by
    have hopens : OpensReference ('$' :: (n ++ after)) := (Refers.bare (p := p) hn ha).opens after
    rw [List.cons_append, triggers_of_opens hopens, triggers_append hn.dollar_not_mem, offset_cons]
    rfl
  | p, _, after, _, _, .plain (n := n) hn => by
    rw [triggers_inBraces, triggers_append hn.dollar_not_mem, triggers_cons_of_ne (by decide),
      offset_inBraces]
    rfl
  | p, _, after, _, _, .length (n := n) hn => by
    rw [triggers_inBraces, List.cons_append, triggers_cons_of_ne (by decide),
      triggers_append hn.dollar_not_mem, triggers_cons_of_ne (by decide), offset_inBraces,
      offset_cons]
    rfl
  | _, _, _, _, _, @Refers.operator n op p t after _ _ hn hop harg => by
    have ih := Arguments.triggers_eq harg
    rw [triggers_inBraces, List.append_assoc, List.append_assoc,
      triggers_append hn.dollar_not_mem, triggers_append (op.not_mem_symbol (by decide)),
      List.map_cons, ih, triggers_cons_of_ne (by decide), offset_operator]
    rfl

/-- The places where references start in the arguments of an operator and behind them are the
positions of the references in the arguments and those behind them. -/
theorem Arguments.triggers_eq : ∀ {op p t after nodes d}, Arguments op p t after nodes d →
    (triggers p (t ++ after)).map Nat.cast =
      (Node.referencesEach nodes).map (·.position) ++
        (triggers (p + t.length) after).map Nat.cast
  | _, _, _, _, _, _, .none _ => rfl
  | op, _, _, _, _, _, .one _ hp => by
    have ih := Pieces.triggers_eq hp (op.not_escapable_dollar _)
    rw [Node.referencesEach, Node.referencesEach, List.append_nil, Node.references_ofPieces]
    exact ih
  | op, p, _, after, _, _, .two (c := c) (t := t) (u := u) _ hc hp hq => by
    have ihp := Pieces.triggers_eq hp (op.not_escapable_dollar _)
    have ihq := Pieces.triggers_eq hq (op.not_escapable_dollar _)
    have hne : c ≠ '$' := by
      rintro rfl
      exact op.not_escapable_dollar false (.inr (.inr hc))
    rw [List.append_assoc, List.cons_append, ihp, triggers_cons_of_ne hne, ihq, offset_separated,
      Node.referencesEach, Node.referencesEach, Node.referencesEach, List.append_nil,
      Node.references_ofPieces, Node.references_ofPieces, List.map_append, List.append_assoc]

end

end

end ParameterExpansion

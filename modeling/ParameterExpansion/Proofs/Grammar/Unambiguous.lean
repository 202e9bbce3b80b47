import ParameterExpansion.Proofs.Grammar.Basic

/-!
# The grammar is unambiguous

A text has one tree at most, and one nesting (`Derives.unique`). The first characters of a text tell
which rule a derivation of its pieces ends with (`Pieces.inv_ends`, `Pieces.inv_literal`,
`Pieces.inv_escapable`, `Pieces.inv_opens`); two derivations from one text take the same rule, and
what is left of the text is the same for both. Names and symbols are cut off in one way only,
because they are as long as they can be (`IsName.append_inj`, `Operator.IsLongest.unique`).
-/

namespace ParameterExpansion

section
variable {context : Context} {op : Operator} {p d : Nat} {c : Char} {n t after rest : Text}
  {ps : List Piece} {node : Node}

/-! ## What stands at a boundary -/

/-- A braced reference with a text behind it. -/
theorem inBraces_append (inner after : Text) :
    inBraces inner ++ after = '$' :: '{' :: (inner ++ '}' :: after) := by
  simp [inBraces]

/-- A braced reference has three characters around what is between its braces. -/
theorem length_inBraces (inner : Text) : (inBraces inner).length = inner.length + 3 := by
  simp [inBraces]

/-- The offset behind a text with one character in front. -/
theorem offset_cons (p : Nat) (c : Char) (t : Text) : p + (c :: t).length = p + 1 + t.length := by
  rw [List.length_cons]
  omega

/-- The offset behind a text with two characters in front. -/
theorem offset_cons_cons (p : Nat) (b c : Char) (t : Text) :
    p + (b :: c :: t).length = p + 2 + t.length := by
  rw [List.length_cons, List.length_cons]
  omega

/-- The offset behind two texts. -/
theorem offset_append (p : Nat) (t u : Text) : p + (t ++ u).length = p + t.length + u.length := by
  rw [List.length_append, Nat.add_assoc]

/-- The offset behind two texts with a character between them. -/
theorem offset_separated (p : Nat) (t : Text) (c : Char) (u : Text) :
    p + (t ++ c :: u).length = p + t.length + 1 + u.length := by
  rw [offset_append, offset_cons]

/-- The offset behind a braced reference. -/
theorem offset_inBraces (p : Nat) (inner : Text) :
    p + (inBraces inner).length = p + 2 + inner.length + 1 := by
  rw [length_inBraces]
  omega

/-- The offset behind a braced reference with an operator. -/
theorem offset_operator (p : Nat) (n symbol t : Text) :
    p + (inBraces (n ++ (symbol ++ t))).length =
      p + 2 + n.length + symbol.length + t.length + 1 := by
  rw [offset_inBraces, offset_append, offset_append]

/-- No name goes on into a closing brace. -/
theorem endsName_brace (after : Text) : EndsName ('}' :: after) := EndsName.cons (by decide)

/-- No name goes on into a symbol. -/
theorem Operator.endsName_symbol (op : Operator) (rest : Text) : EndsName (op.symbol ++ rest) := by
  cases op <;> exact EndsName.cons (by decide)

/-- No symbol starts with a closing brace. -/
theorem Operator.symbol_append_ne (op : Operator) (rest after : Text) :
    op.symbol ++ rest ≠ '}' :: after := by
  cases op <;> simp [Operator.symbol]

/-- No separator is a closing brace. -/
theorem Operator.separator_ne (op : Operator) : op.separator ≠ some '}' := by
  cases op <;> decide

/-- No name starts with a character that starts no name. -/
theorem IsName.append_ne (hn : IsName n) (hc : isNameStart c = false) : n ++ t ≠ c :: rest := by
  obtain ⟨b, tail, rfl, hb⟩ := hn.exists_cons
  rintro h
  cases h
  rw [hb] at hc
  cases hc

/-- A closing brace ends the pieces of an argument. -/
theorem Context.endsAt_brace (separator : Option Char) (more : Bool) (rest : Text) :
    (Context.argument separator more).EndsAt ('}' :: rest) := by
  rintro c hc
  cases hc
  exact .inl rfl

/-- The separator ends the pieces of an argument while a further one is allowed. -/
theorem Context.endsAt_separator (hc : op.separator = some c) (rest : Text) :
    (Context.argument op.separator true).EndsAt (c :: rest) := by
  rintro d hd
  cases hd
  exact .inr ⟨rfl, hc⟩

/-- The pieces of a template end where the template does. -/
theorem Context.endsAt_nil (context : Context) : context.EndsAt [] := nofun

/-- A text that is a reference starts like one. -/
theorem Refers.opens (h : Refers p t after node d) (rest : Text) : OpensReference (t ++ rest) := by
  cases h with
  | bare hn =>
    obtain ⟨c, tail, rfl, hc⟩ := hn.exists_cons
    exact ⟨c, _, rfl, .inr hc⟩
  | plain | length | operator => exact ⟨'{', _, rfl, .inl rfl⟩

/-- A reference is not empty. -/
theorem Refers.length_pos (h : Refers p t after node d) : 0 < t.length := by
  cases h <;> exact Nat.succ_pos _

/-- What ends the pieces of a regular context is neither a reference nor an escape. -/
theorem Context.Regular.not_opens (hr : context.Regular) (hends : context.EndsAt t) :
    ¬ OpensReference t := by
  rintro ⟨c, rest, rfl, -⟩
  exact hr.dollar (hends _ rfl)

/-! ## Inversion -/

/-- Where the pieces end, there are none. -/
theorem Pieces.inv_ends (h : Pieces context p t after ps d) (hr : context.Regular)
    (hends : context.EndsAt (t ++ after)) : t = [] ∧ ps = [] ∧ d = 0 := by
  cases h with
  | nil => exact ⟨rfl, rfl, rfl⟩
  | char hl => exact absurd (hends _ rfl) hl.not_ends
  | escape => exact absurd (hends _ rfl) hr.backslash
  | reference hu =>
    rw [List.append_assoc] at hends
    exact absurd (hu.opens _) (hr.not_opens hends)

/-- Where a character means itself, it is the first piece. -/
theorem Pieces.inv_literal (h : Pieces context p t after ps d) (hends : context.EndsAt after)
    (heq : t ++ after = c :: rest) (hl : context.Literal c rest) :
    ∃ u qs, t = c :: u ∧ u ++ after = rest ∧ ps = .char c :: qs ∧
      Pieces context (p + 1) u after qs d := by
  cases h with
  | nil => exact absurd (hends c (by rw [← List.nil_append after, heq]; rfl)) hl.not_ends
  | char _ hp =>
    cases heq
    exact ⟨_, _, rfl, rfl, rfl, hp⟩
  | escape he =>
    cases heq
    exact absurd he (hl.not_escape rfl _ rfl)
  | reference hu =>
    rw [List.append_assoc] at heq
    exact absurd (heq ▸ hu.opens _) hl.not_opens

/-- Where an escape stands, it is the first piece. -/
theorem Pieces.inv_escapable (h : Pieces context p t after ps d) (hr : context.Regular)
    (hends : context.EndsAt after) (heq : t ++ after = '\\' :: c :: rest)
    (hc : context.Escapable c) :
    ∃ u qs, t = '\\' :: c :: u ∧ u ++ after = rest ∧ ps = .char c :: qs ∧
      Pieces context (p + 2) u after qs d := by
  cases h with
  | nil => exact absurd (hends _ (by rw [← List.nil_append after, heq]; rfl)) hr.backslash
  | char hl _ =>
    rw [List.cons_append] at heq
    obtain ⟨rfl, htail⟩ := List.cons.inj heq
    exact absurd hc (hl.not_escape rfl c (by rw [htail]; rfl))
  | escape _ hp =>
    cases heq
    exact ⟨_, _, rfl, rfl, rfl, hp⟩
  | reference hu =>
    rw [List.append_assoc] at heq
    obtain ⟨b, tail, hb, -⟩ := hu.opens _
    rw [heq] at hb
    cases hb

/-- Where a reference stands, it is the first piece. -/
theorem Pieces.inv_opens (h : Pieces context p t after ps d) (hr : context.Regular)
    (hends : context.EndsAt after) (hopens : OpensReference (t ++ after)) :
    ∃ u v node qs d₁ d₂, t = u ++ v ∧ ps = .reference node :: qs ∧ d = max d₁ d₂ ∧
      Refers p u (v ++ after) node d₁ ∧ Pieces context (p + u.length) v after qs d₂ := by
  cases h with
  | nil => exact absurd hopens (hr.not_opens hends)
  | char hl => exact absurd hopens hl.not_opens
  | escape =>
    obtain ⟨b, tail, hb, -⟩ := hopens
    cases hb
  | reference hu hp => exact ⟨_, _, _, _, _, _, rfl, rfl, rfl, hu, hp⟩

/-- Where a bare reference stands, it is the reference. -/
theorem Refers.inv_bare (h : Refers p t after node d) (hn : IsName n) (hrest : EndsName rest)
    (heq : t ++ after = '$' :: (n ++ rest)) :
    t = '$' :: n ∧ after = rest ∧ node = .reference n [] [] ('$' :: n) p ∧ d = 0 := by
  cases h with
  | bare hn' ha' =>
    obtain ⟨rfl, rfl⟩ := hn'.append_inj hn ha' hrest (List.cons.inj heq).2
    exact ⟨rfl, rfl, rfl, rfl⟩
  | plain | length | operator =>
    exact absurd (List.cons.inj heq).2.symm (hn.append_ne (by decide))

/-- Where a plain reference stands, it is the reference. -/
theorem Refers.inv_plain (h : Refers p t after node d) (hn : IsName n)
    (heq : t ++ after = '$' :: '{' :: (n ++ '}' :: rest)) :
    t = inBraces n ∧ after = rest ∧ node = .reference n [] [] (inBraces n) p ∧ d = 1 := by
  cases h with
  | bare hn' => exact absurd (List.cons.inj heq).2 (hn'.append_ne (by decide))
  | plain hn' =>
    simp only [inBraces_append, List.cons.injEq, true_and] at heq
    obtain ⟨rfl, hrest⟩ := hn'.append_inj hn (endsName_brace _) (endsName_brace _) heq
    cases hrest
    exact ⟨rfl, rfl, rfl, rfl⟩
  | length =>
    simp only [inBraces_append, List.cons.injEq, true_and, List.cons_append] at heq
    exact absurd heq.symm (hn.append_ne (by decide))
  | operator hn' =>
    simp only [inBraces_append, List.cons.injEq, true_and, List.append_assoc] at heq
    obtain ⟨rfl, hrest⟩ :=
      hn'.append_inj hn (Operator.endsName_symbol _ _) (endsName_brace _) heq
    exact absurd hrest (Operator.symbol_append_ne _ _ _)

/-- Where a reference to a length stands, it is the reference. -/
theorem Refers.inv_length (h : Refers p t after node d) (hn : IsName n)
    (heq : t ++ after = '$' :: '{' :: '#' :: (n ++ '}' :: rest)) :
    t = inBraces ('#' :: n) ∧ after = rest ∧
      node = .reference n lengthSymbol [] (inBraces ('#' :: n)) p ∧ d = 1 := by
  cases h with
  | bare hn' => exact absurd (List.cons.inj heq).2 (hn'.append_ne (by decide))
  | plain hn' | operator hn' =>
    simp only [inBraces_append, List.cons.injEq, true_and, List.append_assoc] at heq
    exact absurd heq (hn'.append_ne (by decide))
  | length hn' =>
    simp only [inBraces_append, List.cons.injEq, true_and, List.cons_append] at heq
    obtain ⟨rfl, hrest⟩ := hn'.append_inj hn (endsName_brace _) (endsName_brace _) heq
    cases hrest
    exact ⟨rfl, rfl, rfl, rfl⟩

/-- Where a reference with an operator stands, it is the reference. -/
theorem Refers.inv_operator (h : Refers p t after node d) (hn : IsName n)
    (hop : op.IsLongest (op.symbol ++ rest))
    (heq : t ++ after = '$' :: '{' :: (n ++ (op.symbol ++ rest))) :
    ∃ u nodes e, rest = u ++ '}' :: after ∧ t = inBraces (n ++ (op.symbol ++ u)) ∧
      node = .reference n op.symbol nodes (inBraces (n ++ (op.symbol ++ u))) p ∧ d = e + 1 ∧
      Arguments op (p + 2 + n.length + op.symbol.length) u ('}' :: after) nodes e := by
  cases h with
  | bare hn' => exact absurd (List.cons.inj heq).2 (hn'.append_ne (by decide))
  | plain hn' =>
    simp only [inBraces_append, List.cons.injEq, true_and] at heq
    obtain ⟨rfl, hrest⟩ :=
      hn'.append_inj hn (endsName_brace _) (Operator.endsName_symbol _ _) heq
    exact absurd hrest.symm (Operator.symbol_append_ne _ _ _)
  | length =>
    simp only [inBraces_append, List.cons.injEq, true_and, List.cons_append] at heq
    exact absurd heq.symm (hn.append_ne (by decide))
  | operator hn' hop' harg =>
    simp only [inBraces_append, List.cons.injEq, true_and, List.append_assoc] at heq
    obtain ⟨rfl, hrest⟩ := hn'.append_inj hn (Operator.endsName_symbol _ _)
      (Operator.endsName_symbol _ _) heq
    obtain rfl := hop.unique (hrest ▸ hop')
    exact ⟨_, _, _, (List.append_cancel_left hrest).symm, rfl, rfl, rfl, harg⟩

end

/-! ## Uniqueness -/

mutual

/-- The pieces of a text, up to where they end, are unique. -/
theorem Pieces.unique : ∀ {context p t after ps d}, Pieces context p t after ps d →
    ∀ t' after' ps' d', Pieces context p t' after' ps' d' → context.Regular →
      context.EndsAt after → context.EndsAt after' → t ++ after = t' ++ after' →
      t = t' ∧ after = after' ∧ ps = ps' ∧ d = d'
  | _, _, _, _, _, _, .nil, _, _, _, _, h', hr, hends, _, heq => by
    obtain ⟨rfl, rfl, rfl⟩ := h'.inv_ends hr (heq ▸ hends)
    exact ⟨rfl, heq, rfl, rfl⟩
  | _, _, _, _, _, _, .char hl hp, _, _, _, _, h', hr, hends, hends', heq => by
    have ih := Pieces.unique hp
    obtain ⟨u, qs, rfl, hrest, rfl, hq⟩ := h'.inv_literal hends' heq.symm hl
    obtain ⟨rfl, rfl, rfl, rfl⟩ := ih _ _ _ _ hq hr hends hends' hrest.symm
    exact ⟨rfl, rfl, rfl, rfl⟩
  | _, _, _, _, _, _, .escape he hp, _, _, _, _, h', hr, hends, hends', heq => by
    have ih := Pieces.unique hp
    obtain ⟨u, qs, rfl, hrest, rfl, hq⟩ := h'.inv_escapable hr hends' heq.symm he
    obtain ⟨rfl, rfl, rfl, rfl⟩ := ih _ _ _ _ hq hr hends hends' hrest.symm
    exact ⟨rfl, rfl, rfl, rfl⟩
  | _, _, _, _, _, _, .reference hu hp, _, _, _, _, h', hr, hends, hends', heq => by
    have ihu := Refers.unique hu
    have ihp := Pieces.unique hp
    rw [List.append_assoc] at heq
    obtain ⟨v, w, node', qs, d₁, d₂, rfl, rfl, rfl, hv, hq⟩ :=
      h'.inv_opens hr hends' (heq ▸ hu.opens _)
    rw [List.append_assoc] at heq
    obtain ⟨rfl, hrest, rfl, rfl⟩ := ihu _ _ _ _ hv heq
    obtain ⟨rfl, rfl, rfl, rfl⟩ := ihp _ _ _ _ hq hr hends hends' hrest
    exact ⟨rfl, rfl, rfl, rfl⟩

/-- A text starts with one reference at most. -/
theorem Refers.unique : ∀ {p t after node d}, Refers p t after node d →
    ∀ t' after' node' d', Refers p t' after' node' d' → t ++ after = t' ++ after' →
      t = t' ∧ after = after' ∧ node = node' ∧ d = d'
  | _, _, _, _, _, .bare hn ha, _, _, _, _, h', heq => by
    obtain ⟨rfl, rfl, rfl, rfl⟩ := h'.inv_bare hn ha heq.symm
    exact ⟨rfl, rfl, rfl, rfl⟩
  | _, _, _, _, _, .plain hn, _, _, _, _, h', heq => by
    obtain ⟨rfl, rfl, rfl, rfl⟩ := h'.inv_plain hn (heq.symm.trans (inBraces_append _ _))
    exact ⟨rfl, rfl, rfl, rfl⟩
  | _, _, _, _, _, .length hn, _, _, _, _, h', heq => by
    obtain ⟨rfl, rfl, rfl, rfl⟩ := h'.inv_length hn (heq.symm.trans (inBraces_append _ _))
    exact ⟨rfl, rfl, rfl, rfl⟩
  | _, _, _, _, _, .operator hn hop harg, _, _, _, _, h', heq => by
    have ih := Arguments.unique harg
    rw [inBraces_append, List.append_assoc, List.append_assoc] at heq
    obtain ⟨u, nodes, e, hrest, rfl, rfl, rfl, harg'⟩ := h'.inv_operator hn hop heq.symm
    obtain ⟨rfl, hafter, rfl, rfl⟩ := ih _ _ _ _ harg' rfl rfl hrest
    cases hafter
    exact ⟨rfl, rfl, rfl, rfl⟩

/-- The arguments of an operator, up to the closing brace, are unique. -/
theorem Arguments.unique : ∀ {op p t rest nodes d}, Arguments op p t rest nodes d →
    ∀ t' rest' nodes' d', Arguments op p t' rest' nodes' d' → rest.head? = some '}' →
      rest'.head? = some '}' → t ++ rest = t' ++ rest' →
      t = t' ∧ rest = rest' ∧ nodes = nodes' ∧ d = d'
  | _, _, _, _, _, _, .none h0, _, _, _, _, h', _, _, heq => by
    cases h' with
    | none => exact ⟨rfl, heq, rfl, rfl⟩
    | one h1 => omega
    | two h2 => omega
  | op, _, _, _, _, _, .one h1 hp, _, _, _, _, h', hrest, hrest', heq => by
    have ih := Pieces.unique hp
    obtain ⟨after, rfl⟩ := List.head?_eq_some_iff.1 hrest
    obtain ⟨after', rfl⟩ := List.head?_eq_some_iff.1 hrest'
    have hr := Context.regular_argument op
    cases h' with
    | none h0 => omega
    | one _ hp' =>
      obtain ⟨rfl, hafter, rfl, rfl⟩ := ih _ _ _ _ hp' (hr _) (Context.endsAt_brace _ _ _)
        (Context.endsAt_brace _ _ _) heq
      exact ⟨rfl, hafter, rfl, rfl⟩
    | two h2 hc hp' _ =>
      -- The first argument cannot end both at the closing brace and at the separator.
      rw [List.append_assoc, List.cons_append] at heq
      rw [h2] at ih
      obtain ⟨-, hafter, -⟩ := ih _ _ _ _ hp' (hr _) (Context.endsAt_brace _ _ _)
        (Context.endsAt_separator hc _) heq
      exact absurd ((List.cons.inj hafter).1 ▸ hc) op.separator_ne
  | op, _, _, _, _, _, .two h2 hc hp hq, _, _, _, _, h', hrest, hrest', heq => by
    have ihp := Pieces.unique hp
    have ihq := Pieces.unique hq
    obtain ⟨after, rfl⟩ := List.head?_eq_some_iff.1 hrest
    obtain ⟨after', rfl⟩ := List.head?_eq_some_iff.1 hrest'
    have hr := Context.regular_argument op
    rw [List.append_assoc, List.cons_append] at heq
    cases h' with
    | none h0 => omega
    | one h1 hp' =>
      rw [h2] at hp'
      obtain ⟨-, hafter, -⟩ := ihp _ _ _ _ hp' (hr _) (Context.endsAt_separator hc _)
        (Context.endsAt_brace _ _ _) heq
      exact absurd ((List.cons.inj hafter).1 ▸ hc) op.separator_ne
    | two _ hc' hp' hq' =>
      rw [List.append_assoc, List.cons_append] at heq
      obtain ⟨rfl, hafter, rfl, rfl⟩ := ihp _ _ _ _ hp' (hr _)
        (Context.endsAt_separator hc _) (Context.endsAt_separator hc' _) heq
      obtain ⟨rfl, htail⟩ := List.cons.inj hafter
      obtain ⟨rfl, hafter, rfl, rfl⟩ := ihq _ _ _ _ hq' (hr _) (Context.endsAt_brace _ _ _)
        (Context.endsAt_brace _ _ _) htail
      exact ⟨rfl, hafter, rfl, rfl⟩

end

/-- A text has one tree at most, and one nesting. -/
theorem Derives.unique {s : Text} {r r' : Node} {d d' : Nat} (h : Derives s r d)
    (h' : Derives s r' d') : r = r' ∧ d = d' := by
  obtain ⟨ps, hp, rfl⟩ := h
  obtain ⟨ps', hp', rfl⟩ := h'
  obtain ⟨-, -, rfl, rfl⟩ := hp.unique _ _ _ _ hp' Context.regular_template (Context.endsAt_nil _)
    (Context.endsAt_nil _) rfl
  exact ⟨rfl, rfl⟩

end ParameterExpansion

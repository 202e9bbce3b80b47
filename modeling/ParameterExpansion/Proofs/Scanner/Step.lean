import ParameterExpansion.Proofs.Grammar.Unambiguous

/-!
# The steps of a scan

What each function of the scanner does at the text in front of it, in the words of the grammar. A
text goes on in one of five ways (`Context.cases`), and `Scanner.pieces` has an equation for each of
them. Names, closing braces and symbols are read exactly where they stand (`Scanner.name_ok`,
`Scanner.close_ok`, `Scanner.operator_ok`, each with its converse). Each form of a reference is read
where it stands (`Scanner.reference_bare`, `Scanner.braced_length`, `Scanner.braced_plain`,
`Scanner.braced_operator`), and so are the arguments of an operator.
-/

namespace ParameterExpansion

/-- A computation that ends well has a first step that does. -/
theorem exists_of_bind_eq_ok {ε α β : Type} {x : Except ε α} {f : α → Except ε β} {b : β}
    (h : (x >>= f) = .ok b) : ∃ a, x = .ok a ∧ f a = .ok b := by
  cases x with
  | error => cases h
  | ok a => exact ⟨a, rfl, h⟩

/-- How a text goes on in a context: it is over, the pieces end, there is an escape or a reference,
or the next character means itself. -/
theorem Context.cases (context : Context) (t : Text) :
    t = [] ∨ (∃ c rest, t = c :: rest ∧ context.Ends c) ∨
    (∃ e rest, t = '\\' :: e :: rest ∧ context.Escapable e) ∨ OpensReference t ∨
    ∃ c rest, t = c :: rest ∧ context.Literal c rest := by
  cases t with
  | nil => exact .inl rfl
  | cons c rest =>
    by_cases hends : context.Ends c
    · exact .inr (.inl ⟨c, rest, rfl, hends⟩)
    by_cases hesc : ∃ e tail, c :: rest = '\\' :: e :: tail ∧ context.Escapable e
    · exact .inr (.inr (.inl hesc))
    by_cases hopens : OpensReference (c :: rest)
    · exact .inr (.inr (.inr (.inl hopens)))
    refine .inr (.inr (.inr (.inr ⟨c, rest, rfl, hends, hopens, ?_⟩)))
    rintro rfl e he hescapable
    obtain ⟨tail, rfl⟩ := List.head?_eq_some_iff.1 he
    exact hesc ⟨e, tail, rfl, hescapable⟩

/-- A name does not start with the symbol of the length. -/
theorem IsName.head?_append_ne {n : Text} (hn : IsName n) (rest : Text) :
    (n ++ rest).head? ≠ some '#' := by
  intro h
  obtain ⟨tail, htail⟩ := List.head?_eq_some_iff.1 h
  exact hn.append_ne (by decide) htail

/-- What separates arguments is the separator. -/
theorem Operator.separates_iff {op : Operator} {t : Text} :
    op.separates t = true ↔ ∃ c rest, t = c :: rest ∧ op.separator = some c := by
  cases t with
  | nil => simp [separates]
  | cons c rest => simp [separates]

/-- Neither the end of a text nor a closing brace separates arguments. -/
theorem Operator.separates_eq_false (op : Operator) {rest : Text}
    (h : ∀ c, rest.head? = some c → c = '}') : op.separates rest = false := by
  cases rest with
  | nil => simp [separates]
  | cons c rest =>
    obtain rfl := h c rfl
    simpa [separates] using op.separator_ne

namespace Scanner

section
variable {limit : NestingLimit} {context : Context} {p depth : Nat}

/-! ## Pieces -/

/-- At the end there are no pieces. -/
theorem pieces_nil :
    pieces limit context ⟨[], p, depth⟩ = .ok ([], ⟨[], p, depth⟩) := by
  rw [pieces_eq]

/-- A character that ends the pieces is left unread. -/
theorem pieces_of_ends {c : Char} {rest : Text} (h : context.Ends c) :
    pieces limit context ⟨c :: rest, p, depth⟩ = .ok ([], ⟨c :: rest, p, depth⟩) := by
  rw [pieces_eq]
  simp only [Context.stops_iff.2 h, if_true]

/-- An escape is read as the character behind the backslash. -/
theorem pieces_of_escapable (hr : context.Regular) {e : Char} {rest : Text}
    (h : context.Escapable e) :
    pieces limit context ⟨'\\' :: e :: rest, p, depth⟩ =
      (pieces limit context ⟨rest, p + 2, depth⟩ >>= fun r => .ok (.char e :: r.1, r.2)) := by
  have hstop : context.stops '\\' = false := by
    simpa [← Context.stops_iff] using hr.backslash
  rw [pieces_eq]
  simp only [hstop, Bool.false_eq_true, if_false, Context.escaped?_eq_some_iff.2 ⟨rest, rfl, h⟩]
  rfl

/-- Nothing but a backslash starts an escape. -/
theorem escaped?_eq_none {c : Char} {rest : Text}
    (h : c = '\\' → ∀ e, rest.head? = some e → ¬ context.Escapable e) :
    context.escaped? (c :: rest) = none := by
  rw [Option.eq_none_iff_forall_not_mem]
  intro e he
  obtain ⟨tail, heq, hesc⟩ := Context.escaped?_eq_some_iff.1 he
  cases heq
  exact h rfl e rfl hesc

/-- A reference is read, and the pieces go on behind it. -/
theorem pieces_of_opens (hr : context.Regular) {rest : Text} (h : OpensReference rest) :
    pieces limit context ⟨rest, p, depth⟩ =
      (reference limit ⟨rest, p, depth⟩ >>= fun r =>
        pieces limit context r.2 >>= fun q => .ok (.reference r.1 :: q.1, q.2)) := by
  have hstart := startsReference_iff.2 h
  obtain ⟨c, tail, rfl, -⟩ := h
  have hstop : context.stops '$' = false := by
    simpa [← Context.stops_iff] using hr.dollar
  have hesc : context.escaped? ('$' :: c :: tail) = none :=
    escaped?_eq_none fun h => absurd h (by decide)
  rw [pieces_eq]
  simp only [hstop, Bool.false_eq_true, if_false, hstart, if_true, hesc]

/-- A character that means itself is read as it is. -/
theorem pieces_of_literal {c : Char} {rest : Text} (h : context.Literal c rest) :
    pieces limit context ⟨c :: rest, p, depth⟩ =
      (pieces limit context ⟨rest, p + 1, depth⟩ >>= fun r => .ok (.char c :: r.1, r.2)) := by
  have hstop : context.stops c = false := by
    simpa [← Context.stops_iff] using h.not_ends
  have hstart : startsReference (c :: rest) = false := by
    simpa [← startsReference_iff] using h.not_opens
  rw [pieces_eq]
  simp only [hstop, Bool.false_eq_true, if_false, hstart, escaped?_eq_none h.not_escape]
  rfl

/-! ## References -/

/-- A dollar sign with an opening brace behind it starts a braced reference. -/
theorem reference_cons_brace {rest : Text} :
    reference limit ⟨'$' :: '{' :: rest, p, depth⟩ =
      braced limit ⟨'$' :: '{' :: rest, p, depth⟩ := by
  rw [reference_eq]
  rfl

/-- `braced_eq` at a text that starts like a braced reference. -/
theorem braced_cons {rest : Text} :
    braced limit ⟨'$' :: '{' :: rest, p, depth⟩ =
      (if limit.levels < depth + 1 then
        .error ⟨⟨.nestedTooDeep limit.levels, p⟩, ⟨'$' :: '{' :: rest, p, depth + 1⟩⟩
      else if rest.head? = some '#' then do
        let (n, t) ← name ⟨rest.drop 1, p + 2 + 1, depth + 1⟩
        let u ← t.1.close p
        .ok (.reference n lengthSymbol [] (sliceTo ⟨'$' :: '{' :: rest, p, depth⟩ u) p, u.1)
      else do
        let (n, t) ← name ⟨rest, p + 2, depth + 1⟩
        if t.1.rest.head? = some '}' then
          let u ← t.1.close p
          .ok (.reference n [] [] (sliceTo ⟨'$' :: '{' :: rest, p, depth⟩ u) p, u.1)
        else
          let (op, u) ← t.1.operator p
          let (nodes, v) ← arguments limit op op.maxArguments u
          let w ← v.close p
          .ok (.reference n op.symbol nodes (sliceTo ⟨'$' :: '{' :: rest, p, depth⟩ w) p, w.1)) :=
  braced_eq limit ⟨'$' :: '{' :: rest, p, depth⟩

end

/-! ## Names, closing braces and symbols -/

section
variable {s : Scanner} {start p depth : Nat}

/-- A name is read where one stands. -/
theorem name_append (p depth : Nat) {n after : Text} (hn : IsName n) (ha : EndsName after) :
    ∃ h, name ⟨n ++ after, p, depth⟩ = .ok (n, ⟨⟨after, p + n.length, depth⟩, h⟩) := by
  obtain ⟨c, rest, rfl, hc⟩ := hn.exists_cons
  have htake : (rest ++ after).takeWhile isNameChar = rest := by
    rw [List.takeWhile_append_of_pos hn.2]
    cases after with
    | nil => simp
    | cons d after => simp [ha d rfl]
  refine ⟨by simp only [List.cons_append, List.length_cons, List.length_append]; omega, ?_⟩
  unfold name
  simp [hc, htake, advance]

/-- A name that is read is as long as it can be. -/
theorem name_ok {n : Text} {t : Below s} (h : s.name = .ok (n, t)) :
    IsName n ∧ ∃ after hlt, s.rest = n ++ after ∧ EndsName after ∧
      t = ⟨⟨after, s.position + n.length, s.depth⟩, hlt⟩ := by
  obtain ⟨rest, p, depth⟩ := s
  obtain ⟨m, after, rfl, hm, hends⟩ :
      ∃ m after, rest = m ++ after ∧ IsName m ∧ EndsName after := by
    cases rest with
    | nil => cases h
    | cons c tail =>
      by_cases hc : isNameStart c = true
      · exact exists_name hc tail
      · simp [name, hc] at h
  obtain ⟨hlt, hname⟩ := name_append p depth hm hends
  rw [hname] at h
  cases h
  exact ⟨hm, after, hlt, rfl, hends, rfl⟩

/-- A closing brace that is read stood there. -/
theorem close_ok {t : Below s} (h : s.close start = .ok t) :
    ∃ after hlt, s.rest = '}' :: after ∧ t = ⟨⟨after, s.position + 1, s.depth - 1⟩, hlt⟩ := by
  unfold close at h
  split at h
  · cases h
  · next c rest hs =>
    split at h
    · next hc =>
      cases h
      exact ⟨rest, _, by rw [hs, hc], rfl⟩
    · cases h

/-- A closing brace is read where one stands. -/
theorem close_cons {after : Text} :
    close ⟨'}' :: after, p, depth⟩ start =
      .ok ⟨⟨after, p + 1, depth - 1⟩, Nat.lt_succ_self _⟩ := rfl

/-- An operator that is read has the longest symbol. -/
theorem operator_ok {op : Operator} {t : AtMost s} (h : s.operator start = .ok (op, t)) :
    ∃ after hle, s.rest = op.symbol ++ after ∧ op.IsLongest s.rest ∧
      t = ⟨⟨after, s.position + op.symbol.length, s.depth⟩, hle⟩ := by
  unfold operator at h
  split at h
  · cases h
  · next c rest hs =>
    split at h
    · cases h
    · next o ho =>
      cases h
      have hlongest := Operator.leading?_eq_some_iff.1 ho
      obtain ⟨after, hafter⟩ := hlongest.1
      refine ⟨after, by simp [← hafter], hafter.symm, hlongest, ?_⟩
      simp [advance, ← hafter]

/-- An operator is read where its symbol is the longest one. -/
theorem operator_append {op : Operator} {rest : Text} (h : op.IsLongest (op.symbol ++ rest)) :
    ∃ hle, operator ⟨op.symbol ++ rest, p, depth⟩ start =
      .ok (op, ⟨⟨rest, p + op.symbol.length, depth⟩, hle⟩) := by
  refine ⟨by simp, ?_⟩
  unfold operator
  have := op.length_symbol.1
  split
  · next hs =>
    simp only [List.append_eq_nil_iff] at hs
    simp [hs.1] at this
  · simp [Operator.leading?_eq_some_iff.2 h, advance]

/-- The slice between two places is the text between them. -/
theorem sliceTo_append {u after after' : Text} {depth' : Nat} :
    sliceTo ⟨u ++ after, p, depth⟩ ⟨after', p + u.length, depth'⟩ = u := by
  simp [sliceTo]

/-- A bare reference is read where one stands. -/
theorem reference_bare {limit : NestingLimit} {n after : Text} (hn : IsName n)
    (ha : EndsName after) :
    reference limit ⟨'$' :: (n ++ after), p, depth⟩ =
      .ok (.reference n [] [] ('$' :: n) p, ⟨after, p + ('$' :: n).length, depth⟩) := by
  have hne : ¬ (advance ⟨'$' :: (n ++ after), p, depth⟩ 1).rest.head? = some '{' := by
    obtain ⟨c, rest, rfl, hc⟩ := hn.exists_cons
    rintro h
    cases h
    revert hc
    decide
  obtain ⟨_, hname⟩ := name_append (p + 1) depth hn ha
  have hposition := (offset_cons p '$' n).symm
  have hsource : '$' :: (n ++ after) = ('$' :: n) ++ after := rfl
  rw [reference_eq, if_neg hne]
  show (name ⟨n ++ after, p + 1, depth⟩ >>= _) = _
  rw [hname]
  simp only [bind, Except.bind, hsource, hposition, sliceTo_append]

end

/-! ## Braced references and arguments -/

section
variable {limit : NestingLimit} {op : Operator} {n after : Text} {p depth : Nat}

/-- Behind a name whose length is asked for, a closing brace is read. -/
theorem braced_hash (hn : IsName n) (ha : EndsName after) (hdepth : depth + 1 ≤ limit.levels) :
    braced limit ⟨'$' :: '{' :: '#' :: (n ++ after), p, depth⟩ =
      (close ⟨after, p + 2 + 1 + n.length, depth + 1⟩ p >>= fun u =>
        .ok (.reference n lengthSymbol []
          (sliceTo ⟨'$' :: '{' :: '#' :: (n ++ after), p, depth⟩ u.1) p, u.1)) := by
  obtain ⟨_, hname⟩ := name_append (p + 2 + 1) (depth + 1) hn ha
  rw [braced_cons, if_neg (Nat.not_lt.2 hdepth), if_pos List.head?_cons]
  show (name ⟨n ++ after, p + 2 + 1, depth + 1⟩ >>= _) = _
  rw [hname]
  rfl

/-- A reference to a length is read where one stands. -/
theorem braced_length (hn : IsName n) (hdepth : depth + 1 ≤ limit.levels) :
    braced limit ⟨inBraces ('#' :: n) ++ after, p, depth⟩ =
      .ok (.reference n lengthSymbol [] (inBraces ('#' :: n)) p,
        ⟨after, p + (inBraces ('#' :: n)).length, depth⟩) := by
  have hsource : '$' :: '{' :: '#' :: (n ++ '}' :: after) = inBraces ('#' :: n) ++ after :=
    (inBraces_append ('#' :: n) after).symm
  have hposition : p + 2 + 1 + n.length + 1 = p + (inBraces ('#' :: n)).length := by
    rw [offset_inBraces, offset_cons]
  rw [← hsource, braced_hash hn (endsName_brace after) hdepth]
  simp only [bind, Except.bind, close_cons, hposition, Nat.add_sub_cancel, hsource, sliceTo_append]

/-- A plain reference is read where one stands. -/
theorem braced_plain (hn : IsName n) (hdepth : depth + 1 ≤ limit.levels) :
    braced limit ⟨inBraces n ++ after, p, depth⟩ =
      .ok (.reference n [] [] (inBraces n) p, ⟨after, p + (inBraces n).length, depth⟩) := by
  obtain ⟨_, hname⟩ := name_append (p + 2) (depth + 1) hn (endsName_brace after)
  have hsource : '$' :: '{' :: (n ++ '}' :: after) = inBraces n ++ after :=
    (inBraces_append n after).symm
  have hposition := (offset_inBraces p n).symm
  rw [← hsource, braced_cons, if_neg (Nat.not_lt.2 hdepth), if_neg (hn.head?_append_ne _), hname]
  simp only [bind, Except.bind, List.head?_cons, if_true, close_cons, hposition,
    Nat.add_sub_cancel, hsource, sliceTo_append]

/-- Behind a name that no closing brace follows, an operator is read, its arguments, and a closing
brace. -/
theorem braced_name (hn : IsName n) (ha : EndsName after) (hbrace : after.head? ≠ some '}')
    (hdepth : depth + 1 ≤ limit.levels) :
    braced limit ⟨'$' :: '{' :: (n ++ after), p, depth⟩ = (do
      let (op, u) ← operator ⟨after, p + 2 + n.length, depth + 1⟩ p
      let (nodes, v) ← arguments limit op op.maxArguments u
      let w ← v.close p
      .ok (.reference n op.symbol nodes (sliceTo ⟨'$' :: '{' :: (n ++ after), p, depth⟩ w) p,
        w.1)) := by
  obtain ⟨_, hname⟩ := name_append (p + 2) (depth + 1) hn ha
  rw [braced_cons, if_neg (Nat.not_lt.2 hdepth), if_neg (hn.head?_append_ne _), hname]
  simp only [bind, Except.bind, if_neg hbrace]

/-- Behind a name and a symbol, the arguments of the operator are read, and a closing brace. -/
theorem braced_symbol {u : Text} (hn : IsName n) (hop : op.IsLongest (op.symbol ++ u))
    (hdepth : depth + 1 ≤ limit.levels) :
    braced limit ⟨'$' :: '{' :: (n ++ (op.symbol ++ u)), p, depth⟩ = (do
      let (nodes, v) ←
        arguments limit op op.maxArguments ⟨u, p + 2 + n.length + op.symbol.length, depth + 1⟩
      let w ← v.close p
      .ok (.reference n op.symbol nodes
        (sliceTo ⟨'$' :: '{' :: (n ++ (op.symbol ++ u)), p, depth⟩ w) p, w.1)) := by
  obtain ⟨_, hsymbol⟩ := @operator_append p (p + 2 + n.length) (depth + 1) _ _ hop
  have hbrace : (op.symbol ++ u).head? ≠ some '}' := by
    intro h
    obtain ⟨tail, htail⟩ := List.head?_eq_some_iff.1 h
    exact op.symbol_append_ne _ _ htail
  rw [braced_name hn (op.endsName_symbol u) hbrace hdepth, hsymbol]
  rfl

/-- A reference with an operator is read where one stands, once its arguments are. -/
theorem braced_operator {u : Text} {nodes : List Node} (hn : IsName n)
    (hop : op.IsLongest (op.symbol ++ (u ++ '}' :: after))) (hdepth : depth + 1 ≤ limit.levels)
    (hargs : arguments limit op op.maxArguments
      ⟨u ++ '}' :: after, p + 2 + n.length + op.symbol.length, depth + 1⟩ =
      .ok (nodes, ⟨'}' :: after, p + 2 + n.length + op.symbol.length + u.length, depth + 1⟩)) :
    braced limit ⟨inBraces (n ++ (op.symbol ++ u)) ++ after, p, depth⟩ =
      .ok (.reference n op.symbol nodes (inBraces (n ++ (op.symbol ++ u))) p,
        ⟨after, p + (inBraces (n ++ (op.symbol ++ u))).length, depth⟩) := by
  have hsource : '$' :: '{' :: (n ++ (op.symbol ++ (u ++ '}' :: after))) =
      inBraces (n ++ (op.symbol ++ u)) ++ after := by
    rw [inBraces_append, List.append_assoc, List.append_assoc]
  have hposition := (offset_operator p n op.symbol u).symm
  rw [← hsource, braced_symbol hn hop hdepth, hargs]
  simp only [bind, Except.bind, close_cons, hposition, Nat.add_sub_cancel, hsource, sliceTo_append]

/-- A last argument is read once its pieces are. -/
theorem arguments_last {s t : Scanner} {ps : List Piece}
    (h : pieces limit (.argument op.separator false) s = .ok (ps, t)) :
    arguments limit op 1 s = .ok ([.ofPieces ps], t) := by
  rw [arguments_succ]
  show (pieces limit (.argument op.separator false) s >>= _) = _
  rw [h]
  rfl

/-- The first of two arguments is read alone if no separator ends it. -/
theorem arguments_single {s t : Scanner} {ps : List Piece}
    (h : pieces limit (.argument op.separator true) s = .ok (ps, t))
    (hsep : op.separates t.rest = false) :
    arguments limit op 2 s = .ok ([.ofPieces ps], t) := by
  rw [arguments_succ]
  show (pieces limit (.argument op.separator true) s >>= _) = _
  rw [h]
  simp [bind, Except.bind, hsep]

/-- The second of two arguments is read behind the separator. -/
theorem arguments_pair {s : Scanner} {ps : List Piece} {c : Char}
    (h : pieces limit (.argument op.separator true) s = .ok (ps, ⟨c :: after, p, depth⟩))
    (hc : op.separator = some c) :
    arguments limit op 2 s =
      (arguments limit op 1 ⟨after, p + 1, depth⟩ >>= fun r => .ok (.ofPieces ps :: r.1, r.2)) := by
  have hsep := Operator.separates_iff.2 ⟨c, after, rfl, hc⟩
  rw [arguments_succ]
  show (pieces limit (.argument op.separator true) s >>= _) = _
  rw [h]
  simp only [bind, Except.bind, hsep, advance, Nat.zero_lt_one, and_self, if_true]
  rfl

end

end Scanner

end ParameterExpansion

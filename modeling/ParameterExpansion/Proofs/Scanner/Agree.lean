import ParameterExpansion.Proofs.Grammar.Unambiguous
import ParameterExpansion.Proofs.Scanner.Step

/-!
# The scanner reads the grammar

What `Scanner.pieces` reads is derived by the grammar, up to where the pieces end and within the
nesting limit (`Scanner.pieces_sound`), and what the grammar derives within the limit is read
(`Scanner.pieces_complete`), also where the pieces go on behind it (`Scanner.pieces_append`).
Soundness is an induction on the length of what is left: a reference and its arguments are sound as
soon as the pieces of every shorter rest are. Completeness is an induction on the derivation.
-/

namespace ParameterExpansion.Scanner

section
variable {limit : NestingLimit} {op : Operator} {rest : Text} {p depth : Nat}

/-! ## Soundness -/

/-- Whatever pieces are read of `rest` are derived. -/
def PiecesSound (limit : NestingLimit) (rest : Text) : Prop :=
  ∀ p depth context ps t, pieces limit context ⟨rest, p, depth⟩ = .ok (ps, t) → context.Regular →
    depth ≤ limit.levels →
    ∃ u after d, rest = u ++ after ∧ t = ⟨after, p + u.length, depth⟩ ∧
      Pieces context p u after ps d ∧ depth + d ≤ limit.levels ∧ context.EndsAt after

/-- A last argument that is read is derived, and the closing brace ends it, or the text does. -/
theorem lastArgument_sound {nodes : List Node} {t : Scanner} (ih : PiecesSound limit rest)
    (h : arguments limit op 1 ⟨rest, p, depth⟩ = .ok (nodes, t)) (hdepth : depth ≤ limit.levels) :
    ∃ u after ps d, rest = u ++ after ∧ t = ⟨after, p + u.length, depth⟩ ∧
      nodes = [.ofPieces ps] ∧ Pieces (.argument op.separator false) p u after ps d ∧
      depth + d ≤ limit.levels ∧ ∀ c, after.head? = some c → c = '}' := by
  rw [arguments_succ] at h
  obtain ⟨⟨ps, t'⟩, hp, h⟩ := exists_of_bind_eq_ok h
  cases h
  obtain ⟨u, after, d, hrest, ht, hps, hd, hends⟩ :=
    ih _ _ _ _ _ hp (Context.regular_argument op _) hdepth
  refine ⟨u, after, ps, d, hrest, ht, rfl, hps, hd, fun c hc => ?_⟩
  exact (hends c hc).resolve_right fun h => nomatch h.1

/-- Arguments that are read are derived, and the closing brace ends them, or the text does. -/
theorem arguments_sound {nodes : List Node} {t : Scanner}
    (ih : ∀ rest' : Text, rest'.length ≤ rest.length → PiecesSound limit rest')
    (h : arguments limit op op.maxArguments ⟨rest, p, depth⟩ = .ok (nodes, t))
    (hdepth : depth ≤ limit.levels) :
    ∃ u after d, rest = u ++ after ∧ t = ⟨after, p + u.length, depth⟩ ∧
      Arguments op p u after nodes d ∧ depth + d ≤ limit.levels ∧
      (0 < op.maxArguments → ∀ c, after.head? = some c → c = '}') := by
  have hcount : op.maxArguments = 0 ∨ op.maxArguments = 1 ∨ op.maxArguments = 2 := by
    have := op.maxArguments_le
    omega
  rcases hcount with h0 | h1 | h2
  · rw [h0, arguments_zero] at h
    cases h
    exact ⟨[], rest, 0, rfl, rfl, .none h0, hdepth, by omega⟩
  · rw [h1] at h
    obtain ⟨u, after, ps, d, hrest, ht, rfl, hps, hd, hends⟩ :=
      lastArgument_sound (ih rest (Nat.le_refl _)) h hdepth
    refine ⟨u, after, d, hrest, ht, .one (by omega) ?_, hd, fun _ => hends⟩
    rw [h1]
    exact hps
  · rw [h2, arguments_succ] at h
    obtain ⟨⟨ps, t'⟩, hp, h⟩ := exists_of_bind_eq_ok h
    obtain ⟨u, after, d, rfl, rfl, hps, hd, hends⟩ :=
      ih rest (Nat.le_refl _) _ _ _ _ _ hp (Context.regular_argument op _) hdepth
    dsimp only at h
    by_cases hsep : 0 < 1 ∧ op.separates after
    · rw [if_pos hsep] at h
      obtain ⟨⟨nodes', t''⟩, hq, h⟩ := exists_of_bind_eq_ok h
      cases h
      obtain ⟨c, tail, rfl, hc⟩ := Operator.separates_iff.1 hsep.2
      obtain ⟨v, after', qs, e, rfl, rfl, rfl, hqs, he, hends⟩ :=
        lastArgument_sound (ih tail (by simp only [List.length_append, List.length_cons]; omega))
          hq hdepth
      refine ⟨u ++ c :: v, after', max d e, by simp, ?_, .two h2 hc hps hqs, ?_, fun _ => hends⟩
      · simp only [List.length_append, List.length_cons, mk.injEq, and_true, true_and]
        omega
      · have he : depth + e ≤ limit.levels := he
        omega
    · rw [if_neg hsep] at h
      cases h
      refine ⟨u, after, d, rfl, rfl, .one (by omega) ?_, hd, fun _ c hc => ?_⟩
      · rw [h2]
        exact hps
      · obtain ⟨tail, rfl⟩ := List.head?_eq_some_iff.1 hc
        refine (hends c hc).resolve_right fun h => hsep ⟨Nat.zero_lt_one, ?_⟩
        exact Operator.separates_iff.2 ⟨c, tail, rfl, h.2⟩

/-- A braced reference that is read is derived. What was read of it shows which form it has, and
then the equation of that form says what it was read as. -/
theorem braced_sound {node : Node} {t : Scanner}
    (ih : ∀ rest' : Text, rest'.length ≤ rest.length → PiecesSound limit rest')
    (h : braced limit ⟨'$' :: '{' :: rest, p, depth⟩ = .ok (node, t)) :
    ∃ u after d, '$' :: '{' :: rest = u ++ after ∧ t = ⟨after, p + u.length, depth⟩ ∧
      Refers p u after node d ∧ depth + d ≤ limit.levels := by
  have hread := h
  rw [braced_cons] at h
  split at h
  · cases h
  next hlevel =>
  have hlevel : depth + 1 ≤ limit.levels := Nat.not_lt.1 hlevel
  split at h
  · next hhash =>
    obtain ⟨tail, rfl⟩ := List.head?_eq_some_iff.1 hhash
    obtain ⟨⟨n, t₁⟩, hn, h⟩ := exists_of_bind_eq_ok h
    obtain ⟨t₂, hclose, -⟩ := exists_of_bind_eq_ok h
    obtain ⟨hname, behind, _, hrest, -, rfl⟩ := name_ok hn
    obtain ⟨after, _, hafter, -⟩ := close_ok hclose
    obtain rfl : behind = '}' :: after := hafter
    obtain rfl : tail = n ++ '}' :: after := hrest
    have hsource : '$' :: '{' :: '#' :: (n ++ '}' :: after) = inBraces ('#' :: n) ++ after :=
      (inBraces_append ('#' :: n) after).symm
    rw [hsource] at hread ⊢
    rw [braced_length hname hlevel] at hread
    cases hread
    exact ⟨_, after, 1, rfl, rfl, .length hname, hlevel⟩
  obtain ⟨⟨n, t₁⟩, hn, h⟩ := exists_of_bind_eq_ok h
  obtain ⟨hname, behind, _, rfl, -, rfl⟩ := name_ok hn
  dsimp only at h
  split at h
  · obtain ⟨t₂, hclose, -⟩ := exists_of_bind_eq_ok h
    obtain ⟨after, _, hafter, -⟩ := close_ok hclose
    obtain rfl : behind = '}' :: after := hafter
    rw [← inBraces_append] at hread ⊢
    rw [braced_plain hname hlevel] at hread
    cases hread
    exact ⟨_, after, 1, rfl, rfl, .plain hname, hlevel⟩
  obtain ⟨⟨op, t₂⟩, hop, h⟩ := exists_of_bind_eq_ok h
  obtain ⟨⟨nodes, t₃⟩, harg, h⟩ := exists_of_bind_eq_ok h
  obtain ⟨t₄, hclose, -⟩ := exists_of_bind_eq_ok h
  obtain ⟨written, _, hwritten, hlongest, rfl⟩ := operator_ok hop
  obtain rfl : behind = op.symbol ++ written := hwritten
  obtain ⟨u, behind, d, rfl, rfl, hargs, hd, -⟩ := arguments_sound
    (fun rest' hle => ih rest' (by simp only [List.length_append]; omega)) harg hlevel
  obtain ⟨after, _, hafter, -⟩ := close_ok hclose
  obtain rfl : behind = '}' :: after := hafter
  have hsource : '$' :: '{' :: (n ++ (op.symbol ++ (u ++ '}' :: after))) =
      inBraces (n ++ (op.symbol ++ u)) ++ after := by
    rw [inBraces_append, List.append_assoc, List.append_assoc]
  have hd : depth + 1 + d ≤ limit.levels := hd
  rw [hsource] at hread ⊢
  rw [braced_operator hname hlongest hlevel harg] at hread
  cases hread
  exact ⟨_, after, d + 1, rfl, rfl, .operator hname hlongest hargs, by omega⟩

/-- A reference that is read is derived. -/
theorem reference_sound {node : Node} {t : Scanner}
    (ih : ∀ rest' : Text, rest'.length < rest.length → PiecesSound limit rest')
    (hopens : OpensReference rest) (h : reference limit ⟨rest, p, depth⟩ = .ok (node, t))
    (hdepth : depth ≤ limit.levels) :
    ∃ u after d, rest = u ++ after ∧ t = ⟨after, p + u.length, depth⟩ ∧
      Refers p u after node d ∧ depth + d ≤ limit.levels := by
  obtain ⟨c, tail, rfl, rfl | hc⟩ := hopens
  · rw [reference_cons_brace] at h
    exact braced_sound (fun rest' hle => ih rest' (by simp only [List.length_cons]; omega)) h
  · obtain ⟨n, after, hrest, hname, hends⟩ := exists_name hc tail
    rw [hrest, reference_bare hname hends] at h
    cases h
    rw [hrest]
    exact ⟨'$' :: n, after, 0, rfl, rfl, .bare hname hends, hdepth⟩

/-- Pieces that are read are derived. -/
theorem pieces_sound (rest : Text) : PiecesSound limit rest := by
  induction hlen : rest.length using Nat.strongRecOn generalizing rest with
  | ind m ih =>
    subst hlen
    have ih : ∀ rest' : Text, rest'.length < rest.length → PiecesSound limit rest' :=
      fun rest' hlt => ih _ hlt rest' rfl
    intro p depth context ps t h hr hdepth
    rcases context.cases rest with rfl | ⟨c, tail, rfl, hends⟩ | ⟨e, tail, rfl, hesc⟩ | hopens |
      ⟨c, tail, rfl, hlit⟩
    · rw [pieces_nil] at h
      cases h
      exact ⟨[], [], 0, rfl, rfl, .nil, hdepth, Context.endsAt_nil _⟩
    · rw [pieces_of_ends hends] at h
      cases h
      refine ⟨[], c :: tail, 0, rfl, rfl, .nil, hdepth, ?_⟩
      rintro d hd
      cases hd
      exact hends
    · rw [pieces_of_escapable hr hesc] at h
      obtain ⟨⟨qs, t₁⟩, hq, h⟩ := exists_of_bind_eq_ok h
      cases h
      obtain ⟨u, after, d, rfl, rfl, hqs, hd, hend⟩ :=
        ih tail (by simp only [List.length_cons]; omega) _ _ _ _ _ hq hr hdepth
      rw [← offset_cons_cons p '\\' e u]
      exact ⟨'\\' :: e :: u, after, d, rfl, rfl, .escape hesc hqs, hd, hend⟩
    · rw [pieces_of_opens hr hopens] at h
      obtain ⟨⟨node, t₁⟩, hnode, h⟩ := exists_of_bind_eq_ok h
      obtain ⟨⟨qs, t₂⟩, hq, h⟩ := exists_of_bind_eq_ok h
      cases h
      obtain ⟨u, tail, d, rfl, rfl, href, hd⟩ := reference_sound ih hopens hnode hdepth
      have hpos := href.length_pos
      obtain ⟨v, after, e, rfl, rfl, hqs, he, hend⟩ :=
        ih tail (by simp only [List.length_append]; omega) _ _ _ _ _ hq hr hdepth
      refine ⟨u ++ v, after, max d e, by simp, by simp [Nat.add_assoc], .reference href hqs, ?_,
        hend⟩
      omega
    · rw [pieces_of_literal hlit] at h
      obtain ⟨⟨qs, t₁⟩, hq, h⟩ := exists_of_bind_eq_ok h
      cases h
      obtain ⟨u, after, d, rfl, rfl, hqs, hd, hend⟩ :=
        ih tail (Nat.lt_succ_self _) _ _ _ _ _ hq hr hdepth
      rw [← offset_cons p c u]
      exact ⟨c :: u, after, d, rfl, rfl, .char hlit hqs, hd, hend⟩

end

/-! ## Completeness -/

/-- A scan that goes on behind some pieces has read these when nothing more is to be read there. -/
theorem pieces_of_endsAt {limit : NestingLimit} {context : Context} {s : Scanner} {after : Text}
    {p depth : Nat} {ps : List Piece}
    (h : pieces limit context s =
      (pieces limit context ⟨after, p, depth⟩ >>= fun r => .ok (ps ++ r.1, r.2)))
    (hends : context.EndsAt after) : pieces limit context s = .ok (ps, ⟨after, p, depth⟩) := by
  have hnone : pieces limit context ⟨after, p, depth⟩ = .ok ([], ⟨after, p, depth⟩) := by
    cases after with
    | nil => exact pieces_nil
    | cons c rest => exact pieces_of_ends (hends c rfl)
  rw [h, hnone]
  show Except.ok (ps ++ [], _) = _
  rw [List.append_nil]

mutual

/-- Pieces that are derived are read, and the scan goes on behind them. -/
theorem pieces_append (limit : NestingLimit) : ∀ {context p t after ps d},
    Pieces context p t after ps d → ∀ depth, context.Regular → depth + d ≤ limit.levels →
      pieces limit context ⟨t ++ after, p, depth⟩ =
        (pieces limit context ⟨after, p + t.length, depth⟩ >>= fun r => .ok (ps ++ r.1, r.2))
  | context, p, _, after, _, _, .nil, depth, _, _ => by
    show pieces limit context ⟨after, p, depth⟩ = (pieces limit context ⟨after, p, depth⟩ >>= _)
    cases pieces limit context ⟨after, p, depth⟩ <;> rfl
  | context, p, _, after, _, _, .char (c := c) (t := t) hl hp, depth, hr, hd => by
    have ih := pieces_append limit hp depth hr hd
    rw [List.cons_append, pieces_of_literal hl, ih, offset_cons]
    cases pieces limit context ⟨after, p + 1 + t.length, depth⟩ <;> rfl
  | context, p, _, after, _, _, .escape (c := c) (t := t) he hp, depth, hr, hd => by
    have ih := pieces_append limit hp depth hr hd
    rw [List.cons_append, List.cons_append, pieces_of_escapable hr he, ih, offset_cons_cons]
    cases pieces limit context ⟨after, p + 2 + t.length, depth⟩ <;> rfl
  | context, p, _, after, _, _, .reference (u := u) (t := t) hu hp, depth, hr, hd => by
    have ihu := reference_complete limit hu depth (by omega)
    have ihp := pieces_append limit hp depth hr (by omega)
    rw [List.append_assoc, pieces_of_opens hr (hu.opens _), ihu]
    show (pieces limit context ⟨t ++ after, p + u.length, depth⟩ >>= _) = _
    rw [ihp, offset_append]
    cases pieces limit context ⟨after, p + u.length + t.length, depth⟩ <;> rfl

/-- A reference that is derived is read. -/
theorem reference_complete (limit : NestingLimit) : ∀ {p t after node d},
    Refers p t after node d → ∀ depth, depth + d ≤ limit.levels →
      reference limit ⟨t ++ after, p, depth⟩ = .ok (node, ⟨after, p + t.length, depth⟩)
  | _, _, _, _, _, .bare hn ha, _, _ => reference_bare hn ha
  | _, _, _, _, _, .plain hn, _, hd => by
    rw [inBraces_append, reference_cons_brace, ← inBraces_append, braced_plain hn hd]
  | _, _, _, _, _, .length hn, _, hd => by
    rw [inBraces_append, reference_cons_brace, ← inBraces_append, braced_length hn hd]
  | _, _, _, _, _, .operator hn hop harg, depth, hd => by
    have ih := arguments_complete limit harg (depth + 1) (by simp) (by omega)
    rw [inBraces_append, reference_cons_brace, ← inBraces_append,
      braced_operator hn hop (by omega) ih]

/-- Arguments that are derived are read, up to the closing brace or the end of the text. -/
theorem arguments_complete (limit : NestingLimit) : ∀ {op p t rest nodes d},
    Arguments op p t rest nodes d → ∀ depth,
      (0 < op.maxArguments → ∀ c, rest.head? = some c → c = '}') → depth + d ≤ limit.levels →
      arguments limit op op.maxArguments ⟨t ++ rest, p, depth⟩ =
        .ok (nodes, ⟨rest, p + t.length, depth⟩)
  | _, _, _, _, _, _, .none h0, _, _, _ => by
    rw [h0]
    exact arguments_zero _ _ _
  | op, _, _, _, _, _, .one h1 hp, depth, hrest, hd => by
    have ih := pieces_append limit hp depth (Context.regular_argument op _) hd
    have ih := pieces_of_endsAt ih fun c hc => .inl (hrest h1 c hc)
    have hcount : op.maxArguments = 1 ∨ op.maxArguments = 2 := by
      have := op.maxArguments_le
      omega
    rcases hcount with h | h <;> rw [h] at ih ⊢
    · exact arguments_last ih
    · exact arguments_single ih (op.separates_eq_false (hrest h1))
  | op, _, _, _, _, _, .two h2 hc hp hq, depth, hrest, hd => by
    have hr := Context.regular_argument op
    have ihp := pieces_append limit hp depth (hr _) (by omega)
    have ihq := pieces_append limit hq depth (hr _) (by omega)
    have ihp := pieces_of_endsAt ihp (Context.endsAt_separator hc _)
    have ihq := pieces_of_endsAt ihq fun c hc => .inl (hrest (by omega) c hc)
    rw [h2, List.append_assoc, List.cons_append, arguments_pair ihp hc, arguments_last ihq]
    simp [bind, Except.bind, Nat.add_assoc, Nat.add_comm 1]

end

/-- Pieces that are derived are read, up to where they end. -/
theorem pieces_complete (limit : NestingLimit) {context : Context} {p d : Nat} {t after : Text}
    {ps : List Piece} (h : Pieces context p t after ps d) (depth : Nat) (hr : context.Regular)
    (hends : context.EndsAt after) (hd : depth + d ≤ limit.levels) :
    pieces limit context ⟨t ++ after, p, depth⟩ = .ok (ps, ⟨after, p + t.length, depth⟩) :=
  pieces_of_endsAt (pieces_append limit h depth hr hd) hends

end ParameterExpansion.Scanner

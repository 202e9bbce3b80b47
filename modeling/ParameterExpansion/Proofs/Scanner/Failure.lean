import ParameterExpansion.Proofs.Grammar.Failure
import ParameterExpansion.Proofs.Scanner.Agree

/-!
# The scanner refuses what fails

When `Scanner.pieces` gives up, the grammar derives what was read, up to a braced reference that
fails with the error of the scan (`Scanner.pieces_failureSound`); and where a braced reference
fails, a scan that comes to it gives up with its error (`Fails.braced_eq`). Names, closing braces
and operators give up exactly where there are none (`Scanner.name_eq_error_iff`,
`Scanner.close_eq_error_iff`, `Scanner.operator_eq_error_iff`).
-/

namespace ParameterExpansion

/-- A computation gives up in its first step, or that one ends well and the rest gives up. -/
theorem eq_error_or_exists_of_bind {ε α β : Type} {x : Except ε α} {f : α → Except ε β} {e : ε}
    (h : (x >>= f) = .error e) : x = .error e ∨ ∃ a, x = .ok a ∧ f a = .error e := by
  cases x with
  | error e' =>
    cases h
    exact .inl rfl
  | ok a => exact .inr ⟨a, rfl, h⟩

/-- The first character of a symbol is a symbol. -/
theorem Operator.exists_symbol_eq_singleton {op : Operator} {c : Char}
    (h : op.symbol.head? = some c) : ∃ other : Operator, other.symbol = [c] := by
  have hfirst : ∀ op : Operator,
      Operator.all.any (fun other => other.symbol == op.symbol.take 1) = true := by
    intro op
    cases op <;> decide
  obtain ⟨other, -, hother⟩ := List.any_eq_true.1 (hfirst op)
  obtain ⟨rest, hrest⟩ := List.head?_eq_some_iff.1 h
  rw [beq_iff_eq, hrest] at hother
  exact ⟨other, hother⟩

/-- The search for an operator finds none exactly when no symbol starts with the first character. -/
theorem Operator.leading?_eq_none_iff {c : Char} {rest : Text} :
    Operator.leading? (c :: rest) = none ↔ ∀ op : Operator, op.symbol.head? ≠ some c := by
  rw [leading?, List.find?_eq_none]
  constructor
  · intro h op hop
    obtain ⟨other, hother⟩ := exists_symbol_eq_singleton hop
    exact h other (mem_longestFirst other) (by simp [hother])
  · intro h op _ hprefix
    obtain ⟨behind, hbehind⟩ := List.isPrefixOf_iff_prefix.1 hprefix
    have hlength := op.length_symbol.1
    cases hsymbol : op.symbol with
    | nil => simp [hsymbol] at hlength
    | cons b tail =>
      rw [hsymbol, List.cons_append] at hbehind
      refine h op ?_
      rw [hsymbol, List.head?_cons, (List.cons.inj hbehind).1]

namespace Scanner

/-! ## Names, closing braces and symbols -/

section
variable {s : Scanner} {start : Nat} {halt : Halt}

/-- Reading a name gives up exactly where no name starts. -/
theorem name_eq_error_iff :
    s.name = .error halt ↔
      (∀ c, s.rest.head? = some c → isNameStart c = false) ∧
        halt = s.halt .expectedName s.position := by
  unfold name
  split
  · next hs => simp [hs, @eq_comm _ halt]
  · next c rest hs => by_cases hc : isNameStart c = true <;> simp [hs, hc, @eq_comm _ halt]

/-- Reading a closing brace gives up exactly at the end and at any other character. -/
theorem close_eq_error_iff :
    s.close start = .error halt ↔
      (s.rest = [] ∧ halt = s.halt .unterminated start) ∨
        ∃ c rest, s.rest = c :: rest ∧ c ≠ '}' ∧
          halt = s.halt (.unexpectedCharacter c) s.position := by
  unfold close
  split
  · next hs => simp [hs, @eq_comm _ halt]
  · next c rest hs => by_cases hc : c = '}' <;> simp [hs, hc, @eq_comm _ halt]

/-- Reading an operator gives up exactly at the end and where no symbol starts. -/
theorem operator_eq_error_iff :
    s.operator start = .error halt ↔
      (s.rest = [] ∧ halt = s.halt .unterminated start) ∨
        ∃ c rest, s.rest = c :: rest ∧ (∀ op : Operator, op.symbol.head? ≠ some c) ∧
          halt = s.halt (.unknownOperator c) s.position := by
  unfold operator
  split
  · next hs => simp [hs, @eq_comm _ halt]
  · next c rest hs =>
    have hnone := @Operator.leading?_eq_none_iff c rest
    rw [← hs] at hnone
    split
    · next h => simp [hs, hnone.1 h, @eq_comm _ halt]
    · next op h =>
      have hsome : ¬ ∀ op : Operator, op.symbol.head? ≠ some c := by
        rw [← hnone, h]
        exact Option.some_ne_none op
      constructor
      · intro h
        cases h
      · rintro (⟨h, -⟩ | ⟨d, tail, h, hd, -⟩)
        · cases hs.symm.trans h
        · obtain ⟨rfl, rfl⟩ := List.cons.inj (hs.symm.trans h)
          exact absurd hd hsome

end

/-! ## A scan that gives up -/

section
variable {limit : NestingLimit} {op : Operator} {rest : Text} {p depth : Nat} {halt : Halt}

/-- When reading the pieces of `rest` gives up, they are derived up to a reference that fails. -/
def FailureSound (limit : NestingLimit) (rest : Text) : Prop :=
  ∀ p depth context halt, pieces limit context ⟨rest, p, depth⟩ = .error halt →
    context.Regular → depth ≤ limit.levels →
    ∃ u behind ps d, rest = u ++ behind ∧ Pieces context p u behind ps d ∧
      depth + d ≤ limit.levels ∧ Fails limit.levels (p + u.length) depth behind halt.error

/-- Arguments of which one gives up are derived up to a reference that fails. -/
theorem arguments_failureSound
    (ih : ∀ rest' : Text, rest'.length ≤ rest.length → FailureSound limit rest')
    (h : arguments limit op op.maxArguments ⟨rest, p, depth⟩ = .error halt)
    (hdepth : depth ≤ limit.levels) :
    0 < op.maxArguments ∧ ∃ u behind nodes d, rest = u ++ behind ∧
      Arguments op p u behind nodes d ∧ depth + d ≤ limit.levels ∧
      Fails limit.levels (p + u.length) depth behind halt.error := by
  have hr := Context.regular_argument op
  have hle := op.maxArguments_le
  rcases Nat.eq_zero_or_pos op.maxArguments with h0 | hmax
  · rw [h0, arguments_zero] at h
    cases h
  refine ⟨hmax, ?_⟩
  obtain ⟨more, hmore⟩ : ∃ more, op.maxArguments = more + 1 := ⟨op.maxArguments - 1, by omega⟩
  rw [hmore, arguments_succ] at h
  obtain hp | ⟨⟨ps, t⟩, hp, h⟩ := eq_error_or_exists_of_bind h
  · obtain ⟨u, behind, ps, d, hrest, hps, hd, hfails⟩ :=
      ih rest (Nat.le_refl _) _ _ _ _ hp (hr _) hdepth
    have hargs : Arguments op p u behind [.ofPieces ps] d := by
      refine .one hmax ?_
      rw [hmore]
      simpa using hps
    exact ⟨u, behind, _, d, hrest, hargs, hd, hfails⟩
  obtain ⟨u, after, d, rfl, rfl, hps, hd, -⟩ := pieces_sound rest _ _ _ _ _ hp (hr _) hdepth
  dsimp only at h
  by_cases hsep : 0 < more ∧ op.separates after
  · -- There is a second argument, and it is the one that gives up.
    obtain rfl : more = 1 := by omega
    rw [if_pos hsep, arguments_succ] at h
    obtain ⟨c, tail, rfl, hc⟩ := Operator.separates_iff.1 hsep.2
    obtain h | ⟨_, -, h⟩ := eq_error_or_exists_of_bind h
    · obtain hq | ⟨_, -, h⟩ := eq_error_or_exists_of_bind h
      · obtain ⟨v, behind, qs, e, rfl, hqs, he, hfails⟩ :=
          ih tail (by simp only [List.length_append, List.length_cons]; omega)
            _ _ _ _ hq (hr _) hdepth
        have he : depth + e ≤ limit.levels := he
        have hfails :
            Fails limit.levels (p + u.length + 1 + v.length) depth behind halt.error := hfails
        rw [← offset_separated p u c v] at hfails
        exact ⟨u ++ c :: v, behind, _, max d e, by simp, .two hmore hc hps hqs, by omega, hfails⟩
      · cases h
    · cases h
  · rw [if_neg hsep] at h
    cases h

/-- A braced reference of which the reading gives up fails. -/
theorem braced_failureSound
    (ih : ∀ rest' : Text, rest'.length ≤ rest.length → FailureSound limit rest')
    (h : braced limit ⟨'$' :: '{' :: rest, p, depth⟩ = .error halt) :
    Fails limit.levels p depth ('$' :: '{' :: rest) halt.error := by
  rw [braced_cons] at h
  split at h
  · next hlevel =>
    cases h
    exact .tooDeep hlevel
  next hlevel =>
  have hlevel : depth + 1 ≤ limit.levels := Nat.not_lt.1 hlevel
  split at h
  · next hhash =>
    obtain ⟨tail, rfl⟩ := List.head?_eq_some_iff.1 hhash
    obtain hn | ⟨⟨n, t₁⟩, hn, h⟩ := eq_error_or_exists_of_bind h
    · obtain ⟨hstart, rfl⟩ := name_eq_error_iff.1 hn
      exact .noLengthName hlevel hstart
    obtain ⟨hname, behind, _, rfl, hends, rfl⟩ := name_ok hn
    obtain hclose | ⟨_, _, h⟩ := eq_error_or_exists_of_bind h
    · obtain ⟨hbehind, rfl⟩ | ⟨c, after, hbehind, hc, rfl⟩ := close_eq_error_iff.1 hclose
      · obtain rfl : behind = [] := hbehind
        show Fails limit.levels p depth ('$' :: '{' :: '#' :: (n ++ [])) ⟨.unterminated, p⟩
        rw [List.append_nil]
        exact .openLength hlevel hname
      · obtain rfl : behind = c :: after := hbehind
        exact .afterLength hlevel hname (hends c rfl) hc
    · cases h
  next hhash =>
  obtain hn | ⟨⟨n, t₁⟩, hn, h⟩ := eq_error_or_exists_of_bind h
  · obtain ⟨hstart, rfl⟩ := name_eq_error_iff.1 hn
    exact .noName hlevel fun c hc => ⟨fun hne => hhash (hne ▸ hc), hstart c hc⟩
  obtain ⟨hname, behind, _, rfl, hends, rfl⟩ := name_ok hn
  dsimp only at h
  split at h
  · next hbrace =>
    obtain hclose | ⟨_, _, h⟩ := eq_error_or_exists_of_bind h
    · obtain ⟨hbehind, -⟩ | ⟨c, after, hbehind, hc, -⟩ := close_eq_error_iff.1 hclose
      · obtain rfl : behind = [] := hbehind
        cases hbrace
      · obtain rfl : behind = c :: after := hbehind
        exact absurd (Option.some.inj hbrace) hc
    · cases h
  next hbrace =>
  obtain hop | ⟨⟨op, t₂⟩, hop, h⟩ := eq_error_or_exists_of_bind h
  · obtain ⟨hbehind, rfl⟩ | ⟨c, after, hbehind, hc, rfl⟩ := operator_eq_error_iff.1 hop
    · obtain rfl : behind = [] := hbehind
      show Fails limit.levels p depth ('$' :: '{' :: (n ++ [])) ⟨.unterminated, p⟩
      rw [List.append_nil]
      exact .openName hlevel hname
    · obtain rfl : behind = c :: after := hbehind
      exact .noOperator hlevel hname (hends c rfl) (fun hne => hbrace (hne ▸ rfl)) hc
  obtain ⟨written, _, hwritten, hlongest, rfl⟩ := operator_ok hop
  obtain rfl : behind = op.symbol ++ written := hwritten
  have ih : ∀ rest' : Text, rest'.length ≤ written.length → FailureSound limit rest' :=
    fun rest' hle => ih rest' (by simp only [List.length_append]; omega)
  obtain harg | ⟨⟨nodes, t₃⟩, harg, h⟩ := eq_error_or_exists_of_bind h
  · obtain ⟨hmax, u, behind, nodes, d, rfl, hargs, hd, hfails⟩ :=
      arguments_failureSound ih harg hlevel
    exact .argument hd hname hlongest hmax hargs hfails
  obtain ⟨u, behind, d, rfl, rfl, hargs, hd, hend⟩ :=
    arguments_sound (fun rest' _ => pieces_sound rest') harg hlevel
  obtain hclose | ⟨_, _, h⟩ := eq_error_or_exists_of_bind h
  · obtain ⟨hbehind, rfl⟩ | ⟨c, after, hbehind, hc, rfl⟩ := close_eq_error_iff.1 hclose
    · obtain rfl : behind = [] := hbehind
      show Fails limit.levels p depth ('$' :: '{' :: (n ++ (op.symbol ++ (u ++ []))))
        ⟨.unterminated, p⟩
      have hlongest : op.IsLongest (op.symbol ++ (u ++ [])) := hlongest
      rw [List.append_nil] at hlongest ⊢
      exact .openArguments hd hname hlongest hargs
    · obtain rfl : behind = c :: after := hbehind
      have hmax : op.maxArguments = 0 := by
        refine Nat.eq_zero_of_not_pos fun hmax => ?_
        exact hc (hend hmax c rfl)
      obtain rfl := hargs.eq_nil hmax
      exact .afterOperator hlevel hname hlongest hmax hc
  · cases h

/-- Pieces of which the reading gives up are derived up to a reference that fails. -/
theorem pieces_failureSound (rest : Text) : FailureSound limit rest := by
  induction hlen : rest.length using Nat.strongRecOn generalizing rest with
  | ind m ih =>
    subst hlen
    have ih : ∀ rest' : Text, rest'.length < rest.length → FailureSound limit rest' :=
      fun rest' hlt => ih _ hlt rest' rfl
    intro p depth context halt h hr hdepth
    rcases context.cases rest with rfl | ⟨c, tail, rfl, hends⟩ | ⟨e, tail, rfl, hesc⟩ | hopens |
      ⟨c, tail, rfl, hlit⟩
    · rw [pieces_nil] at h
      cases h
    · rw [pieces_of_ends hends] at h
      cases h
    · rw [pieces_of_escapable hr hesc] at h
      obtain hq | ⟨_, -, h⟩ := eq_error_or_exists_of_bind h
      · obtain ⟨u, behind, ps, d, rfl, hps, hd, hfails⟩ :=
          ih tail (by simp only [List.length_cons]; omega) _ _ _ _ hq hr hdepth
        rw [← offset_cons_cons p '\\' e u] at hfails
        exact ⟨'\\' :: e :: u, behind, _, d, rfl, .escape hesc hps, hd, hfails⟩
      · cases h
    · rw [pieces_of_opens hr hopens] at h
      obtain hnode | ⟨⟨node, t₁⟩, hnode, h⟩ := eq_error_or_exists_of_bind h
      · obtain ⟨c, tail, rfl, rfl | hc⟩ := hopens
        · rw [reference_cons_brace] at hnode
          refine ⟨[], _, [], 0, rfl, .nil, hdepth, braced_failureSound (fun rest' hle => ?_) hnode⟩
          exact ih rest' (by simp only [List.length_cons]; omega)
        · obtain ⟨n, after, hrest, hname, hends⟩ := exists_name hc tail
          rw [hrest, reference_bare hname hends] at hnode
          cases hnode
      · obtain ⟨u, tail, d, rfl, rfl, href, hd⟩ :=
          reference_sound (fun rest' _ => pieces_sound rest') hopens hnode hdepth
        have hpos := href.length_pos
        obtain hq | ⟨_, -, h⟩ := eq_error_or_exists_of_bind h
        · obtain ⟨v, behind, qs, e, rfl, hqs, he, hfails⟩ :=
            ih tail (by simp only [List.length_append]; omega) _ _ _ _ hq hr hdepth
          rw [← offset_append p u v] at hfails
          exact ⟨u ++ v, behind, _, max d e, by simp, .reference href hqs, by omega, hfails⟩
        · cases h
    · rw [pieces_of_literal hlit] at h
      obtain hq | ⟨_, -, h⟩ := eq_error_or_exists_of_bind h
      · obtain ⟨u, behind, ps, d, rfl, hps, hd, hfails⟩ :=
          ih tail (Nat.lt_succ_self _) _ _ _ _ hq hr hdepth
        rw [← offset_cons p c u] at hfails
        exact ⟨c :: u, behind, _, d, rfl, .char hlit hps, hd, hfails⟩
      · cases h

/-! ## Text that fails -/

/-- Reading pieces gives up at a reference that cannot be read. -/
theorem pieces_eq_error {context : Context} {t : Text} {ps : List Piece} {d : Nat}
    (h : Pieces context p t rest ps d) (hr : context.Regular) (hopens : OpensReference rest)
    (hd : depth + d ≤ limit.levels)
    (herror : reference limit ⟨rest, p + t.length, depth⟩ = .error halt) :
    pieces limit context ⟨t ++ rest, p, depth⟩ = .error halt := by
  rw [pieces_append limit h depth hr hd, pieces_of_opens hr hopens, herror]
  rfl

/-- Reading arguments gives up at a reference that cannot be read. -/
theorem arguments_eq_error {t : Text} {nodes : List Node} {d : Nat}
    (h : Arguments op p t rest nodes d) (hmax : 0 < op.maxArguments)
    (hopens : OpensReference rest) (hd : depth + d ≤ limit.levels)
    (herror : reference limit ⟨rest, p + t.length, depth⟩ = .error halt) :
    arguments limit op op.maxArguments ⟨t ++ rest, p, depth⟩ = .error halt := by
  have hr := Context.regular_argument op
  cases h with
  | none h0 => omega
  | one _ hp =>
    obtain ⟨more, hmore⟩ : ∃ more, op.maxArguments = more + 1 := ⟨op.maxArguments - 1, by omega⟩
    have hp := pieces_eq_error hp (hr _) hopens hd herror
    rw [hmore] at hp ⊢
    have hdecide : decide (1 < more + 1) = decide (0 < more) := by simp
    rw [hdecide] at hp
    rw [arguments_succ, hp]
    rfl
  | @two c _ t u _ _ d _ e _ h2 hc hp hq =>
    rw [offset_separated] at herror
    have hp := pieces_of_endsAt (pieces_append limit hp depth (hr _) (by omega))
      (Context.endsAt_separator hc _)
    have hq := pieces_eq_error hq (hr _) hopens (by omega) herror
    rw [h2, List.append_assoc, List.cons_append, arguments_pair hp hc, arguments_succ]
    show ((pieces limit (.argument op.separator false) _ >>= _) >>= _) = _
    rw [hq]
    rfl

end

end Scanner

/-- A braced reference that fails is not read, and its error is that of the scan. -/
theorem Fails.braced_eq {limit : NestingLimit} {p depth : Nat} {t : Text} {e : ParseError}
    (h : Fails limit.levels p depth t e) :
    ∃ s, Scanner.braced limit ⟨t, p, depth⟩ = .error ⟨e, s⟩ := by
  have hends : EndsName [] := nofun
  induction h with
  | tooDeep hlevel =>
    rw [Scanner.braced_cons, if_pos hlevel]
    exact ⟨_, rfl⟩
  | @noName depth p rest hlevel hrest =>
    have hname := Scanner.name_eq_error_iff (s := ⟨rest, p + 2, depth + 1⟩).2
      ⟨fun c hc => (hrest c hc).2, rfl⟩
    rw [Scanner.braced_cons, if_neg (Nat.not_lt.2 hlevel), if_neg fun h => (hrest _ h).1 rfl, hname]
    exact ⟨_, rfl⟩
  | @noLengthName depth p rest hlevel hrest =>
    have hname := Scanner.name_eq_error_iff (s := ⟨rest, p + 2 + 1, depth + 1⟩).2 ⟨hrest, rfl⟩
    rw [Scanner.braced_cons, if_neg (Nat.not_lt.2 hlevel), if_pos List.head?_cons]
    show ∃ s, (Scanner.name ⟨rest, p + 2 + 1, depth + 1⟩ >>= _) = _
    rw [hname]
    exact ⟨_, rfl⟩
  | @openName _ n _ hlevel hn =>
    rw [← List.append_nil n, Scanner.braced_name hn hends (by simp) hlevel]
    exact ⟨_, rfl⟩
  | @openLength _ n _ hlevel hn =>
    rw [← List.append_nil n, Scanner.braced_hash hn hends hlevel]
    exact ⟨_, rfl⟩
  | @afterLength depth n c p rest hlevel hn hc hne =>
    rw [Scanner.braced_hash hn (.cons hc) hlevel,
      Scanner.close_eq_error_iff.2 (.inr ⟨c, rest, rfl, hne, rfl⟩)]
    exact ⟨_, rfl⟩
  | @noOperator depth n c p rest hlevel hn hc hne hop =>
    rw [Scanner.braced_name hn (.cons hc) (fun h => hne (Option.some.inj h)) hlevel,
      Scanner.operator_eq_error_iff.2 (.inr ⟨c, rest, rfl, hop, rfl⟩)]
    exact ⟨_, rfl⟩
  | @openArguments depth _ _ _ _ _ _ hlevel hn hop harg =>
    have hargs := Scanner.arguments_complete limit harg (depth + 1) nofun hlevel
    rw [List.append_nil] at hargs
    rw [Scanner.braced_symbol hn hop (by omega), hargs]
    exact ⟨_, rfl⟩
  | @afterOperator depth n c rest p op hlevel hn hop hmax hne =>
    rw [Scanner.braced_symbol hn hop hlevel, hmax, Scanner.arguments_zero]
    show ∃ s, (Scanner.close _ _ >>= _) = _
    rw [Scanner.close_eq_error_iff.2 (.inr ⟨c, rest, rfl, hne, rfl⟩)]
    exact ⟨_, rfl⟩
  | argument hlevel hn hop hmax harg hfails ih =>
    obtain ⟨s, hs⟩ := ih
    have hopens := hfails.opens
    obtain ⟨rest, rfl⟩ := hfails.exists_eq_cons
    rw [← Scanner.reference_cons_brace] at hs
    have hargs := Scanner.arguments_eq_error harg hmax hopens hlevel hs
    rw [Scanner.braced_symbol hn hop (by omega), hargs]
    exact ⟨_, rfl⟩

end ParameterExpansion

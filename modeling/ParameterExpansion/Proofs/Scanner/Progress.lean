import ParameterExpansion.Proofs.Scanner.Failure
import ParameterExpansion.Proofs.Scanner.Rounds

/-!
# The progress of a scan

A scan only moves on in its text, whatever its budget, and stays in it also where it is given up
(`Ahead`, `Meets`). A round of either loop keeps this (`Scanner.pieceRound_meets`,
`Scanner.argumentRound_meets`), so each loop does (`Scanner.rounds_meets`), and by the nesting of
the loops the whole scan (`Scanner.piecesWithin_meets`): pieces end at a stop character or at the
end of the text, arguments at a closing brace or at the end, with as many references open as before.
What holds of a scan whatever its budget holds of the scan itself (`Scanner.pieces_meets`).
-/

namespace ParameterExpansion

namespace Scanner

open Budgeted

/-! ## Moving on in a text -/

/-- `t` stands in the text of `s`, and not before `s`. -/
def Ahead (s t : Scanner) : Prop :=
  ∃ read, s.rest = read ++ t.rest ∧ t.position = s.position + read.length

/-- `t` stands in the text of `s`, at least `least` characters behind `s`, and `depth` references
are open there. -/
structure Moves (s : Scanner) (least depth : Nat) (t : Scanner) : Prop where
  /-- The text is the same. -/
  ahead : s.Ahead t
  /-- The characters have been read. -/
  least_le : s.position + least ≤ t.position
  /-- The references are open. -/
  depth_eq : t.depth = depth

section
variable {s t u : Scanner} {m n d e : Nat}

/-- A scanner is not before itself. -/
theorem Ahead.refl (s : Scanner) : s.Ahead s := ⟨[], rfl, rfl⟩

/-- What is read is read on. -/
theorem Ahead.trans (h : s.Ahead t) (h' : t.Ahead u) : s.Ahead u := by
  obtain ⟨read, hrest, hposition⟩ := h
  obtain ⟨more, hrest', hposition'⟩ := h'
  refine ⟨read ++ more, by rw [hrest, hrest', List.append_assoc], ?_⟩
  rw [List.length_append]
  omega

/-- Nothing has been read yet. -/
theorem Moves.refl (s : Scanner) : s.Moves 0 s.depth s := ⟨.refl s, Nat.le_refl _, rfl⟩

/-- What is read is read on. -/
theorem Moves.trans (h : s.Moves m d t) (h' : t.Moves n e u) : s.Moves (m + n) e u := by
  refine ⟨h.ahead.trans h'.ahead, ?_, h'.depth_eq⟩
  have := h.least_le
  have := h'.least_le
  omega

/-- Fewer characters have been read, too. -/
theorem Moves.mono (h : s.Moves m d t) (hle : n ≤ m) : s.Moves n d t :=
  ⟨h.ahead, Nat.le_trans (Nat.add_le_add_left hle _) h.least_le, h.depth_eq⟩

/-- The scanner behind characters that are there has read these. -/
theorem moves_advance (h : n ≤ s.rest.length) : s.Moves n s.depth (s.advance n) := by
  refine ⟨⟨s.rest.take n, (List.take_append_drop n s.rest).symm, ?_⟩, Nat.le_refl _, rfl⟩
  rw [List.length_take, Nat.min_eq_left h]
  rfl

end

/-! ## What holds of a scan, however it ends -/

section
variable {α β : Type} {limit : NestingLimit} {s t : Scanner} {P Q : α → Prop}

/-- What a scan from `s` on gives has a property. If it is given up, this happens in the same text
and not before `s`, with one reference more open than the limit and `s` allow at most. -/
def Meets (limit : NestingLimit) (s : Scanner) (P : α → Prop) (x : Budgeted α) : Prop :=
  (∀ a, x = ended (.ok a) → P a) ∧
  ∀ halt, x = ended (.error halt) →
    s.Ahead halt.scanner ∧ halt.scanner.depth ≤ max s.depth limit.levels + 1

/-- Nothing has to hold when the budget does not suffice. -/
theorem meets_exhausted : Meets limit s P exhausted := ⟨nofun, nofun⟩

/-- What is given right away has to have the property. -/
theorem meets_pure {a : α} (h : P a) : Meets limit s P (pure a) := by
  refine ⟨fun b hb => ?_, nofun⟩
  cases hb
  exact h

/-- A step within the scanner's own text. -/
theorem meets_ended {x : Except Halt α} (hok : ∀ a, x = .ok a → P a)
    (herror : ∀ halt, x = .error halt →
      s.Ahead halt.scanner ∧ halt.scanner.depth ≤ max s.depth limit.levels + 1) :
    Meets limit s P (ended x) := by
  refine ⟨fun a ha => ?_, fun halt hhalt => ?_⟩
  · cases ha
    exact hok a rfl
  · cases hhalt
    exact herror halt rfl

/-- A scan of several steps has what its last step gives. -/
theorem Meets.bind {Q : β → Prop} {x : Budgeted α} {f : α → Budgeted β} (hx : Meets limit s P x)
    (hf : ∀ a, P a → Meets limit s Q (f a)) : Meets limit s Q (x >>= f) := by
  obtain ⟨hok, herror⟩ := hx
  match x with
  | none => exact ⟨nofun, nofun⟩
  | some (.ok a) => exact hf a (hok a rfl)
  | some (.error halt) =>
    refine ⟨nofun, fun halt' h => ?_⟩
    cases h
    exact herror halt rfl

/-- A property may be replaced by one that follows. -/
theorem Meets.imp {x : Budgeted α} (hx : Meets limit s P x) (h : ∀ a, P a → Q a) :
    Meets limit s Q x := ⟨fun a ha => h a (hx.1 a ha), hx.2⟩

/-- A scan from a later place on is one from `s` on, if no more references are open there than the
limit and `s` allow. -/
theorem Meets.before {x : Budgeted α} (hx : Meets limit t P x) (hahead : s.Ahead t)
    (hdepth : t.depth ≤ max s.depth limit.levels) : Meets limit s P x := by
  refine ⟨hx.1, fun halt h => ?_⟩
  obtain ⟨hhalt, hle⟩ := hx.2 halt h
  exact ⟨hahead.trans hhalt, by omega⟩

/-- A step behind others moves on from where they began. -/
theorem Meets.moved {x : Budgeted α} {place : α → Scanner} {m n d e : Nat} (hmoves : s.Moves m d t)
    (hdepth : d ≤ max s.depth limit.levels)
    (hx : Meets limit t (fun a => t.Moves n e (place a)) x) :
    Meets limit s (fun a => s.Moves (m + n) e (place a)) x :=
  (hx.before hmoves.ahead (hmoves.depth_eq ▸ hdepth)).imp fun _ h => hmoves.trans h

/-- A loop keeps what each of its rounds keeps, and gives what its last round does. -/
theorem rounds_meets {round : List α → Scanner → Budgeted ((Bool × List α) × Scanner)}
    (inv post : List α → Scanner → Prop)
    (hround : ∀ as t, inv as t → Meets limit t
      (fun r => t.Moves 0 t.depth r.2 ∧ if r.1.1 then inv r.1.2 r.2 else post r.1.2 r.2)
      (round as t)) (budget : Nat) (as : List α) (s : Scanner) (hs : inv as s) :
    Meets limit s (fun r => s.Moves 0 s.depth r.2 ∧ post r.1 r.2) (rounds round budget as s) := by
  induction budget generalizing as s with
  | zero => exact meets_exhausted
  | succ budget ih =>
    refine (hround as s hs).bind ?_
    rintro ⟨⟨again, bs⟩, t⟩ ⟨hmoves, hnext⟩
    cases again with
    | false => exact meets_pure ⟨hmoves, hnext⟩
    | true =>
      have hrest := (ih bs t hnext).before hmoves.ahead
        (Nat.le_trans (Nat.le_of_eq hmoves.depth_eq) (Nat.le_max_left _ _))
      refine hrest.imp fun r hr => ⟨?_, hr.2⟩
      have htrans := hmoves.trans hr.1
      rwa [hmoves.depth_eq] at htrans

end

/-! ## Names, closing braces and operators -/

section
variable {limit : NestingLimit} {s : Scanner} {start d : Nat}

/-- What is given up where it begins is given up in the text. -/
theorem ahead_halt (cause : ParseCause) (position : Nat) :
    s.Ahead (s.halt cause position).scanner ∧
      (s.halt cause position).scanner.depth ≤ max s.depth limit.levels + 1 :=
  ⟨.refl s, Nat.le_succ_of_le (Nat.le_max_left _ _)⟩

/-- A name is not empty. -/
theorem name_meets (hd : s.depth = d) :
    Meets limit s (fun r => s.Moves 1 d r.2.1) (ended s.name) := by
  refine meets_ended (fun r hr => ?_) fun halt h => ?_
  · obtain ⟨n, t⟩ := r
    obtain ⟨hname, after, _, hrest, -, rfl⟩ := name_ok hr
    obtain ⟨c, tail, rfl, -⟩ := hname.exists_cons
    exact ⟨⟨c :: tail, hrest, rfl⟩, Nat.add_le_add_left (Nat.succ_pos tail.length) _, hd⟩
  · obtain ⟨-, rfl⟩ := name_eq_error_iff.1 h
    exact ahead_halt _ _

/-- A closing brace closes a reference. -/
theorem close_meets (hd : s.depth = d + 1) :
    Meets limit s (fun t => s.Moves 1 d t.1) (ended (s.close start)) := by
  refine meets_ended (fun t ht => ?_) fun halt h => ?_
  · obtain ⟨after, _, hrest, rfl⟩ := close_ok ht
    exact ⟨⟨['}'], hrest, rfl⟩, Nat.le_refl _, by rw [hd, Nat.add_sub_cancel]⟩
  · obtain ⟨-, rfl⟩ | ⟨_, _, -, -, rfl⟩ := close_eq_error_iff.1 h <;> exact ahead_halt _ _

/-- A symbol is not empty. -/
theorem operator_meets (hd : s.depth = d) :
    Meets limit s (fun r => s.Moves 1 d r.2.1) (ended (s.operator start)) := by
  refine meets_ended (fun r hr => ?_) fun halt h => ?_
  · obtain ⟨op, t⟩ := r
    obtain ⟨after, _, hrest, -, rfl⟩ := operator_ok hr
    exact ⟨⟨op.symbol, hrest, rfl⟩, Nat.add_le_add_left op.length_symbol.1 _, hd⟩
  · obtain ⟨-, rfl⟩ | ⟨_, _, -, -, rfl⟩ := operator_eq_error_iff.1 h <;> exact ahead_halt _ _

end

/-! ## Arguments -/

/-- Reading pieces by `read` moves on to where they end. -/
def ReadsOn (limit : NestingLimit) (read : Context → Scanner → Budgeted (List Piece × Scanner)) :
    Prop :=
  ∀ context s, Meets limit s (fun r => s.Moves 0 s.depth r.2 ∧ context.EndsAt r.2.rest)
    (read context s)

section
variable {limit : NestingLimit} {context : Context} {op : Operator} {s : Scanner}
  {read : Context → Scanner → Budgeted (List Piece × Scanner)}

/-- A round adds an argument, and either passes the separator before a further one or ends at a
closing brace or at the end. -/
theorem argumentRound_meets (hread : ReadsOn limit read) (nodes : List Node) :
    Meets limit s (fun r => r.1.2.length = nodes.length + 1 ∧
      if r.1.1 then s.Moves 1 s.depth r.2 ∧ r.1.2.length < op.maxArguments
      else s.Moves 0 s.depth r.2 ∧ ∀ c, r.2.rest.head? = some c → c = '}')
      (argumentRound read op nodes s) := by
  unfold argumentRound
  refine (hread _ s).bind ?_
  rintro ⟨ps, t⟩ ⟨hmoves, hends⟩
  dsimp only
  have hlength : (nodes ++ [Node.ofPieces ps]).length = nodes.length + 1 := by simp
  by_cases hagain : nodes.length + 1 < op.maxArguments ∧ op.separates t.rest = true
  · rw [if_pos hagain]
    obtain ⟨c, tail, hrest, -⟩ := Operator.separates_iff.1 hagain.2
    have hone : 1 ≤ t.rest.length := by
      rw [hrest]
      exact Nat.succ_pos _
    have hpassed := hmoves.trans (moves_advance hone)
    rw [hmoves.depth_eq, Nat.zero_add] at hpassed
    refine meets_pure ⟨hlength, hpassed, ?_⟩
    rw [hlength]
    exact hagain.1
  · rw [if_neg hagain]
    refine meets_pure ⟨hlength, hmoves, fun c hc => ?_⟩
    -- The separator would have been passed.
    refine (hends c hc).resolve_right fun hsep => hagain ⟨of_decide_eq_true hsep.1, ?_⟩
    obtain ⟨tail, hrest⟩ := List.head?_eq_some_iff.1 hc
    exact Operator.separates_iff.2 ⟨c, tail, hrest, hsep.2⟩

/-- An operator that takes arguments is given at least one and no more than it takes, and they end
at a closing brace or at the end. -/
theorem argumentsBy_meets (hread : ReadsOn limit read) :
    Meets limit s (fun r => s.Moves 0 s.depth r.2 ∧ (0 < op.maxArguments →
      1 ≤ r.1.length ∧ r.1.length ≤ op.maxArguments ∧ ∀ c, r.2.rest.head? = some c → c = '}'))
      (argumentsBy read op s) := by
  unfold argumentsBy
  by_cases hmax : 0 < op.maxArguments
  · rw [if_pos hmax]
    refine (rounds_meets (fun nodes _ => nodes.length < op.maxArguments)
      (fun nodes t => 1 ≤ nodes.length ∧ nodes.length ≤ op.maxArguments ∧
        ∀ c, t.rest.head? = some c → c = '}') (fun nodes t hnodes => ?_) op.maxArguments [] s
      hmax).imp fun r hr => ⟨hr.1, fun _ => hr.2⟩
    refine (argumentRound_meets hread nodes).imp ?_
    rintro ⟨⟨again, nodes'⟩, u⟩ ⟨hlength, hnext⟩
    cases again with
    | true => exact ⟨hnext.1.mono (Nat.zero_le _), hnext.2⟩
    | false => exact ⟨hnext.1, by omega, by omega, hnext.2⟩
  · rw [if_neg hmax]
    exact meets_pure ⟨.refl s, fun h => absurd h hmax⟩

/-! ## References -/

/-- A braced reference is read to its closing brace, which closes it. -/
theorem bracedBy_meets (hread : ReadsOn limit read) (hs : 2 ≤ s.rest.length) :
    Meets limit s (fun r => s.Moves 2 s.depth r.2) (bracedBy limit read s) := by
  unfold bracedBy
  by_cases hdeep : limit.levels < s.depth + 1
  · rw [if_pos hdeep]
    refine meets_ended nofun fun halt h => ?_
    cases h
    exact ⟨.refl s, Nat.succ_le_succ (Nat.le_max_left _ _)⟩
  rw [if_neg hdeep]
  have hdepth : s.depth + 1 ≤ max s.depth limit.levels :=
    Nat.le_trans (Nat.not_lt.1 hdeep) (Nat.le_max_right _ _)
  have hopen : s.Moves 2 (s.depth + 1) (s.deepened.advance 2) :=
    ⟨(moves_advance (s := s.deepened) hs).ahead, Nat.le_refl _, rfl⟩
  by_cases hlength : (s.deepened.advance 2).rest.head? = some '#'
  · rw [if_pos hlength]
    have hone : 1 ≤ (s.deepened.advance 2).rest.length := by
      obtain ⟨tail, hrest⟩ := List.head?_eq_some_iff.1 hlength
      rw [hrest]
      exact Nat.succ_pos _
    have hsymbol := hopen.trans (moves_advance hone)
    refine ((name_meets rfl).moved hsymbol hdepth).bind fun r hname => ?_
    refine ((close_meets hname.depth_eq).moved hname hdepth).bind fun u hclose => ?_
    exact meets_pure (hclose.mono (by omega))
  rw [if_neg hlength]
  refine ((name_meets rfl).moved hopen hdepth).bind fun r hname => ?_
  dsimp only
  by_cases hplain : r.2.1.rest.head? = some '}'
  · rw [if_pos hplain]
    refine ((close_meets hname.depth_eq).moved hname hdepth).bind fun u hclose => ?_
    exact meets_pure (hclose.mono (by omega))
  rw [if_neg hplain]
  refine ((operator_meets hname.depth_eq).moved hname hdepth).bind fun o hop => ?_
  have harguments : Meets limit o.2.1 (fun r => o.2.1.Moves 0 o.2.1.depth r.2)
      (argumentsBy read o.1 o.2.1) := (argumentsBy_meets hread).imp fun _ h => h.1
  refine (harguments.moved hop hdepth).bind fun a hargs => ?_
  rw [hop.depth_eq] at hargs
  refine ((close_meets hargs.depth_eq).moved hargs hdepth).bind fun w hclose => ?_
  exact meets_pure (hclose.mono (by omega))

/-- A reference that starts there is read, which takes two characters at least. -/
theorem referenceBy_meets (hread : ReadsOn limit read) (hs : startsReference s.rest = true) :
    Meets limit s (fun r => s.Moves 2 s.depth r.2) (referenceBy limit read s) := by
  obtain ⟨c, rest, hrest, -⟩ := startsReference_iff.1 hs
  have htwo : 2 ≤ s.rest.length := by
    rw [hrest, List.length_cons, List.length_cons]
    omega
  unfold referenceBy
  by_cases hbrace : (s.advance 1).rest.head? = some '{'
  · rw [if_pos hbrace]
    exact bracedBy_meets hread htwo
  · rw [if_neg hbrace]
    have hdollar : s.Moves 1 s.depth (s.advance 1) := moves_advance (Nat.le_of_succ_le htwo)
    refine ((name_meets rfl).moved hdollar (Nat.le_max_left _ _)).bind fun r hname => ?_
    exact meets_pure hname

/-! ## Pieces -/

/-- A round adds a piece and moves on, or there is none where it stands. -/
theorem pieceRound_meets {reference : Scanner → Budgeted (Node × Scanner)}
    (hreference : startsReference s.rest = true →
      Meets limit s (fun r => s.Moves 2 s.depth r.2) (reference s)) (ps : List Piece) :
    Meets limit s (fun r => if r.1.1 then s.Moves 1 s.depth r.2 ∧ r.1.2.length = ps.length + 1
      else r.2 = s ∧ r.1.2 = ps ∧ context.EndsAt s.rest) (pieceRound reference context ps s) := by
  unfold pieceRound
  split
  · next hrest => exact meets_pure ⟨rfl, rfl, hrest ▸ Context.endsAt_nil _⟩
  next c rest hrest =>
  have hadvance : ∀ n, n ≤ s.rest.length → ∀ piece : Piece, 1 ≤ n →
      s.Moves 1 s.depth (s.advance n) ∧ (ps ++ [piece]).length = ps.length + 1 :=
    fun n hn piece hone => ⟨(moves_advance hn).mono hone, by simp⟩
  by_cases hstop : context.stops c = true
  · rw [if_pos hstop]
    refine meets_pure ⟨rfl, rfl, fun d hd => ?_⟩
    rw [hrest] at hd
    cases hd
    exact Context.stops_iff.1 hstop
  rw [if_neg hstop]
  cases hescape : context.escaped? s.rest with
  | some e =>
    obtain ⟨tail, htail, -⟩ := Context.escaped?_eq_some_iff.1 hescape
    refine meets_pure (hadvance 2 ?_ _ (by omega))
    rw [htail, List.length_cons, List.length_cons]
    omega
  | none =>
    dsimp only
    by_cases hstart : startsReference s.rest = true
    · rw [if_pos hstart]
      refine (hreference hstart).bind fun r hr => ?_
      exact meets_pure ⟨hr.mono (by omega), by simp⟩
    · rw [if_neg hstart]
      refine meets_pure (hadvance 1 ?_ _ (Nat.le_refl _))
      rw [hrest]
      exact Nat.succ_pos _

/-- Pieces move on to where they end, whatever the budget is. -/
theorem piecesWithin_meets (budget : Nat) : ReadsOn limit (piecesWithin limit budget) := by
  induction budget with
  | zero => exact fun context s => meets_exhausted
  | succ budget ih =>
    intro context s
    refine rounds_meets (fun _ _ => True) (fun _ t => context.EndsAt t.rest)
      (fun ps t _ => (pieceRound_meets (referenceBy_meets ih) ps).imp ?_) _ [] s trivial
    rintro ⟨⟨again, qs⟩, u⟩ hround
    cases again with
    | true => exact ⟨hround.1.mono (Nat.zero_le _), trivial⟩
    | false =>
      obtain ⟨rfl, -, hends⟩ := hround
      exact ⟨.refl _, hends⟩

/-! ## The scan without a budget -/

/-- Pieces move on to where they end. -/
theorem pieces_meets (limit : NestingLimit) :
    ReadsOn limit fun context s => ended (pieces limit context s) := by
  intro context s
  have hmeets : Meets limit s _ (piecesWithin limit (s.rest.length + 1) context s) :=
    piecesWithin_meets _ context s
  rwa [piecesWithin_eq (Nat.lt_succ_self _)] at hmeets

/-- A reference that starts there is read, which takes two characters at least. -/
theorem reference_meets (hs : startsReference s.rest = true) :
    Meets limit s (fun r => s.Moves 2 s.depth r.2) (ended (reference limit s)) := by
  rw [← referenceBy_eq fun _ _ _ => rfl]
  exact referenceBy_meets (pieces_meets limit) hs

/-- An operator that takes arguments is given at least one and no more than it takes, and they end
at a closing brace or at the end. -/
theorem arguments_meets :
    Meets limit s (fun r => s.Moves 0 s.depth r.2 ∧ (0 < op.maxArguments →
      1 ≤ r.1.length ∧ r.1.length ≤ op.maxArguments ∧ ∀ c, r.2.rest.head? = some c → c = '}'))
      (ended (arguments limit op op.maxArguments s)) := by
  rw [← argumentsBy_eq fun _ _ _ => rfl]
  exact argumentsBy_meets (pieces_meets limit)

end

end Scanner

end ParameterExpansion

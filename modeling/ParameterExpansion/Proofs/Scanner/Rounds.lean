import ParameterExpansion.Scanner

/-!
# The scan in rounds

The scan as loops, without a reason why they end. Reading pieces goes round once for a piece
(`pieceRound`), reading arguments once for an argument (`argumentRound`), and the loops stand in
each other as references do. Each loop has a budget of rounds and their nesting has one of its own;
a scan that would exceed its budget gives nothing. Main statement: a budget of as many rounds as
characters are left, and one for the end, suffices for the pieces and their nesting, and one of as
many rounds as an operator takes arguments for these; then the scan gives what `Scanner.pieces` does
(`Scanner.piecesWithin_eq`).
-/

namespace ParameterExpansion

/-- A scan with a budget: nothing if it would exceed the budget, else what it gives. -/
abbrev Budgeted := ExceptT Halt Option

namespace Budgeted
variable {α β : Type}

/-- The scan would exceed its budget. -/
def exhausted : Budgeted α := ExceptT.mk none

/-- The scan ends within its budget. -/
def ended (x : Except Halt α) : Budgeted α := ExceptT.mk (some x)

/-- Behind a step that ends, a scan ends if what follows the step does. -/
theorem ended_bind {x : Except Halt α} {f : α → Budgeted β} {g : α → Except Halt β}
    (h : ∀ a, x = .ok a → f a = ended (g a)) : ended x >>= f = ended (x >>= g) := by
  cases x with
  | error halt => rfl
  | ok a => exact h a rfl

end Budgeted

namespace Scanner

open Budgeted

/-! ## The loops -/

/-- A loop with a budget of rounds. A round adds to what there is, and tells whether there is a
further one. -/
def rounds {α : Type} (round : List α → Scanner → Budgeted ((Bool × List α) × Scanner)) :
    Nat → List α → Scanner → Budgeted (List α × Scanner)
  | 0, _, _ => exhausted
  | budget + 1, as, s => do
    let ((again, as), t) ← round as s
    if again then rounds round budget as t else return (as, t)

/-- A round of reading pieces: it adds the next piece, or there is none. -/
def pieceRound (reference : Scanner → Budgeted (Node × Scanner)) (context : Context)
    (ps : List Piece) (s : Scanner) : Budgeted ((Bool × List Piece) × Scanner) :=
  match s.rest with
  | [] => return ((false, ps), s)
  | c :: _ =>
    if context.stops c then return ((false, ps), s)
    else match context.escaped? s.rest with
      | some e => return ((true, ps ++ [.char e]), s.advance 2)
      | none =>
        if startsReference s.rest then do
          let (node, t) ← reference s
          return ((true, ps ++ [.reference node]), t)
        else return ((true, ps ++ [.char c]), s.advance 1)

/-- A round of reading arguments: it adds the next argument, and there is a further round behind a
separator if the operator takes a further argument. -/
def argumentRound (read : Context → Scanner → Budgeted (List Piece × Scanner)) (op : Operator)
    (nodes : List Node) (s : Scanner) : Budgeted ((Bool × List Node) × Scanner) := do
  let (ps, t) ← read (.argument op.separator (nodes.length + 1 < op.maxArguments)) s
  if nodes.length + 1 < op.maxArguments ∧ op.separates t.rest then
    return ((true, nodes ++ [.ofPieces ps]), t.advance 1)
  else return ((false, nodes ++ [.ofPieces ps]), t)

/-- Reads the arguments of an operator, in no more rounds than it takes arguments. -/
def argumentsBy (read : Context → Scanner → Budgeted (List Piece × Scanner)) (op : Operator)
    (s : Scanner) : Budgeted (List Node × Scanner) :=
  if 0 < op.maxArguments then rounds (argumentRound read op) op.maxArguments [] s
  else return ([], s)

/-- Reads a braced reference, whose arguments are read by `read`. -/
def bracedBy (limit : NestingLimit) (read : Context → Scanner → Budgeted (List Piece × Scanner))
    (s : Scanner) : Budgeted (Node × Scanner) :=
  if limit.levels < s.depth + 1 then
    ended (.error (s.deepened.halt (.nestedTooDeep limit.levels) s.position))
  else if (s.deepened.advance 2).rest.head? = some '#' then do
    let (n, t) ← ended ((s.deepened.advance 2).advance 1).name
    let u ← ended (t.1.close s.position)
    return (.reference n lengthSymbol [] (s.sliceTo u) s.position, u.1)
  else do
    let (n, t) ← ended (s.deepened.advance 2).name
    if t.1.rest.head? = some '}' then
      let u ← ended (t.1.close s.position)
      return (.reference n [] [] (s.sliceTo u) s.position, u.1)
    else
      let (op, u) ← ended (t.1.operator s.position)
      let (nodes, v) ← argumentsBy read op u.1
      let w ← ended (v.close s.position)
      return (.reference n op.symbol nodes (s.sliceTo w) s.position, w.1)

/-- Reads a reference, whose arguments are read by `read`. -/
def referenceBy (limit : NestingLimit) (read : Context → Scanner → Budgeted (List Piece × Scanner))
    (s : Scanner) : Budgeted (Node × Scanner) :=
  if (s.advance 1).rest.head? = some '{' then bracedBy limit read s
  else do
    let (n, t) ← ended (s.advance 1).name
    return (.reference n [] [] (s.sliceTo t) s.position, t.1)

/-- Reads pieces in no more rounds than there are characters left, and one for the end, and with no
more loops in each other than the budget allows. -/
def piecesWithin (limit : NestingLimit) :
    Nat → Context → Scanner → Budgeted (List Piece × Scanner)
  | 0, _, _ => exhausted
  | budget + 1, context, s =>
    rounds (pieceRound (referenceBy limit (piecesWithin limit budget)) context)
      (s.rest.length + 1) [] s

/-! ## The budget suffices -/

section
variable {limit : NestingLimit} {context : Context} {op : Operator} {s t : Scanner}

/-- Reading pieces leaves no more than there was. -/
theorem length_rest_of_pieces {ps : List Piece} (h : pieces limit context s = .ok (ps, t)) :
    t.rest.length ≤ s.rest.length := by
  unfold pieces at h
  cases hread : piecesBelow limit context s with
  | error => rw [hread] at h; cases h
  | ok r => rw [hread] at h; cases h; exact r.2.2

/-- Reading a reference leaves less than there was. -/
theorem length_rest_of_reference {node : Node} (h : reference limit s = .ok (node, t)) :
    t.rest.length < s.rest.length := by
  unfold reference at h
  cases hread : referenceBelow limit s with
  | error => rw [hread] at h; cases h
  | ok r => rw [hread] at h; cases h; exact r.2.2

/-- Adding one thing and then the others is adding the one in front of the others. -/
theorem bind_append_singleton {α : Type} (x : Except Halt (List α × Scanner)) (as : List α)
    (a : α) : (x >>= fun r => .ok (as ++ [a] ++ r.1, r.2)) =
      (x >>= fun r => .ok (a :: r.1, r.2)) >>= fun r => .ok (as ++ r.1, r.2) := by
  cases x with
  | error => rfl
  | ok r => simp [bind, Except.bind]

/-- A loop of pieces ends within its budget, where the references do. -/
theorem rounds_pieceRound {read : Scanner → Budgeted (Node × Scanner)} {most : Nat}
    (hread : ∀ t : Scanner, t.rest.length ≤ most → read t = ended (reference limit t))
    (budget : Nat) (ps : List Piece) (s : Scanner) (hmost : s.rest.length ≤ most)
    (hbudget : s.rest.length < budget) :
    rounds (pieceRound read context) budget ps s =
      ended (pieces limit context s >>= fun r => .ok (ps ++ r.1, r.2)) := by
  induction budget generalizing ps s with
  | zero => omega
  | succ budget ih =>
    -- Behind a round, less is left for the further ones.
    have hbehind : ∀ (piece : Piece) (t : Scanner), t.rest.length < s.rest.length →
        rounds (pieceRound read context) budget (ps ++ [piece]) t =
          ended ((pieces limit context t >>= fun r => .ok (piece :: r.1, r.2)) >>=
            fun r => .ok (ps ++ r.1, r.2)) := by
      intro piece t hlt
      rw [ih _ t (by omega) (by omega), bind_append_singleton]
    rw [rounds, pieces_eq, pieceRound]
    cases hs : s.rest with
    | nil => exact congrArg (fun ps => ended (.ok (ps, s))) (List.append_nil ps).symm
    | cons c rest =>
      have hone : (s.advance 1).rest.length < s.rest.length := by
        rw [length_advance, hs, List.length_cons]
        omega
      have htwo : (s.advance 2).rest.length < s.rest.length := by
        rw [length_advance, hs, List.length_cons]
        omega
      dsimp only
      by_cases hstop : context.stops c = true
      · rw [if_pos hstop, if_pos hstop]
        exact congrArg (fun ps => ended (.ok (ps, s))) (List.append_nil ps).symm
      rw [if_neg hstop, if_neg hstop]
      cases context.escaped? (c :: rest) with
      | some e => exact hbehind (.char e) _ htwo
      | none =>
        dsimp only
        by_cases hstart : startsReference (c :: rest) = true
        · rw [if_pos hstart, if_pos hstart, hread s hmost, bind_assoc, bind_assoc]
          refine ended_bind fun r hr => ?_
          exact hbehind (.reference r.1) r.2 (length_rest_of_reference hr)
        · rw [if_neg hstart, if_neg hstart]
          exact hbehind (.char c) _ hone

/-- A loop of arguments ends within its budget, where the arguments do. -/
theorem rounds_argumentRound {read : Context → Scanner → Budgeted (List Piece × Scanner)}
    {most : Nat} (hread : ∀ (context : Context) (t : Scanner), t.rest.length ≤ most →
      read context t = ended (pieces limit context t)) (more : Nat) (nodes : List Node)
    (s : Scanner) (hmore : nodes.length + (more + 1) = op.maxArguments)
    (hmost : s.rest.length ≤ most) :
    rounds (argumentRound read op) (more + 1) nodes s =
      ended (arguments limit op (more + 1) s >>= fun r => .ok (nodes ++ r.1, r.2)) := by
  induction more generalizing nodes s with
  | zero =>
    have hlast : ¬ nodes.length + 1 < op.maxArguments := by omega
    rw [rounds, argumentRound, hread _ _ hmost, arguments_succ, bind_assoc, bind_assoc]
    simp only [hlast, decide_false, false_and, if_false, Nat.lt_irrefl]
    exact ended_bind fun r _ => rfl
  | succ more ih =>
    have hfurther : nodes.length + 1 < op.maxArguments := by omega
    rw [rounds, argumentRound, hread _ _ hmost, arguments_succ, bind_assoc, bind_assoc]
    simp only [hfurther, decide_true, true_and, Nat.zero_lt_succ]
    refine ended_bind fun r hr => ?_
    by_cases hsep : op.separates r.2.rest = true
    · have hle := length_rest_of_pieces hr
      have hnodes : (nodes ++ [Node.ofPieces r.1]).length + (more + 1) = op.maxArguments := by
        rw [List.length_append, List.length_singleton]
        omega
      have hbehind := ih _ (r.2.advance 1) hnodes (by rw [length_advance]; omega)
      rw [bind_append_singleton] at hbehind
      rw [if_pos hsep, if_pos hsep]
      exact hbehind
    · rw [if_neg hsep, if_neg hsep]
      rfl

/-- The arguments of an operator end within their budget, where each argument does. -/
theorem argumentsBy_eq {read : Context → Scanner → Budgeted (List Piece × Scanner)}
    (hread : ∀ (context : Context) (t : Scanner), t.rest.length ≤ s.rest.length →
      read context t = ended (pieces limit context t)) :
    argumentsBy read op s = ended (arguments limit op op.maxArguments s) := by
  unfold argumentsBy
  cases hcount : op.maxArguments with
  | zero =>
    rw [arguments_zero]
    rfl
  | succ more =>
    have hloop := rounds_argumentRound hread more [] s (by rw [hcount]; simp) (Nat.le_refl _)
    rw [if_pos (Nat.succ_pos more), hloop]
    cases arguments limit op (more + 1) s <;> rfl

/-- A braced reference ends within its budget, where its arguments do. -/
theorem bracedBy_eq {read : Context → Scanner → Budgeted (List Piece × Scanner)}
    (hread : ∀ (context : Context) (t : Scanner), t.rest.length < s.rest.length →
      read context t = ended (pieces limit context t)) :
    bracedBy limit read s = ended (braced limit s) := by
  rw [braced_eq, bracedBy]
  by_cases hdeep : limit.levels < s.depth + 1
  · rw [if_pos hdeep, if_pos hdeep]
  rw [if_neg hdeep, if_neg hdeep]
  have hinner : (s.deepened.advance 2).rest.length ≤ s.rest.length := by
    rw [length_advance]
    exact Nat.sub_le _ _
  by_cases hlength : (s.deepened.advance 2).rest.head? = some '#'
  · rw [if_pos hlength, if_pos hlength]
    exact ended_bind fun r _ => ended_bind fun u _ => rfl
  rw [if_neg hlength, if_neg hlength]
  refine ended_bind fun r _ => ?_
  dsimp only
  by_cases hclose : r.2.1.rest.head? = some '}'
  · rw [if_pos hclose, if_pos hclose]
    exact ended_bind fun u _ => rfl
  rw [if_neg hclose, if_neg hclose]
  refine ended_bind fun o _ => ?_
  have hname := r.2.2
  have hop := o.2.2
  rw [argumentsBy_eq fun context t ht => hread context t (by omega)]
  exact ended_bind fun a _ => ended_bind fun w _ => rfl

/-- A reference ends within its budget, where its arguments do. -/
theorem referenceBy_eq {read : Context → Scanner → Budgeted (List Piece × Scanner)}
    (hread : ∀ (context : Context) (t : Scanner), t.rest.length < s.rest.length →
      read context t = ended (pieces limit context t)) :
    referenceBy limit read s = ended (reference limit s) := by
  rw [reference_eq, referenceBy]
  by_cases hbrace : (s.advance 1).rest.head? = some '{'
  · rw [if_pos hbrace, if_pos hbrace, bracedBy_eq hread]
  · rw [if_neg hbrace, if_neg hbrace]
    exact ended_bind fun r _ => rfl

/-- A budget of more than the characters that are left suffices for the scan. -/
theorem piecesWithin_eq {budget : Nat} (hbudget : s.rest.length < budget) :
    piecesWithin limit budget context s = ended (pieces limit context s) := by
  induction budget generalizing context s with
  | zero => omega
  | succ budget ih =>
    have hread : ∀ t : Scanner, t.rest.length ≤ s.rest.length →
        referenceBy limit (piecesWithin limit budget) t = ended (reference limit t) :=
      fun t ht => referenceBy_eq fun context u hu => ih (by omega)
    rw [piecesWithin, rounds_pieceRound hread _ [] s (Nat.le_refl _) (Nat.lt_succ_self _)]
    cases pieces limit context s <;> rfl

end

end Scanner

end ParameterExpansion

import ParameterExpansion.Operator
import ParameterExpansion.Piece

/-!
# The scanner

Reading a template from left to right. A `Scanner` is where a scan stands: the rest of the template,
the offset of the rest, and the number of braced references that are open. Three functions call each
other: `pieces` reads characters and references up to a stop character, `reference` reads one
reference from its dollar sign on, and `arguments` reads the arguments of an operator. Each of them
comes with the proof that no more is left behind it than before, so the scan ends by recursion on the
length of what is left; without the proofs they satisfy the equations `pieces_eq`, `reference_eq`,
`braced_eq`, `arguments_zero` and `arguments_succ`.
-/

namespace ParameterExpansion

/-- A nesting limit: how many braced references may stand in each other. -/
structure NestingLimit where
  /-- The number of references. -/
  levels : Nat
  /-- At least one reference is allowed. -/
  one_le : 1 ≤ levels
  /-- No limit is deeper than the deepest one. -/
  le_deepest : levels ≤ deepestLimit
  deriving DecidableEq

/-- The nesting limit with a number of levels, which is refused outside the range of limits. -/
def NestingLimit.ofInt (levels : Int) : Except InvalidValue NestingLimit :=
  if h : 1 ≤ levels.toNat ∧ levels.toNat ≤ deepestLimit then .ok ⟨levels.toNat, h.1, h.2⟩
  else .error .nestingLimit

/-- Where a scan stands. -/
structure Scanner where
  /-- What has not been read. -/
  rest : Text
  /-- How many characters have been read. -/
  position : Nat
  /-- How many braced references are open. -/
  depth : Nat
  deriving DecidableEq

/-- A scan given up: the error, and where the scan stood. -/
structure Halt where
  /-- What is wrong with the template. -/
  error : ParseError
  /-- Where the scan stood. -/
  scanner : Scanner
  deriving DecidableEq

namespace Scanner

/-- The scanner behind the next `n` characters. -/
def advance (s : Scanner) (n : Nat) : Scanner :=
  { s with rest := s.rest.drop n, position := s.position + n }

/-- The scanner with one more braced reference open. -/
def deepened (s : Scanner) : Scanner := { s with depth := s.depth + 1 }

/-- Nothing but the characters that are passed is missing from the rest. -/
theorem length_advance (s : Scanner) (n : Nat) :
    (s.advance n).rest.length = s.rest.length - n := List.length_drop

/-- The scan given up for some cause at some position. -/
def halt (s : Scanner) (cause : ParseCause) (position : Nat) : Halt := ⟨⟨cause, position⟩, s⟩

/-- The slice of the template between two scanners. -/
def sliceTo (s t : Scanner) : Text := s.rest.take (t.position - s.position)

/-- A scanner that has no more to read than `s`. -/
abbrev AtMost (s : Scanner) := { t : Scanner // t.rest.length ≤ s.rest.length }

/-- A scanner that has less to read than `s`. -/
abbrev Below (s : Scanner) := { t : Scanner // t.rest.length < s.rest.length }

/-- Reads a name as far as it goes. -/
def name (s : Scanner) : Except Halt (Text × Below s) :=
  match hs : s.rest with
  | [] => .error (s.halt .expectedName s.position)
  | c :: rest =>
    if isNameStart c then
      let tail := rest.takeWhile isNameChar
      .ok (c :: tail, ⟨s.advance (tail.length + 1), by
        rw [length_advance, hs, List.length_cons]; omega⟩)
    else .error (s.halt .expectedName s.position)

/-- Reads the closing brace of the reference that starts at `start`. -/
def close (s : Scanner) (start : Nat) : Except Halt (Below s) :=
  match hs : s.rest with
  | [] => .error (s.halt .unterminated start)
  | c :: rest =>
    if c = '}' then
      .ok ⟨⟨rest, s.position + 1, s.depth - 1⟩, by rw [hs]; exact Nat.lt_succ_self _⟩
    else .error (s.halt (.unexpectedCharacter c) s.position)

/-- Reads the operator with the longest symbol, in the reference that starts at `start`. -/
def operator (s : Scanner) (start : Nat) : Except Halt (Operator × AtMost s) :=
  match s.rest with
  | [] => .error (s.halt .unterminated start)
  | c :: _ => match Operator.leading? s.rest with
    | none => .error (s.halt (.unknownOperator c) s.position)
    | some op => .ok (op, ⟨s.advance op.symbol.length, by
        rw [length_advance]; exact Nat.sub_le _ _⟩)

mutual

/-- `pieces` with the proof that no more is left than before. -/
def piecesBelow (limit : NestingLimit) (context : Context) (s : Scanner) :
    Except Halt (List Piece × AtMost s) :=
  match hs : s.rest with
  | [] => .ok ([], ⟨s, Nat.le_refl _⟩)
  | c :: rest =>
    have h₁ : (s.advance 1).rest.length + 1 = s.rest.length := by
      rw [length_advance, hs, List.length_cons]; omega
    have h₂ : (s.advance 2).rest.length < s.rest.length := by
      rw [length_advance, hs, List.length_cons]; omega
    if context.stops c then .ok ([], ⟨s, Nat.le_refl _⟩)
    else match context.escaped? s.rest with
      | some e => do
        let (ps, t) ← piecesBelow limit context (s.advance 2)
        .ok (.char e :: ps, ⟨t.1, by omega⟩)
      | none =>
        if startsReference s.rest then do
          let (node, t) ← referenceBelow limit s
          let (ps, u) ← piecesBelow limit context t.1
          .ok (.reference node :: ps, ⟨u.1, by omega⟩)
        else do
          let (ps, t) ← piecesBelow limit context (s.advance 1)
          .ok (.char c :: ps, ⟨t.1, by omega⟩)
termination_by (s.rest.length, 2)
decreasing_by all_goals omega

/-- `reference` with the proof that less is left than before. -/
def referenceBelow (limit : NestingLimit) (s : Scanner) : Except Halt (Node × Below s) :=
  if (s.advance 1).rest.head? = some '{' then bracedBelow limit s
  else
    have h₁ := s.length_advance 1
    do
      let (n, t) ← (s.advance 1).name
      .ok (.reference n [] [] (s.sliceTo t) s.position, ⟨t.1, by omega⟩)
termination_by (s.rest.length, 1)

/-- `braced` with the proof that less is left than before. -/
def bracedBelow (limit : NestingLimit) (s : Scanner) : Except Halt (Node × Below s) :=
  let inner := s.deepened.advance 2
  have h : inner.rest.length ≤ s.rest.length := by simp [inner, deepened, length_advance]
  if limit.levels < s.depth + 1 then
    .error (s.deepened.halt (.nestedTooDeep limit.levels) s.position)
  else if inner.rest.head? = some '#' then
    have h₁ := inner.length_advance 1
    do
      let (n, t) ← (inner.advance 1).name
      let u ← t.1.close s.position
      .ok (.reference n lengthSymbol [] (s.sliceTo u) s.position, ⟨u.1, by omega⟩)
  else do
    let (n, t) ← inner.name
    if t.1.rest.head? = some '}' then
      let u ← t.1.close s.position
      .ok (.reference n [] [] (s.sliceTo u) s.position, ⟨u.1, by omega⟩)
    else
      let (op, u) ← t.1.operator s.position
      let (arguments, v) ← argumentsBelow limit op op.maxArguments u
      let w ← v.1.close s.position
      .ok (.reference n op.symbol arguments (s.sliceTo w) s.position, ⟨w.1, by omega⟩)
termination_by (s.rest.length, 0)
decreasing_by omega

/-- `arguments` with the proof that no more is left than before. -/
def argumentsBelow (limit : NestingLimit) (op : Operator) (count : Nat) (s : Scanner) :
    Except Halt (List Node × AtMost s) :=
  match count with
  | 0 => .ok ([], ⟨s, Nat.le_refl _⟩)
  | more + 1 => do
    let (ps, t) ← piecesBelow limit (.argument op.separator (0 < more)) s
    if h : 0 < more ∧ op.separates t.1.rest then
      have h₁ : (t.1.advance 1).rest.length < t.1.rest.length := by
        cases ht : t.1.rest with
        | nil => simp [Operator.separates, ht] at h
        | cons c rest => simp [length_advance, ht]
      let (arguments, u) ← argumentsBelow limit op more (t.1.advance 1)
      .ok (Node.ofPieces ps :: arguments, ⟨u.1, by omega⟩)
    else .ok ([Node.ofPieces ps], t)
termination_by (s.rest.length, 3)
decreasing_by all_goals omega

end

/-- Reads the pieces up to a stop character, which is left unread, or to the end. -/
def pieces (limit : NestingLimit) (context : Context) (s : Scanner) :
    Except Halt (List Piece × Scanner) :=
  (piecesBelow limit context s).map fun r => (r.1, r.2.1)

/-- Reads a reference from its dollar sign on. -/
def reference (limit : NestingLimit) (s : Scanner) : Except Halt (Node × Scanner) :=
  (referenceBelow limit s).map fun r => (r.1, r.2.1)

/-- Reads a braced reference from its dollar sign on. -/
def braced (limit : NestingLimit) (s : Scanner) : Except Halt (Node × Scanner) :=
  (bracedBelow limit s).map fun r => (r.1, r.2.1)

/-- Reads the arguments of an operator, `count` of them at most. -/
def arguments (limit : NestingLimit) (op : Operator) (count : Nat) (s : Scanner) :
    Except Halt (List Node × Scanner) :=
  (argumentsBelow limit op count s).map fun r => (r.1, r.2.1)

section
variable (limit : NestingLimit) (context : Context) (op : Operator) (more : Nat) (s : Scanner)

/-- `pieces` by the next character: it stops, reads an escape or a reference, or takes the
character as it is. -/
theorem pieces_eq :
    pieces limit context s =
      (match s.rest with
      | [] => .ok ([], s)
      | c :: _ =>
        if context.stops c then .ok ([], s)
        else match context.escaped? s.rest with
          | some e => do
            let (ps, t) ← pieces limit context (s.advance 2)
            .ok (.char e :: ps, t)
          | none =>
            if startsReference s.rest then do
              let (node, t) ← reference limit s
              let (ps, u) ← pieces limit context t
              .ok (.reference node :: ps, u)
            else do
              let (ps, t) ← pieces limit context (s.advance 1)
              .ok (.char c :: ps, t)) := by
  rw [pieces, piecesBelow]
  split
  · next hs => simp [hs, Except.map]
  · next c rest hs =>
    simp only [hs]
    split
    · simp [Except.map]
    · cases he : context.escaped? (c :: rest) with
      | some e =>
        simp only [pieces, bind, Except.bind, Except.map]
        cases piecesBelow limit context (s.advance 2) <;> rfl
      | none =>
        simp only [pieces, reference, bind, Except.bind, Except.map]
        by_cases hr : startsReference (c :: rest) = true
        · simp only [hr, if_true]
          cases referenceBelow limit s with
          | error => rfl
          | ok r => dsimp only; cases piecesBelow limit context r.2.1 <;> rfl
        · simp only [hr]
          cases piecesBelow limit context (s.advance 1) <;> rfl

/-- `reference` by the character behind the dollar sign: an opening brace, or a name. -/
theorem reference_eq :
    reference limit s =
      (if (s.advance 1).rest.head? = some '{' then braced limit s
      else do
        let (n, t) ← (s.advance 1).name
        .ok (.reference n [] [] (s.sliceTo t) s.position, t.1)) := by
  rw [reference, referenceBelow]
  simp only [braced, bind, Except.bind]
  split
  · rfl
  · cases (s.advance 1).name <;> rfl

/-- `braced` by what stands in the braces: the length of a variable, a plain variable, or a variable
with an operator. -/
theorem braced_eq :
    braced limit s =
      (if limit.levels < s.depth + 1 then
        .error (s.deepened.halt (.nestedTooDeep limit.levels) s.position)
      else if (s.deepened.advance 2).rest.head? = some '#' then do
        let (n, t) ← ((s.deepened.advance 2).advance 1).name
        let u ← t.1.close s.position
        .ok (.reference n lengthSymbol [] (s.sliceTo u) s.position, u.1)
      else do
        let (n, t) ← (s.deepened.advance 2).name
        if t.1.rest.head? = some '}' then
          let u ← t.1.close s.position
          .ok (.reference n [] [] (s.sliceTo u) s.position, u.1)
        else
          let (op, u) ← t.1.operator s.position
          let (nodes, v) ← arguments limit op op.maxArguments u
          let w ← v.close s.position
          .ok (.reference n op.symbol nodes (s.sliceTo w) s.position, w.1)) := by
  rw [braced, bracedBelow]
  simp only [arguments, bind, Except.bind, Except.map]
  by_cases hd : limit.levels < s.depth + 1
  · simp only [hd, if_true]
  simp only [hd, if_false]
  by_cases hl : (s.deepened.advance 2).rest.head? = some '#'
  · simp only [hl, if_true]
    cases ((s.deepened.advance 2).advance 1).name with
    | error => rfl
    | ok r => dsimp only; cases r.2.1.close s.position <;> rfl
  simp only [hl, if_false]
  cases (s.deepened.advance 2).name with
  | error => rfl
  | ok r =>
    dsimp only
    by_cases hc : r.2.1.rest.head? = some '}'
    · simp only [hc, if_true]
      cases r.2.1.close s.position <;> rfl
    · simp only [hc, if_false]
      cases r.2.1.operator s.position with
      | error => rfl
      | ok o =>
        dsimp only
        cases argumentsBelow limit o.1 o.1.maxArguments o.2.1 with
        | error => rfl
        | ok a => dsimp only; cases a.2.1.close s.position <;> rfl

/-- No argument is read when none may be. -/
theorem arguments_zero : arguments limit op 0 s = .ok ([], s) := by
  rw [arguments, argumentsBelow]
  rfl

/-- An argument is read to its end, and behind a separator so are the further ones. -/
theorem arguments_succ :
    arguments limit op (more + 1) s = (do
      let (ps, t) ← pieces limit (.argument op.separator (0 < more)) s
      if 0 < more ∧ op.separates t.rest then
        let (nodes, u) ← arguments limit op more (t.advance 1)
        .ok (Node.ofPieces ps :: nodes, u)
      else .ok ([Node.ofPieces ps], t)) := by
  rw [arguments, argumentsBelow]
  simp only [pieces, arguments, bind, Except.bind, Except.map]
  cases piecesBelow limit (.argument op.separator (0 < more)) s with
  | error => rfl
  | ok r =>
    dsimp only
    by_cases h : 0 < more ∧ op.separates r.2.1.rest
    · simp only [h]
      cases argumentsBelow limit op more (r.2.1.advance 1) <;> rfl
    · simp only [h, dif_neg, if_false, not_false_eq_true]

end

end Scanner

end ParameterExpansion

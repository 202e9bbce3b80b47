import ParameterExpansion.Proofs.Scanner.Progress
import ParameterExpansion.Template

/-!
# A parser advances in its template

Where the scan of a parser's template comes to stand. From any place in the template the loop that
reads pieces ends within as many rounds as characters are left, and one for the end, and so do the
loops in each other. A round that adds a piece reads a character at least, a reference two, and the
arguments of an operator take no more rounds than the operator takes arguments. So a parser gives a
result for every template (`Parser.scan_advances`).
-/

namespace ParameterExpansion

namespace Parser

open Scanner Budgeted

/-- Reads a template in a scan with a budget: nothing if the scan would exceed it. -/
def parseWithin (p : Parser) (budget : Nat) (source : Text) :
    Option (Except ParseError Node × Parser) :=
  let fresh := p.reset source
  (fresh.scanner.piecesWithin p.limit budget .template).run.map fun
    | .ok (pieces, s) => (.ok (Node.ofPieces pieces), fresh.stopAt s)
    | .error halt => (.error halt.error, fresh.stopAt halt.scanner)

/-- `s` stands in the template of `p`, at least `least` characters behind `p`, with as many
references open. -/
structure Reaches (p : Parser) (least : Nat) (s : Scanner) : Prop where
  /-- What is left is the rest of the template. -/
  rest_eq : s.rest = p.source.drop s.position
  /-- The characters have been read. -/
  least_le : p.position + least ≤ s.position
  /-- No more has been read than there is. -/
  le_length : s.position ≤ p.source.length
  /-- The references are open. -/
  depth_eq : s.depth = p.depth

section
variable {p : Parser} {s : Scanner} {least : Nat}

/-- A scanner in the text of a parser's scanner stands in the template. -/
theorem stands_of_ahead (hp : p.position ≤ p.source.length) (h : p.scanner.Ahead s) :
    s.rest = p.source.drop s.position ∧ s.position ≤ p.source.length := by
  obtain ⟨read, hrest, hposition⟩ := h
  change p.source.drop p.position = read ++ s.rest at hrest
  change s.position = p.position + read.length at hposition
  constructor
  · rw [hposition, ← List.drop_drop, hrest, List.drop_left]
  · have hlength := congrArg List.length hrest
    rw [List.length_drop, List.length_append] at hlength
    omega

/-- What moves on from a parser's scanner reaches a place in the template. -/
theorem Reaches.of_moves (hp : p.position ≤ p.source.length)
    (h : p.scanner.Moves least p.depth s) : p.Reaches least s := by
  obtain ⟨hrest, hle⟩ := stands_of_ahead hp h.ahead
  exact ⟨hrest, h.least_le, hle, h.depth_eq⟩

/-- Where the next character can only be one of some kind, there is such a character in the
template, or the template is over. -/
theorem Reaches.eq_length_or (h : p.Reaches least s) {P : Char → Prop}
    (hP : ∀ c, s.rest.head? = some c → P c) :
    s.position = p.source.length ∨ ∃ c, p.source[s.position]? = some c ∧ P c := by
  have hhead : s.rest.head? = p.source[s.position]? := by rw [h.rest_eq, List.head?_drop]
  cases hc : p.source[s.position]? with
  | none => exact .inl (Nat.le_antisymm h.le_length (List.getElem?_eq_none_iff.1 hc))
  | some c => exact .inr ⟨c, rfl, hP c (hhead.trans hc)⟩

/-- A budget of more than the characters of a template suffices to read it. -/
theorem parseWithin_eq {source : Text} {budget : Nat} (hbudget : source.length < budget) :
    p.parseWithin budget source = some (p.parse source) := by
  unfold parseWithin parse
  dsimp only
  rw [piecesWithin_eq hbudget]
  cases pieces p.limit .template (p.reset source).scanner <;> rfl

/-- What a scan with such a budget gives is what the parser does. -/
theorem parse_of_parseWithin {source : Text} {r : Except ParseError Node × Parser} (budget : Nat)
    (hbudget : source.length < budget) (h : p.parseWithin budget source = some r) :
    p.parse source = r :=
  Option.some.inj ((parseWithin_eq hbudget).symm.trans h)

/-- A template with the tree that such a scan gives is read. -/
theorem parse_template_of_parseWithin {limit : NestingLimit} {source : Text} {root : Node}
    {q : Parser} (budget : Nat) (hbudget : source.length < budget)
    (h : (ofLimit limit).parseWithin budget source = some (.ok root, q)) :
    Template.parse limit source = .ok ⟨root, source⟩ := by
  rw [Template.parse, parse_of_parseWithin budget hbudget h]
  rfl

end

/-- From any place in a template: the loop of pieces ends within as many rounds as characters are
left and one for the end, and so do the loops in each other; it moves on to the end or to a stop
character. A round that adds a piece reads at least one character, a reference at least two. An
operator that takes arguments is given at least one and no more than it takes, in no more rounds, up
to a closing brace or the end. So any budget of more than its characters suffices for a template. -/
theorem scan_advances (p : Parser) (hp : p.position ≤ p.source.length) :
    (∀ context,
      p.scanner.piecesWithin p.limit (p.source.length - p.position + 1) context =
        ended (p.scanner.pieces p.limit context) ∧
      rounds (pieceRound (fun s => ended (s.reference p.limit)) context)
        (p.source.length - p.position + 1) [] p.scanner =
          ended (p.scanner.pieces p.limit context) ∧
      (∀ ps qs s, pieceRound (fun s => ended (s.reference p.limit)) context ps p.scanner =
        ended (.ok ((true, qs), s)) → p.Reaches 1 s) ∧
      ∀ ps s, p.scanner.pieces p.limit context = .ok (ps, s) → p.Reaches 0 s ∧
        (s.position = p.source.length ∨
          ∃ c, p.source[s.position]? = some c ∧ context.stops c = true)) ∧
    (∀ node s, startsReference p.scanner.rest = true →
      p.scanner.reference p.limit = .ok (node, s) → p.Reaches 2 s) ∧
    (∀ op : Operator, 0 < op.maxArguments →
      rounds (argumentRound (fun context s => ended (s.pieces p.limit context)) op)
        op.maxArguments [] p.scanner = ended (p.scanner.arguments p.limit op op.maxArguments) ∧
      ∀ nodes s, p.scanner.arguments p.limit op op.maxArguments = .ok (nodes, s) →
        p.Reaches 0 s ∧ 1 ≤ nodes.length ∧ nodes.length ≤ op.maxArguments ∧
          (s.position = p.source.length ∨ p.source[s.position]? = some '}')) ∧
    ∀ source budget, source.length < budget →
      p.parseWithin budget source = some (p.parse source) := by
  have hleft : p.scanner.rest.length < p.source.length - p.position + 1 := by
    rw [scanner, List.length_drop]
    exact Nat.lt_succ_self _
  refine ⟨fun context => ⟨piecesWithin_eq hleft, ?_, fun ps qs s h => ?_, fun ps s h => ?_⟩,
    fun node s hstart h => ?_, fun op hop => ⟨?_, fun nodes s h => ?_⟩,
    fun source budget => parseWithin_eq⟩
  · rw [rounds_pieceRound (fun _ _ => rfl) _ [] _ (Nat.le_refl _) hleft]
    cases p.scanner.pieces p.limit context <;> rfl
  · have hround : Meets p.limit p.scanner _
        (pieceRound (fun s => ended (s.reference p.limit)) context ps p.scanner) :=
      pieceRound_meets reference_meets ps
    exact .of_moves hp (hround.1 _ h).1
  · obtain ⟨hmoves, hends⟩ := (pieces_meets p.limit context p.scanner).1 _ (congrArg ended h)
    have hreaches := Reaches.of_moves hp hmoves
    exact ⟨hreaches, hreaches.eq_length_or fun c hc => Context.stops_iff.2 (hends c hc)⟩
  · exact .of_moves hp ((reference_meets hstart).1 _ (congrArg ended h))
  · rw [← argumentsBy_eq fun _ _ _ => rfl, argumentsBy, if_pos hop]
  · obtain ⟨hmoves, hnodes⟩ := arguments_meets.1 _ (congrArg ended h)
    obtain ⟨hone, hmost, hends⟩ := hnodes hop
    have hreaches := Reaches.of_moves hp hmoves
    refine ⟨hreaches, hone, hmost, (hreaches.eq_length_or hends).imp_right ?_⟩
    rintro ⟨c, hc, rfl⟩
    exact hc

/-- A parser in `$\x7bx/a/b$\x7by\x7d\x7d`, where the replacement begins. -/
def specimen : Parser := ⟨⟨2, by decide, by decide⟩, "$\x7bx/a/b$\x7by\x7d\x7d".toList, 6, 1⟩

/-- The replacement, a character and a reference, is read up to the brace that closes the outer
one. -/
theorem scan_advances_specimen :
    specimen.position ≤ specimen.source.length ∧
    ∃ ps s, specimen.scanner.pieces specimen.limit (.argument (some '/') false) = .ok (ps, s) ∧
      ps.length = 2 ∧ specimen.Reaches 0 s ∧ specimen.source[s.position]? = some '}' := by
  have hp : specimen.position ≤ specimen.source.length := by decide
  obtain ⟨hpieces, -⟩ := scan_advances specimen hp
  obtain ⟨hbudget, -, -, hends⟩ := hpieces (.argument (some '/') false)
  have hread : specimen.scanner.piecesWithin specimen.limit 7 (.argument (some '/') false) =
      ended (.ok ([.char 'b', .reference (.reference ['y'] [] [] "$\x7by\x7d".toList 7)],
        ⟨['}'], 11, 1⟩)) := rfl
  have hok := Option.some.inj (hbudget.symm.trans hread)
  exact ⟨hp, _, _, hok, rfl, (hends _ _ hok).1, rfl⟩

end Parser

end ParameterExpansion

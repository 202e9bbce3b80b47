import Mathlib.Data.List.Chain
import ParameterExpansion.Proofs.Grammar.Basic

/-!
# Written trees

How a tree is written down as a template (`Node.written`), and which trees can be
(`Node.WellFormed`). A written tree is derived by the grammar, at whatever offset it stands: its
tree is the written one, in which each reference holds the slice that it was written as and the
offset of that slice (`Node.placed`). Outside of arguments nothing is escaped; in an argument a
backslash is written before whatever it makes literal there.
-/

namespace ParameterExpansion

/-! ## Writing -/

/-- A text with a backslash before each special character. -/
def Text.backslashed (special : Char → Bool) : Text → Text
  | [] => []
  | c :: rest => if special c then '\\' :: c :: backslashed special rest
    else c :: backslashed special rest

/-- The separator of the operator with a symbol. -/
def separatorOf (symbol : Text) : Option Char :=
  (Operator.ofSymbol? symbol).bind Operator.separator

/-- The separator of an operator is found by its symbol. -/
theorem separatorOf_symbol (op : Operator) : separatorOf op.symbol = op.separator := by
  rw [separatorOf, Operator.ofSymbol?_symbol]
  rfl

/-- The characters that are special in the arguments of the operator with a symbol. -/
def specialFor (symbol : Text) : Char → Bool :=
  (Context.argument (separatorOf symbol) false).escapes

namespace Node

mutual

/-- Writes a tree where the characters of some class are special. -/
def written (special : Char → Bool) : Node → Text
  | .text value => value.backslashed special
  | .reference name symbol arguments _ _ =>
    if symbol = lengthSymbol ∧ arguments.length = 0 then inBraces ('#' :: name)
    else inBraces (name ++ (symbol ++ writtenArguments symbol arguments))
  | .sequence children => writtenEach special children

/-- Writes the nodes of a list side by side. -/
def writtenEach (special : Char → Bool) : List Node → Text
  | [] => []
  | n :: ns => written special n ++ writtenEach special ns

/-- Writes the arguments behind a symbol, with the separator of its operator between them. -/
def writtenArguments (symbol : Text) : List Node → Text
  | [] => []
  | [n] => written (specialFor symbol) n
  | n :: m :: ns =>
    written (specialFor symbol) n ++
      ((separatorOf symbol).toList ++ writtenArguments symbol (m :: ns))

end

/-- Writes a tree as a template, in which nothing is special. -/
def print (n : Node) : Text := n.written fun _ => false

mutual

/-- A tree with the slices and offsets that its references have when it is written at an offset. -/
def placed (special : Char → Bool) (p : Nat) : Node → Node
  | .text value => .text value
  | .reference name symbol arguments source position =>
    .reference name symbol (placedArguments symbol (p + 2 + name.length + symbol.length) arguments)
      (written special (.reference name symbol arguments source position)) p
  | .sequence children => .sequence (placedEach special p children)

/-- The nodes of a list, placed side by side from an offset on. -/
def placedEach (special : Char → Bool) (p : Nat) : List Node → List Node
  | [] => []
  | n :: ns => placed special p n :: placedEach special (p + (written special n).length) ns

/-- The arguments behind a symbol, placed from an offset on, with one character between them. -/
def placedArguments (symbol : Text) (p : Nat) : List Node → List Node
  | [] => []
  | n :: ns => placed (specialFor symbol) p n ::
    placedArguments symbol (p + (written (specialFor symbol) n).length + 1) ns

end

mutual

/-- How many braced references stand in each other in a tree, when all references are braced. -/
def nesting : Node → Nat
  | .text _ => 0
  | .reference _ _ arguments _ _ => nestingEach arguments + 1
  | .sequence children => nestingEach children

/-- The deepest `nesting` in a list. -/
def nestingEach : List Node → Nat
  | [] => 0
  | n :: ns => max (nesting n) (nestingEach ns)

end

mutual

/-- A tree with the slices and offsets of its references forgotten. -/
def shape : Node → Node
  | .text value => .text value
  | .reference name symbol arguments _ _ => .reference name symbol (shapeEach arguments) [] 0
  | .sequence children => .sequence (shapeEach children)

/-- `shape` of each node of a list. -/
def shapeEach : List Node → List Node
  | [] => []
  | n :: ns => shape n :: shapeEach ns

end

end Node

/-! ## Well-formed trees -/

/-- No reference starts in a text. -/
def IsLiteral (value : Text) : Prop := ∀ rest, rest <:+ value → ¬ OpensReference rest

/-- A symbol that may stand with so many arguments: none, that of the length, or that of an
operator. -/
def TakesArguments (symbol : Text) (count : Nat) : Prop :=
  (symbol = [] ∧ count = 0) ∨ (symbol = lengthSymbol ∧ count = 0) ∨
    ∃ op : Operator, symbol = op.symbol ∧ op.minArguments ≤ count ∧ count ≤ op.maxArguments

namespace Node

/-- A tree is a text. -/
def IsText : Node → Prop
  | .text _ => True
  | _ => False

/-- A tree may stand in a sequence when it is a text with a character or a reference. -/
def IsPart : Node → Prop
  | .text value => value ≠ []
  | .reference .. => True
  | .sequence _ => False

/-- A tree that can be written as a template or as an argument. -/
inductive WellFormed : Node → Prop
  /-- A text in which no reference starts. -/
  | text : IsLiteral value → WellFormed (.text value)
  /-- A reference with as many arguments as its operator takes. -/
  | reference : IsName name → TakesArguments symbol arguments.length →
      (∀ n ∈ arguments, WellFormed n) →
      WellFormed (.reference name symbol arguments source position)
  /-- Two or more texts and references, where no text stands next to a text. -/
  | sequence : 2 ≤ children.length → (∀ n ∈ children, n.IsPart) →
      children.IsChain (fun n m => ¬ (n.IsText ∧ m.IsText)) →
      (∀ n ∈ children, WellFormed n) → WellFormed (.sequence children)

end Node

/-- What is written behind the symbol of a reference does not make a longer symbol of it. -/
def Reference.SymbolEnds (r : Reference) : Prop :=
  ∀ c (op : Operator), (Node.writtenArguments r.symbol r.arguments ++ ['}']).head? = some c →
    op.symbol ≠ r.symbol ++ [c]

section
variable {context : Context} {c : Char} {t after value : Text} {ps : List Piece}

/-! ## Texts -/

/-- What ends the pieces of a context can be escaped there. -/
theorem Context.escapable_of_ends (h : context.Ends c) : context.Escapable c := by
  cases context with
  | template => exact h.elim
  | argument separator more =>
    rcases h with rfl | ⟨-, hc⟩
    · exact .inr (.inl rfl)
    · exact .inr (.inr hc)

/-- Where anything can be escaped, so can the backslash. -/
theorem Context.escapable_backslash (h : context.Escapable c) : context.Escapable '\\' := by
  cases context with
  | template => exact h.elim
  | argument separator more => exact .inl rfl

/-- The characters that can be escaped are the same in both arguments of an operator. -/
theorem Context.escapes_argument (separator : Option Char) (more : Bool) :
    (Context.argument separator more).escapes = (Context.argument separator false).escapes := by
  funext c
  rfl

/-- A text is literal when no reference starts with it and what is behind its first character is
literal. -/
theorem isLiteral_cons :
    IsLiteral (c :: value) ↔ startsReference (c :: value) = false ∧ IsLiteral value := by
  have hstart : startsReference (c :: value) = false ↔ ¬ OpensReference (c :: value) := by
    rw [← startsReference_iff, Bool.not_eq_true]
  rw [hstart]
  refine ⟨fun h => ⟨h _ (List.suffix_refl _), fun rest hrest =>
    h rest (hrest.trans (List.suffix_cons c value))⟩, fun ⟨hopens, h⟩ rest hrest => ?_⟩
  rcases List.suffix_cons_iff.1 hrest with rfl | hrest
  · exact hopens
  · exact h rest hrest

/-- The end of a literal text is literal. -/
theorem IsLiteral.tail (h : IsLiteral (c :: value)) : IsLiteral value := (isLiteral_cons.1 h).2

/-- Whether a text is literal is decided character by character. -/
instance IsLiteral.decide : DecidablePred IsLiteral
  | [] => isTrue fun rest hrest hopens => by
    obtain ⟨c, tail, rfl, -⟩ := hopens
    exact absurd (List.suffix_nil.1 hrest) nofun
  | c :: value =>
    have := IsLiteral.decide value
    decidable_of_iff _ (isLiteral_cons (c := c)).symm

/-- What is written for a literal text starts no reference before a text that continues none. -/
theorem IsLiteral.not_opens (h : IsLiteral (c :: value)) (special : Char → Bool)
    (hafter : ¬ OpensReference ('$' :: after)) :
    ¬ OpensReference (c :: (value.backslashed special ++ after)) := by
  rintro ⟨b, rest, heq, hb⟩
  obtain ⟨rfl, htail⟩ := List.cons.inj heq
  cases value with
  | nil =>
    obtain rfl : after = b :: rest := htail
    exact hafter ⟨b, rest, rfl, hb⟩
  | cons a value =>
    rw [Text.backslashed] at htail
    split at htail
    · obtain ⟨rfl, -⟩ := List.cons.inj htail
      revert hb
      decide
    · obtain ⟨rfl, -⟩ := List.cons.inj htail
      exact h _ (List.suffix_refl _) ⟨a, value, rfl, hb⟩

/-- A literal text is written as characters and escapes. -/
theorem Pieces.backslashed (h : IsLiteral value) (hafter : ¬ OpensReference ('$' :: after))
    (p : Nat) :
    Pieces context p (value.backslashed context.escapes) after (value.map .char) 0 := by
  induction value generalizing p with
  | nil => exact .nil
  | cons c value ih =>
    rw [Text.backslashed]
    split
    · next hc => exact .escape (Context.escapes_iff.1 hc) (ih h.tail (p + 2))
    next hc =>
    have hc : ¬ context.Escapable c := fun hescapable => hc (Context.escapes_iff.2 hescapable)
    refine .char ⟨fun hends => hc (Context.escapable_of_ends hends),
      h.not_opens context.escapes hafter, ?_⟩ (ih h.tail (p + 1))
    rintro rfl a - ha
    exact hc (Context.escapable_backslash ha)

/-- Characters are the text that they make up, before pieces that do not start with a text. -/
theorem Piece.fuse_chars (hvalue : value ≠ []) (hps : ∀ v ns, Piece.fuse ps ≠ .text v :: ns) :
    Piece.fuse (value.map .char ++ ps) = .text value :: Piece.fuse ps := by
  induction value with
  | nil => exact absurd rfl hvalue
  | cons c value ih =>
    rw [List.map_cons, List.cons_append, Piece.fuse]
    cases value with
    | nil =>
      rw [List.map_nil, List.nil_append]
      split
      · next v ns heq => exact absurd heq (hps v ns)
      · rfl
    | cons d value => rw [ih nofun]

/-- Characters make up the text that they are. -/
theorem Node.ofPieces_chars (value : Text) : Node.ofPieces (value.map .char) = .text value := by
  cases value with
  | nil => rfl
  | cons c value =>
    have hfuse := @Piece.fuse_chars _ [] (List.cons_ne_nil c value) nofun
    rw [List.append_nil] at hfuse
    rw [Node.ofPieces, hfuse]
    rfl

/-- Where nothing is special, no backslash is written. -/
theorem Text.backslashed_of_forall {special : Char → Bool} (h : ∀ c ∈ t, special c = false) :
    t.backslashed special = t := by
  induction t with
  | nil => rfl
  | cons c t ih =>
    rw [Text.backslashed, ih fun d hd => h d (List.mem_cons_of_mem c hd), h c List.mem_cons_self]
    rfl

/-- A literal text is a template without references. -/
theorem IsLiteral.derives (h : IsLiteral value) : Derives value (.text value) 0 := by
  have hpieces := @Pieces.backslashed .template [] value h nofun 0
  have hwritten : value.backslashed Context.template.escapes = value :=
    Text.backslashed_of_forall fun _ _ => rfl
  rw [hwritten] at hpieces
  exact ⟨_, hpieces, (Node.ofPieces_chars value).symm⟩

/-- Pieces side by side. -/
theorem Pieces.append : ∀ {context p t behind ps d}, Pieces context p t behind ps d →
    ∀ u after qs e, behind = u ++ after → Pieces context (p + t.length) u after qs e →
      Pieces context p (t ++ u) after (ps ++ qs) (max d e)
  | _, _, _, _, _, _, .nil, _, _, _, _, _, hq => by
    rw [Nat.zero_max]
    exact hq
  | _, _, _, _, _, _, .char hl hp, _, _, _, _, hbehind, hq => by
    have ih := Pieces.append hp
    subst hbehind
    rw [← List.append_assoc] at hl
    rw [List.length_cons, Nat.add_comm _ 1, ← Nat.add_assoc] at hq
    exact .char hl (ih _ _ _ _ rfl hq)
  | _, _, _, _, _, _, .escape he hp, _, _, _, _, hbehind, hq => by
    have ih := Pieces.append hp
    subst hbehind
    rw [List.length_cons, List.length_cons, Nat.add_assoc, Nat.add_comm _ 2, ← Nat.add_assoc] at hq
    exact .escape he (ih _ _ _ _ rfl hq)
  | _, _, _, _, _, _, .reference hu hp, _, _, _, _, hbehind, hq => by
    have ih := Pieces.append hp
    subst hbehind
    rw [← List.append_assoc] at hu
    rw [List.length_append, ← Nat.add_assoc] at hq
    rw [List.append_assoc, Nat.max_assoc]
    exact .reference hu (ih _ _ _ _ rfl hq)

end

end ParameterExpansion

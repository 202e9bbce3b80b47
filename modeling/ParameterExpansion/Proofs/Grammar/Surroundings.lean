import ParameterExpansion.Proofs.Grammar.Unambiguous

/-!
# What surrounds a derivation

What surrounds a text matters little to its derivation. Of the text behind it only the first
character does (`Pieces.congr_behind`), and to a reference in braces not even that
(`Refers.onto`). Pieces that are the whole of a text are the pieces of its beginning too, unless a
dollar sign, a name or a backslash at their end goes on into what stands behind (`Pieces.onto`).
Where a text stands only moves the positions of its references (`Pieces.moved`).
-/

namespace ParameterExpansion

/-- A reference in braces, as its slice shows. -/
def Reference.IsBraced (r : Reference) : Prop := ['$', '{'] <+: r.source

instance (r : Reference) : Decidable r.IsBraced :=
  inferInstanceAs (Decidable (['$', '{'] <+: r.source))

section
variable {context : Context} {op : Operator} {c : Char} {t after behind : Text} {ps : List Piece}

/-! ## The first character behind a text -/

/-- Whether a reference starts at a character shows in the character behind it. -/
theorem opensReference_cons_iff :
    OpensReference (c :: t) ↔
      c = '$' ∧ ∃ e, t.head? = some e ∧ (e = '{' ∨ isNameStart e = true) := by
  constructor
  · rintro ⟨e, rest, heq, he⟩
    obtain ⟨rfl, rfl⟩ := List.cons.inj heq
    exact ⟨rfl, e, rfl, he⟩
  · rintro ⟨rfl, e, hhead, he⟩
    obtain ⟨rest, rfl⟩ := List.head?_eq_some_iff.1 hhead
    exact ⟨e, rest, rfl, he⟩

/-- A character that ends nothing and is neither a dollar sign nor a backslash means itself. -/
theorem Context.literal_of_ne (hends : ¬ context.Ends c) (hdollar : c ≠ '$') (hback : c ≠ '\\')
    (after : Text) : context.Literal c after where
  not_ends := hends
  not_opens h := hdollar (opensReference_cons_iff.1 h).1
  not_escape h := absurd h hback

/-- Whether a character means itself shows in the character behind it. -/
theorem Context.Literal.congr_head? (h : context.Literal c after)
    (hhead : behind.head? = after.head?) : context.Literal c behind where
  not_ends := h.not_ends
  not_opens := by
    rw [opensReference_cons_iff, hhead, ← opensReference_cons_iff]
    exact h.not_opens
  not_escape := by
    rw [hhead]
    exact h.not_escape

/-- A name ends as well before any other text that starts with the same character. -/
theorem EndsName.congr_head? (h : EndsName after) (hhead : behind.head? = after.head?) :
    EndsName behind := by
  intro c hc
  exact h c (hhead ▸ hc)

/-- A symbol is the longest one exactly when it does not go on into a longer one. -/
theorem Operator.isLongest_append_iff :
    op.IsLongest (op.symbol ++ t) ↔
      ∀ c (other : Operator), t.head? = some c → other.symbol ≠ op.symbol ++ [c] := by
  refine ⟨fun h c other hc hother => ?_, Operator.isLongest_append⟩
  obtain ⟨rest, rfl⟩ := List.head?_eq_some_iff.1 hc
  have hle := h.2 other (hother ▸ ⟨rest, by simp⟩)
  rw [hother, List.length_append, List.length_singleton] at hle
  omega

/-- Whether a symbol is the longest one shows in the character behind it. -/
theorem Operator.IsLongest.congr_head? (h : op.IsLongest (op.symbol ++ after))
    (hhead : behind.head? = after.head?) : op.IsLongest (op.symbol ++ behind) := by
  rw [Operator.isLongest_append_iff, hhead, ← Operator.isLongest_append_iff]
  exact h

/-- Texts that start alike do so behind a common text. -/
theorem head?_append_congr (t : Text) (h : behind.head? = after.head?) :
    (t ++ behind).head? = (t ++ after).head? := by
  rw [List.head?_append, List.head?_append, h]

mutual

/-- Pieces look at no more of what stands behind them than its first character. -/
theorem Pieces.congr_behind : ∀ {context p t after ps d}, Pieces context p t after ps d →
    ∀ behind : Text, behind.head? = after.head? → Pieces context p t behind ps d
  | _, _, _, _, _, _, .nil, _, _ => .nil
  | _, _, _, _, _, _, .char (t := t) hl hp, behind, h =>
    .char (hl.congr_head? (head?_append_congr t h)) (Pieces.congr_behind hp behind h)
  | _, _, _, _, _, _, .escape he hp, behind, h => .escape he (Pieces.congr_behind hp behind h)
  | _, _, _, _, _, _, .reference (t := t) hu hp, behind, h =>
    .reference (Refers.congr_behind hu _ (head?_append_congr t h))
      (Pieces.congr_behind hp behind h)

/-- A reference looks at no more of what stands behind it than its first character. -/
theorem Refers.congr_behind : ∀ {p t after node d}, Refers p t after node d →
    ∀ behind : Text, behind.head? = after.head? → Refers p t behind node d
  | _, _, _, _, _, .bare hn ha, _, h => .bare hn (ha.congr_head? h)
  | _, _, _, _, _, .plain hn, _, _ => .plain hn
  | _, _, _, _, _, .length hn, _, _ => .length hn
  | _, _, _, _, _, .operator (t := t) hn hop harg, behind, _ =>
    .operator hn (hop.congr_head? (head?_append_congr t rfl))
      (Arguments.congr_behind harg ('}' :: behind) rfl)

/-- Arguments look at no more of what stands behind them than its first character. -/
theorem Arguments.congr_behind : ∀ {op p t after nodes d}, Arguments op p t after nodes d →
    ∀ behind : Text, behind.head? = after.head? → Arguments op p t behind nodes d
  | _, _, _, _, _, _, .none h0, _, _ => .none h0
  | _, _, _, _, _, _, .one h1 hp, behind, h => .one h1 (Pieces.congr_behind hp behind h)
  | _, _, _, _, _, _, .two h2 hc hp hq, behind, h =>
    .two h2 hc (Pieces.congr_behind hp _ rfl) (Pieces.congr_behind hq behind h)

end

/-! ## Going on behind the end of a text -/

/-- A reference does not depend on what stands behind it, as long as a bare name does not go on
there. -/
theorem Refers.onto {p d : Nat} {node : Node} (h : Refers p t after node d)
    (hbare : ∀ r : Reference, node = r.node → ¬ r.IsBraced → EndsName behind) :
    Refers p t behind node d := by
  cases h with
  | @bare n p _ hn =>
    refine .bare hn (hbare ⟨n, [], [], '$' :: n, p⟩ rfl ?_)
    rintro ⟨rest, heq⟩
    exact hn.append_ne (by decide) ((List.append_nil n).trans (List.cons.inj heq).2.symm)
  | plain hn => exact .plain hn
  | length hn => exact .length hn
  | operator hn hop harg =>
    exact .operator hn (hop.congr_head? (head?_append_congr _ rfl)) (harg.congr_behind _ rfl)

/-- An empty text has no pieces. -/
theorem Pieces.eq_nil {p d : Nat} (h : Pieces context p t after ps d) (ht : t = []) :
    ps = [] ∧ d = 0 := by
  cases h with
  | nil => exact ⟨rfl, rfl⟩
  | char | escape => cases ht
  | reference hu =>
    have := hu.length_pos
    rw [List.append_eq_nil_iff] at ht
    rw [ht.1] at this
    cases this

/-- Nothing is written for an operator that takes no arguments. -/
theorem Arguments.eq_nil {p d : Nat} {nodes : List Node} (h : Arguments op p t after nodes d)
    (hmax : op.maxArguments = 0) : t = [] := by
  cases h with
  | none => rfl
  | one hpos => omega
  | two htwo => omega

/-- What ends a text with something in front is what ends the text, if there is anything. -/
theorem getLast?_cons_of_eq_some {α : Type} {a b : α} {l : List α} (h : l.getLast? = some b) :
    (a :: l).getLast? = some b := by
  rw [List.getLast?_cons, h]
  rfl

/-- Pieces of a whole text are pieces of its beginning when something stands behind it, unless its
end goes on there: a dollar sign into a reference, a backslash into an escape, or a bare name. -/
theorem Pieces.onto : ∀ {context p t after ps d}, Pieces context p t after ps d → after = [] →
    ∀ behind : Text,
      (t.getLast? = some '$' → ¬ OpensReference ('$' :: behind)) →
      (t.getLast? = some '\\' → ∀ e, behind.head? = some e → ¬ context.Escapable e) →
      (∀ r : Reference, ps.getLast? = some (.reference r.node) → ¬ r.IsBraced → EndsName behind) →
      Pieces context p t behind ps d
  | _, _, _, _, _, _, .nil, _, _, _, _, _ => .nil
  | _, _, _, _, _, _, .char (c := c) (t := t) hl hp, hafter, behind, hdollar, hback, hbare => by
    have ih := Pieces.onto hp hafter behind
    subst hafter
    refine .char ?_ (ih (fun h => hdollar (getLast?_cons_of_eq_some h))
      (fun h => hback (getLast?_cons_of_eq_some h))
      (fun r h => hbare r (getLast?_cons_of_eq_some h)))
    cases t with
    | cons => exact hl.congr_head? rfl
    | nil =>
      refine ⟨hl.not_ends, fun hopens => ?_, fun hc => hback (congrArg some hc)⟩
      obtain rfl := (opensReference_cons_iff.1 hopens).1
      exact hdollar rfl hopens
  | _, _, _, _, _, _, .escape he hp, hafter, behind, hdollar, hback, hbare =>
    .escape he (Pieces.onto hp hafter behind
      (fun h => hdollar (getLast?_cons_of_eq_some (getLast?_cons_of_eq_some h)))
      (fun h => hback (getLast?_cons_of_eq_some (getLast?_cons_of_eq_some h)))
      (fun r h => hbare r (getLast?_cons_of_eq_some h)))
  | _, _, _, _, _, _, .reference (u := u) (t := t) hu hp, hafter, behind, hdollar, hback,
      hbare => by
    have ih := Pieces.onto hp hafter behind
    have hlast : ∀ c, t.getLast? = some c → (u ++ t).getLast? = some c := by
      intro c hc
      rw [List.getLast?_append, hc]
      rfl
    subst hafter
    refine .reference ?_ (ih (fun h => hdollar (hlast _ h)) (fun h => hback (hlast _ h))
      (fun r h => hbare r (getLast?_cons_of_eq_some h)))
    cases t with
    | cons => exact hu.congr_behind _ rfl
    | nil =>
      obtain ⟨rfl, -⟩ := hp.eq_nil rfl
      exact hu.onto fun r hr => hbare r (by rw [hr]; rfl)

end

/-! ## Moving a text -/

namespace Node

/-- Positions are mapped in each node of a list. -/
theorem mapPositionsEach_eq_map (f : Int → Int) (ns : List Node) :
    mapPositionsEach f ns = ns.map (mapPositions f) := by
  induction ns with
  | nil => rfl
  | cons n ns ih => rw [mapPositionsEach, ih, List.map_cons]

mutual

/-- Mapping positions twice is mapping them once by both functions. -/
theorem mapPositions_mapPositions (f g : Int → Int) :
    ∀ n : Node, (n.mapPositions f).mapPositions g = n.mapPositions (g ∘ f)
  | .text _ => rfl
  | .reference _ _ arguments _ _ => by
    rw [mapPositions, mapPositions, mapPositions, mapPositionsEach_mapPositionsEach f g arguments]
    rfl
  | .sequence children => by
    rw [mapPositions, mapPositions, mapPositions, mapPositionsEach_mapPositionsEach f g children]

/-- Mapping positions twice in each node of a list is mapping them once by both functions. -/
theorem mapPositionsEach_mapPositionsEach (f g : Int → Int) :
    ∀ ns : List Node, mapPositionsEach g (mapPositionsEach f ns) = mapPositionsEach (g ∘ f) ns
  | [] => rfl
  | n :: ns => by
    rw [mapPositionsEach, mapPositionsEach, mapPositionsEach, mapPositions_mapPositions f g n,
      mapPositionsEach_mapPositionsEach f g ns]

end

/-- Trees that differ in positions only are the same. -/
theorem same_mapPositions (f : Int → Int) (n : Node) : (n.mapPositions f).same n = true := by
  rw [same_iff, unplaced, mapPositions_mapPositions]
  rfl

end Node

/-- A reference with its position, and those of the references in its arguments, mapped by `f`. -/
def Reference.mapPositions (f : Int → Int) (r : Reference) : Reference :=
  ⟨r.name, r.symbol, Node.mapPositionsEach f r.arguments, r.source, f r.position⟩

mutual

/-- Mapping positions maps those of the references of a tree. -/
theorem Node.references_mapPositions (f : Int → Int) :
    ∀ n : Node, (n.mapPositions f).references = n.references.map (Reference.mapPositions f)
  | .text _ => rfl
  | .reference _ _ arguments _ _ => by
    rw [mapPositions, references, references, referencesEach_mapPositionsEach f arguments]
    rfl
  | .sequence children => by
    rw [mapPositions, references, references, referencesEach_mapPositionsEach f children]

/-- Mapping positions maps those of the references of the nodes of a list. -/
theorem Node.referencesEach_mapPositionsEach (f : Int → Int) : ∀ ns : List Node,
    referencesEach (mapPositionsEach f ns) = (referencesEach ns).map (Reference.mapPositions f)
  | [] => rfl
  | n :: ns => by
    rw [mapPositionsEach, referencesEach, referencesEach, List.map_append,
      references_mapPositions f n, referencesEach_mapPositionsEach f ns]

end

/-- A piece with the position of every reference mapped by `f`. -/
def Piece.mapPositions (f : Int → Int) : Piece → Piece
  | .char c => .char c
  | .reference node => .reference (node.mapPositions f)

/-- Positions do not matter to what becomes one text. -/
theorem Piece.fuse_mapPositions (f : Int → Int) (ps : List Piece) :
    fuse (ps.map (mapPositions f)) = Node.mapPositionsEach f (fuse ps) := by
  induction ps with
  | nil => rfl
  | cons piece ps ih =>
    cases piece with
    | reference node => rw [List.map_cons, mapPositions, fuse, fuse, ih, Node.mapPositionsEach]
    | char c =>
      rw [List.map_cons, mapPositions, fuse, fuse, ih]
      rcases fuse ps with _ | ⟨_ | _ | _, nodes⟩ <;> rfl

/-- Positions do not matter to the tree that pieces make up. -/
theorem Node.ofPieces_mapPositions (f : Int → Int) (ps : List Piece) :
    ofPieces (ps.map (Piece.mapPositions f)) = (ofPieces ps).mapPositions f := by
  rw [ofPieces, ofPieces, Piece.fuse_mapPositions]
  rcases Piece.fuse ps with _ | ⟨_, _ | ⟨_, _⟩⟩ <;> rfl

mutual

/-- Pieces that stand elsewhere are the same but for positions, which move along. -/
theorem Pieces.moved {k : Int} : ∀ {context p t after ps d}, Pieces context p t after ps d →
    ∀ q : Nat, (q : Int) = p + k →
      Pieces context q t after (ps.map (Piece.mapPositions (· + k))) d
  | _, _, _, _, _, _, .nil, _, _ => .nil
  | _, _, _, _, _, _, .char hl hp, q, hq => .char hl (Pieces.moved hp (q + 1) (by omega))
  | _, _, _, _, _, _, .escape he hp, q, hq => .escape he (Pieces.moved hp (q + 2) (by omega))
  | _, _, _, _, _, _, .reference (u := u) hu hp, q, hq =>
    .reference (Refers.moved hu q hq) (Pieces.moved hp (q + u.length) (by omega))

/-- A reference that stands elsewhere is the same but for positions, which move along. -/
theorem Refers.moved {k : Int} : ∀ {p t after node d}, Refers p t after node d →
    ∀ q : Nat, (q : Int) = p + k → Refers q t after (node.moved k) d
  | _, _, _, _, _, .bare hn ha, q, hq => by
    rw [Node.moved, Node.mapPositions, ← hq]
    exact .bare hn ha
  | _, _, _, _, _, .plain hn, q, hq => by
    rw [Node.moved, Node.mapPositions, ← hq]
    exact .plain hn
  | _, _, _, _, _, .length hn, q, hq => by
    rw [Node.moved, Node.mapPositions, ← hq]
    exact .length hn
  | _, _, _, _, _, .operator hn hop harg, q, hq => by
    have ih := Arguments.moved (k := k) harg
    rw [Node.moved, Node.mapPositions, ← hq]
    exact .operator hn hop (ih _ (by omega))

/-- Arguments that stand elsewhere are the same but for positions, which move along. -/
theorem Arguments.moved {k : Int} : ∀ {op p t after nodes d}, Arguments op p t after nodes d →
    ∀ q : Nat, (q : Int) = p + k →
      Arguments op q t after (Node.mapPositionsEach (· + k) nodes) d
  | _, _, _, _, _, _, .none h0, _, _ => .none h0
  | _, _, _, _, _, _, .one h1 hp, q, hq => by
    have ih := Pieces.moved (k := k) hp q hq
    rw [Node.mapPositionsEach_eq_map, List.map_singleton, ← Node.ofPieces_mapPositions]
    exact .one h1 ih
  | _, _, _, _, _, _, .two h2 hc hp hr, q, hq => by
    have ihp := Pieces.moved (k := k) hp q hq
    have ihr := Pieces.moved (k := k) hr
    rw [Node.mapPositionsEach_eq_map, List.map_cons, List.map_singleton,
      ← Node.ofPieces_mapPositions, ← Node.ofPieces_mapPositions]
    exact .two h2 hc ihp (ihr _ (by omega))

end

end ParameterExpansion

import ParameterExpansion.Proofs.Grammar.Failure
import ParameterExpansion.Proofs.Grammar.Spans
import ParameterExpansion.Proofs.Grammar.Written

/-!
# Completing a text that ends too early

A text that is refused because it ends too early is the beginning of a template: behind it are put
what the innermost open reference lacks and the closing brace of every reference around that one
(`Fails.exists_completes`, `Refused.exists_completion`). In an argument a blank comes first, so that
no backslash at the end of the text makes the closing brace literal. If the error of the text is
that a reference is open, its position is that of the last reference that reaches past the text in
the template (`IsLastPast`).
-/

namespace ParameterExpansion

/-- The last one of the references `rs` that reach past the offset `q` starts at the offset `i`. -/
def IsLastPast (q i : Nat) (rs : List Reference) : Prop :=
  (∃ r ∈ rs, r.position = i ∧ q < r.stop) ∧ ∀ r ∈ rs, q < r.stop → r.position ≤ i

namespace IsLastPast

section
variable {q i : Nat} {r : Reference} {rs before : List Reference}

/-- A reference that reaches past an offset is the last one if none in its arguments does. -/
theorem of_cons (hr : r.position = i) (hstop : q < r.stop) (hrs : ∀ s ∈ rs, s.stop ≤ q) :
    IsLastPast q i (r :: rs) := by
  refine ⟨⟨r, List.mem_cons_self, hr, hstop⟩, fun s hs hlt => ?_⟩
  rcases List.mem_cons.1 hs with rfl | hs
  · exact Int.le_of_eq hr
  · exact absurd hlt (Int.not_lt.2 (hrs s hs))

/-- A reference that starts earlier is not the last one. -/
theorem cons (h : IsLastPast q i rs) (hr : r.position ≤ i) : IsLastPast q i (r :: rs) := by
  obtain ⟨⟨s, hs, hlast⟩, hle⟩ := h
  refine ⟨⟨s, List.mem_cons_of_mem _ hs, hlast⟩, fun s hs hlt => ?_⟩
  rcases List.mem_cons.1 hs with rfl | hs
  · exact hr
  · exact hle s hs hlt

/-- References that do not reach past the offset do not matter. -/
theorem append_left (h : IsLastPast q i rs) (hbefore : ∀ s ∈ before, s.stop ≤ q) :
    IsLastPast q i (before ++ rs) := by
  obtain ⟨⟨s, hs, hlast⟩, hle⟩ := h
  refine ⟨⟨s, List.mem_append_right _ hs, hlast⟩, fun s hs hlt => ?_⟩
  rcases List.mem_append.1 hs with hs | hs
  · exact absurd hlt (Int.not_lt.2 (hbefore s hs))
  · exact hle s hs hlt

end

end IsLastPast

section
variable {op : Operator} {levels p depth d : Nat} {t after : Text} {e : ParseError}
variable {nodes : List Node}

/-! ## More of the last argument -/

/-- A symbol is still the longest one before a character that is in no symbol. -/
theorem Operator.IsLongest.append_cons (h : op.IsLongest (op.symbol ++ t)) {c : Char}
    (hc : ∀ other : Operator, c ∉ other.symbol) (rest : Text) :
    op.IsLongest (op.symbol ++ (t ++ c :: rest)) := by
  cases t with
  | nil =>
    refine Operator.isLongest_append fun c' other hc' hother => hc other ?_
    cases hc'
    simp [hother]
  | cons => exact h.congr_head? rfl

/-- No backslash makes a blank literal. -/
theorem Operator.not_escapable_blank (op : Operator) (more : Bool) :
    ¬ (Context.argument op.separator more).Escapable ' ' := by
  cases op <;> simp [Context.Escapable, Operator.separator]

/-- A blank means itself in an argument. -/
theorem Operator.literal_blank (op : Operator) (more : Bool) (rest : Text) :
    (Context.argument op.separator more).Literal ' ' rest := by
  refine Context.literal_of_ne ?_ (by decide) (by decide) rest
  cases op <;> simp [Context.Ends, Operator.separator]

/-- Pieces that the end of a text ends go on with a blank. -/
theorem Pieces.onto_blank {more : Bool} {ps : List Piece} {rest : Text}
    (h : Pieces (.argument op.separator more) p t [] ps d) :
    Pieces (.argument op.separator more) p t (' ' :: rest) ps d := by
  refine h.onto rfl _ (fun _ hopens => ?_) (fun _ e he => ?_)
    (fun _ _ _ => EndsName.cons (by decide))
  · obtain ⟨-, e, he, hopens⟩ := opensReference_cons_iff.1 hopens
    cases he
    revert hopens
    decide
  · cases he
    exact op.not_escapable_blank more

/-- Further pieces behind arguments belong to the last one of them. -/
theorem Arguments.extend {v behind : Text} {qs : List Piece} {f : Nat}
    (h : Arguments op p t after nodes d) (hmax : 0 < op.maxArguments)
    (honto : ∀ {more q u ps c}, Pieces (.argument op.separator more) q u after ps c →
      Pieces (.argument op.separator more) q u (v ++ behind) ps c)
    (hv : ∀ more, Pieces (.argument op.separator more) (p + t.length) v behind qs f) :
    ∃ extended, Arguments op p (t ++ v) behind extended (max d f) ∧
      Node.referencesEach extended = Node.referencesEach nodes ++ qs.flatMap Piece.references := by
  cases h with
  | none h0 => omega
  | @one _ _ _ ps _ _ h1 hp =>
    refine ⟨_, .one h1 ((honto hp).append _ _ _ _ rfl (hv _)), ?_⟩
    simp only [Node.referencesEach, Node.references_ofPieces, List.append_nil, List.flatMap_append]
  | @two c _ t u _ ps _ qs _ _ h2 hc hp hq =>
    have hv := hv false
    rw [offset_separated] at hv
    have hq := (honto hq).append _ _ _ _ rfl hv
    rw [List.append_assoc, List.cons_append, Nat.max_assoc]
    refine ⟨_, .two h2 hc (hp.congr_behind _ rfl) hq, ?_⟩
    simp only [Node.referencesEach, Node.references_ofPieces, List.append_nil, List.flatMap_append,
      List.append_assoc]

/-! ## Completing a reference -/

/-- With `u` behind it, the text `t` at offset `p`, around which `depth` braced references are open,
is the reference `node`; and if the error `e` of `t` is that a reference is open, that one is the
last one to reach past `t`. -/
structure Completes (levels p depth : Nat) (t : Text) (e : ParseError) (u : Text) (node : Node)
    (d : Nat) : Prop where
  /-- The text is the reference, whatever stands behind it. -/
  refers : ∀ after, Refers p (t ++ u) after node d
  /-- The reference is not nested too deep. -/
  le_levels : depth + d ≤ levels
  /-- The open reference is the last one to reach past the text. -/
  isLastPast : e.cause = .unterminated → IsLastPast (p + t.length) e.position node.references

/-- A reference with an operator is completed by what goes on with its arguments and the closing
brace. -/
theorem Completes.operator {n v : Text} {extended : List Node} (hn : IsName n)
    (hop : op.IsLongest (op.symbol ++ (t ++ v ++ ['}'])))
    (hargs : Arguments op (p + 2 + n.length + op.symbol.length) (t ++ v) ['}'] extended d)
    (hlevel : depth + 1 + d ≤ levels)
    (hlast : e.cause = .unterminated →
      IsLastPast (p + 2 + n.length + op.symbol.length + t.length) e.position
        (⟨n, op.symbol, extended, inBraces (n ++ (op.symbol ++ (t ++ v))), p⟩ ::
          Node.referencesEach extended)) :
    Completes levels p depth ('$' :: '{' :: (n ++ (op.symbol ++ t))) e (v ++ ['}'])
      (.reference n op.symbol extended (inBraces (n ++ (op.symbol ++ (t ++ v)))) p) (d + 1) where
  refers after := by
    have htext : '$' :: '{' :: (n ++ (op.symbol ++ t)) ++ (v ++ ['}']) =
        inBraces (n ++ (op.symbol ++ (t ++ v))) := by
      simp [inBraces]
    rw [htext]
    exact .operator hn (hop.congr_head? (head?_append_congr _ rfl)) (hargs.congr_behind _ rfl)
  le_levels := by omega
  isLastPast hcause := by
    rw [offset_cons_cons, offset_append, offset_append]
    exact hlast hcause

/-- A braced reference that fails at the end of the text, or is open there, can be completed. -/
theorem Fails.exists_completes (h : Fails levels p depth t e)
    (hend : e.cause = .unterminated ∨ e.position = p + t.length) :
    ∃ u node d, Completes levels p depth t e u node d := by
  induction h with
  | tooDeep | afterLength | noOperator | afterOperator =>
    rcases hend with hcause | hposition
    · cases hcause
    · simp only [List.length_cons, List.length_append] at hposition
      omega
  | @noName depth p rest hlevel =>
    have hposition := hend.resolve_left nofun
    simp only [List.length_cons] at hposition
    obtain rfl : rest = [] := List.length_eq_zero_iff.1 (by omega)
    have hn : IsName ['x'] := by decide
    exact ⟨['x', '}'], _, 1, fun after => .plain hn, hlevel, nofun⟩
  | @noLengthName depth p rest hlevel =>
    have hposition := hend.resolve_left nofun
    simp only [List.length_cons] at hposition
    obtain rfl : rest = [] := List.length_eq_zero_iff.1 (by omega)
    have hn : IsName ['x'] := by decide
    exact ⟨['x', '}'], _, 1, fun after => .length hn, hlevel, nofun⟩
  | openName hlevel hn =>
    refine ⟨['}'], _, 1, fun after => .plain hn, hlevel, fun _ => .of_cons rfl ?_ nofun⟩
    simp only [Reference.stop, length_inBraces, List.length_cons]
    omega
  | openLength hlevel hn =>
    refine ⟨['}'], _, 1, fun after => .length hn, hlevel, fun _ => .of_cons rfl ?_ nofun⟩
    simp only [Reference.stop, length_inBraces, List.length_cons]
    omega
  | @openArguments depth d n op p t nodes hlevel hn hop harg =>
    have hstops := fun s hs => (harg.standsIn s hs).stop_le
    rcases Nat.eq_zero_or_pos op.maxArguments with hmax | hmax
    · obtain rfl := harg.eq_nil hmax
      have hop := hop.append_cons (c := '}') (Operator.not_mem_symbol (by decide)) []
      refine ⟨_, _, _, .operator hn (v := []) hop (.none hmax) (by omega)
        fun _ => .of_cons rfl ?_ nofun⟩
      simp only [Reference.stop, length_inBraces, List.length_append]
      omega
    · obtain ⟨extended, hargs, hreferences⟩ := harg.extend hmax Pieces.onto_blank
        fun more => .char (op.literal_blank more ['}']) .nil
      rw [Nat.max_zero] at hargs
      have hop : op.IsLongest (op.symbol ++ (t ++ [' '] ++ ['}'])) := by
        rw [List.append_assoc]
        exact hop.append_cons (Operator.not_mem_symbol (by decide)) ['}']
      refine ⟨_, _, _, .operator hn hop hargs hlevel fun _ => .of_cons rfl ?_ ?_⟩
      · simp only [Reference.stop, length_inBraces, List.length_append]
        omega
      · rw [hreferences]
        simpa [Piece.references] using hstops
  | @argument depth d n op p t rest nodes e hlevel hn hop hmax harg hfails ih =>
    rw [offset_cons_cons, offset_append, offset_append, offset_append] at hend
    obtain ⟨u, node, f, hrefers, hdepth, hlast⟩ := ih hend
    -- The failing reference starts with a dollar sign, whatever completes it.
    have hhead : (rest ++ u ++ ['}']).head? = rest.head? := by
      obtain ⟨tail, rfl⟩ := hfails.exists_eq_cons
      rfl
    have hinner := hrefers ['}']
    obtain ⟨extended, hargs, hreferences⟩ := harg.extend (v := rest ++ u) hmax
      (fun hp => hp.congr_behind _ hhead) fun more => by
        have hpieces : Pieces (.argument op.separator more) _ (rest ++ u ++ []) ['}'] _ (max f 0) :=
          .reference hinner .nil
        rw [List.append_nil, Nat.max_zero] at hpieces
        exact hpieces
    have hop : op.IsLongest (op.symbol ++ (t ++ rest ++ u ++ ['}'])) := by
      rw [List.append_assoc, List.append_assoc, ← List.append_assoc rest]
      exact hop.congr_head? (head?_append_congr t hhead)
    rw [← List.append_assoc] at hargs
    refine ⟨_, _, _, .operator (t := t ++ rest) hn hop hargs (by omega) fun hcause => ?_⟩
    have hlast := hlast hcause
    have hstops := fun s hs => (harg.standsIn s hs).stop_le
    have hle := hfails.le_position
    rw [hreferences, List.flatMap_singleton, offset_append]
    refine IsLastPast.cons (hlast.append_left fun s hs => ?_) ?_
    · have := hstops s hs
      omega
    · show (p : Int) ≤ _
      omega

/-- A text that is refused at its end, or because a reference is open there, is the beginning of a
template. -/
theorem Refused.exists_completion {s : Text} (h : Refused levels s e)
    (hend : e.cause = .unterminated ∨ e.position = s.length) :
    ∃ u r d, d ≤ levels ∧ Derives (s ++ u) r d ∧
      (e.cause = .unterminated → IsLastPast s.length e.position r.references) := by
  obtain ⟨t, rest, ps, d, rfl, hps, hd, hfails⟩ := h
  rw [List.length_append] at hend ⊢
  obtain ⟨u, node, f, hrefers, hf, hlast⟩ := hfails.exists_completes hend
  have hhead : (rest ++ u).head? = rest.head? := by
    obtain ⟨tail, rfl⟩ := hfails.exists_eq_cons
    rfl
  have hnode : Pieces .template (0 + t.length) (rest ++ u ++ []) [] [.reference node]
      (max f 0) := by
    rw [Nat.zero_add]
    exact .reference (hrefers []) .nil
  rw [List.append_nil, Nat.max_zero] at hnode
  have hpieces := (hps.congr_behind _ hhead).append _ _ _ _ (List.append_nil _).symm hnode
  rw [← List.append_assoc] at hpieces
  refine ⟨u, _, max d f, by omega, ⟨_, hpieces, rfl⟩, fun hcause => ?_⟩
  rw [Node.references_ofPieces, List.flatMap_append, List.flatMap_singleton]
  refine (hlast hcause).append_left fun r hr => ?_
  have := (hps.standsIn r hr).stop_le
  omega

end

end ParameterExpansion

import ParameterExpansion.Proofs.Evaluation.Joined
import ParameterExpansion.Proofs.Evaluation.Outcome
import ParameterExpansion.Proofs.Template.Refused

/-!
# One template behind the other

A text behind a template is read and expanded as it is by itself, unless a dollar sign or a bare
name at the end of the template goes on into it (`Template.parse_append`): the nodes of both stand
side by side, an error has moved along with the text, and the second template comes to what it comes
to over the resolver that the first one leaves.
-/

namespace ParameterExpansion

section
variable {levels d : Nat} {a b : Text} {ps qs : List Piece} {e : ParseError}

/-! ## In the grammar -/

/-- A template stays what it is in front of a text into which neither a dollar sign nor a bare name
at its end goes on. -/
theorem Pieces.onto_template (h : Pieces .template 0 a [] ps d)
    (hdollar : a.getLast? = some '$' → ¬ OpensReference ('$' :: b))
    (hbare : (Node.ofPieces ps).EndsBare → EndsName b) : Pieces .template 0 a b ps d := by
  refine h.onto rfl b hdollar (fun _ _ _ => id) fun r hlast hr => hbare ⟨r, ?_, hr⟩
  rw [Piece.parts_ofPieces h.areProper]
  exact Piece.getLast?_fuse h.areProper hlast

/-- The pieces of a template behind another one are the same but for positions. -/
theorem Pieces.append_template {f : Nat} (ha : Pieces .template 0 a b ps d)
    (hb : Pieces .template 0 b [] qs f) :
    Pieces .template 0 (a ++ b) [] (ps ++ qs.map (Piece.mapPositions (· + (a.length : Int))))
      (max d f) :=
  ha.append _ _ _ _ (List.append_nil b).symm (hb.moved _ (by omega))

/-- What is wrong with a text behind a template is what is wrong with it by itself. -/
theorem Refused.behind_template (hb : Refused levels b e) (ha : Pieces .template 0 a b ps d)
    (hd : d ≤ levels) : Refused levels (a ++ b) ⟨e.cause, e.position + a.length⟩ := by
  obtain ⟨t, rest, qs, f, rfl, hqs, hf, hfails⟩ := hb
  have hmoved := hqs.moved (k := a.length) (0 + a.length) (by omega)
  have hlength : t.length + a.length = (a ++ t).length := by
    rw [List.length_append, Nat.add_comm]
  refine ⟨a ++ t, rest, _, max d f, (List.append_assoc _ _ _).symm,
    ha.append _ _ _ _ rfl hmoved, Nat.max_le.2 ⟨hd, hf⟩, ?_⟩
  rw [← hlength]
  exact hfails.moved a.length

end

/-! ## Expanding -/

namespace Template

/-- A template whose parts are those of two templates is expanded like one after the other. -/
theorem expand_of_parts {t first second : Template} {distance : Int}
    (h : t.root.parts =
      Node.fuseTexts (first.root.parts ++ (second.root.moved distance).parts)) (mode : Mode) :
    t.expand mode = (do
      let before ← first.expand mode
      let behind ← second.expand mode
      return before ++ behind) := by
  simp only [expand]
  rw [Node.evaluate_eq_evaluateJoined, h, Node.evaluateJoined_fuseTexts, Node.evaluateJoined_append,
    ← Node.evaluate_eq_evaluateJoined, ← Node.evaluate_eq_evaluateJoined, Node.moved,
    Node.evaluate_mapPositions]

/-- What a template comes to that is expanded like one template after the other. -/
theorem expandOver_of_expand {t first second : Template} {mode : Mode}
    (h : t.expand mode = (do
      let before ← first.expand mode
      let behind ← second.expand mode
      return before ++ behind)) (r : Resolver) :
    t.expandOver mode r = (match first.expandOver mode r with
      | (.ok before, left) =>
        ((second.expandOver mode left).1.map (before ++ ·), (second.expandOver mode left).2)
      | (.error fault, left) => (.error fault, left)) := by
  have hsecond : (second.expand mode).IsBlind :=
    Node.isBlind_evaluate (Mode.isBlind_visit mode) second.root
  have hpure : ∀ text : Text, (pure text : Run Session Text).IsBlind := Run.isBlind_pure
  simp only [expandOver, h]
  rw [Run.outcome_bind fun _ => hsecond.bind fun _ => hpure _]
  rcases (first.expand mode).outcome r with ⟨_ | before, left⟩
  · rfl
  · dsimp only
    rw [Run.outcome_bind fun _ => hpure _]
    rcases (second.expand mode).outcome left with ⟨_ | behind, last⟩ <;> rfl

/-- Behind a template, a text is read as it is by itself, unless a dollar sign or a bare name at the
end of the template goes on into it. The parts of the whole are those of both, with positions moved
and texts that touch fused, and it comes to what the template comes to and then the text, over the
resolver that the template leaves. An error of the text has moved along with it. -/
theorem parse_append {limit : NestingLimit} {a b : Text} {first : Template}
    (ha : Template.parse limit a = .ok first)
    (hdollar : a.getLast? = some '$' → ¬ OpensReference ('$' :: b))
    (hbare : first.root.EndsBare → EndsName b) :
    ((∃ t, Template.parse limit (a ++ b) = .ok t) ↔ ∃ t, Template.parse limit b = .ok t) ∧
    (∀ second, Template.parse limit b = .ok second →
      ∃ t, Template.parse limit (a ++ b) = .ok t ∧
        t.root.parts = Node.fuseTexts (first.root.parts ++ (second.root.moved a.length).parts) ∧
        ∀ mode r, t.expandOver mode r = (match first.expandOver mode r with
          | (.ok before, left) =>
            ((second.expandOver mode left).1.map (before ++ ·), (second.expandOver mode left).2)
          | (.error fault, left) => (.error fault, left))) ∧
    ∀ e, Template.parse limit b = .error e →
      Template.parse limit (a ++ b) = .error ⟨e.cause, e.position + a.length⟩ := by
  obtain ⟨-, d, hd, ps, hps, hroot⟩ := parse_eq_ok_iff.1 ha
  rw [hroot] at hbare
  have hfront := hps.onto_template hdollar hbare
  have hok : ∀ second, Template.parse limit b = .ok second →
      ∃ t, Template.parse limit (a ++ b) = .ok t ∧
        t.root.parts = Node.fuseTexts (first.root.parts ++ (second.root.moved a.length).parts) := by
    intro second hb
    obtain ⟨-, f, hf, qs, hqs, hsecond⟩ := parse_eq_ok_iff.1 hb
    have hboth := hfront.append_template hqs
    have hmoved := hqs.areProper.mapPositions (· + (a.length : Int))
    refine ⟨⟨.ofPieces (ps ++ qs.map (Piece.mapPositions (· + (a.length : Int)))), a ++ b⟩,
      parse_eq_ok_iff.2 ⟨rfl, _, Nat.max_le.2 ⟨hd, hf⟩, _, hboth, rfl⟩, ?_⟩
    rw [hroot, hsecond, Node.moved, ← Node.ofPieces_mapPositions,
      Piece.parts_ofPieces hboth.areProper, Piece.parts_ofPieces hps.areProper,
      Piece.parts_ofPieces hmoved, Piece.fuse_append hps.areProper hmoved]
  have herror : ∀ e, Template.parse limit b = .error e →
      Template.parse limit (a ++ b) = .error ⟨e.cause, e.position + a.length⟩ := fun e hb =>
    parse_eq_error_iff.2 ((parse_eq_error_iff.1 hb).behind_template hfront hd)
  refine ⟨⟨fun ⟨t, ht⟩ => ?_, fun ⟨second, hb⟩ => ?_⟩, fun second hb => ?_, herror⟩
  · cases hb : Template.parse limit b with
    | ok second => exact ⟨second, rfl⟩
    | error e =>
      rw [herror e hb] at ht
      cases ht
  · obtain ⟨t, ht, -⟩ := hok second hb
    exact ⟨t, ht⟩
  · obtain ⟨t, ht, hparts⟩ := hok second hb
    exact ⟨t, ht, hparts, fun mode r => expandOver_of_expand (expand_of_parts hparts mode) r⟩

/-- The second template uses what the first one assigns, and the texts between the references are
one. -/
theorem parse_append_specimen :
    ∃ t, Template.parse ⟨1, by decide, by decide⟩
        ("$\x7bx:=1\x7da".toList ++ "b$x".toList) = .ok t ∧
      t.root.parts = [.reference ['x'] [':', '='] [.text ['1']] "$\x7bx:=1\x7d".toList 0,
        .text ['a', 'b'], .reference ['x'] [] [] "$x".toList 9] ∧
      (t.expandOver .standard (.store .empty)).1 = .ok "1ab1".toList := by
  have hx : IsName ['x'] := by decide
  have hend : EndsName [] := fun c hc => absurd hc.symm (Option.some_ne_none c)
  have hdefault : Arguments .assignEmpty 5 ['1'] ['}', 'a'] [.text ['1']] 0 :=
    .one (by decide) (.char (Context.literal_of_ne (by simp [Context.Ends, Operator.separator])
      (by decide) (by decide) _) .nil)
  have hlongest : Operator.assignEmpty.IsLongest ":=1\x7da".toList :=
    Operator.leading?_eq_some_iff.1 (by decide)
  have ha : Template.parse ⟨1, by decide, by decide⟩ "$\x7bx:=1\x7da".toList =
      .ok ⟨.sequence [.reference ['x'] [':', '='] [.text ['1']] "$\x7bx:=1\x7d".toList 0,
        .text ['a']], "$\x7bx:=1\x7da".toList⟩ :=
    parse_eq_ok_iff.2 ⟨rfl, 1, Nat.le_refl 1, _, .reference (.operator hx hlongest hdefault)
      (.char (Context.literal_of_ne id (by decide) (by decide) []) .nil), rfl⟩
  have hb : Template.parse ⟨1, by decide, by decide⟩ "b$x".toList =
      .ok ⟨.sequence [.text ['b'], .reference ['x'] [] [] "$x".toList 1], "b$x".toList⟩ :=
    parse_eq_ok_iff.2 ⟨rfl, 0, Nat.zero_le 1, _,
      .char (Context.literal_of_ne id (by decide) (by decide) _)
        (.reference (.bare hx hend) .nil), rfl⟩
  obtain ⟨-, happend, -⟩ := parse_append ha (fun h => absurd h (by decide)) (by
    rintro ⟨r, hr, -⟩
    cases hr)
  obtain ⟨t, ht, hparts, hexpand⟩ := happend _ hb
  refine ⟨t, ht, hparts, ?_⟩
  rw [hexpand]
  rfl

end Template

end ParameterExpansion

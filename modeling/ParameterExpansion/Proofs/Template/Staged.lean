import ParameterExpansion.Proofs.Evaluation.Unassigned
import ParameterExpansion.Proofs.Grammar.Replaced
import ParameterExpansion.Proofs.Template.Accepted

/-!
# Expanding in two stages

A preserving expansion leaves what it cannot expand yet, so what it gives can be read and expanded
again when more names have values. If the references that are left are in braces, and what is
written for the others forms no reference with what stands in front of it, both stages come to the
same as expanding at once (`Template.expand_staged`).
-/

namespace ParameterExpansion

/-! ## Pieces over a store -/

namespace Node
variable {mode : Mode} {m : Store} {n : Node} {distance : Int}

/-- The value of a tree over a store, if it has one. -/
def shown (mode : Mode) (m : Store) (n : Node) : Text := (n.valueOver mode m).toOption.getD []

/-- A reference to a variable that has no value in the store. -/
def IsUnsetIn (m : Store) (n : Node) : Prop :=
  ∃ r : Reference, n = r.node ∧ m.get? r.name = none

/-- Wherever it stands, a tree leaves a store as it is. -/
theorem Keeps.moved (h : n.Keeps mode m) : (n.moved distance).Keeps mode m := by
  rw [Keeps, Node.moved, evaluate_mapPositions]
  exact h

end Node

section
variable {mode : Mode} {m : Store} {ps qs : List Piece} {text : Text} {kept : Node → Prop}
  {out : Node → Text}

/-- Among proper pieces, a reference that is not one to an unset variable is one to a set one. -/
theorem Piece.AreProper.exists_set {n : Node} (h : Piece.AreProper ps) (hn : .reference n ∈ ps)
    (hset : ¬ n.IsUnsetIn m) : ∃ r : Reference, n = r.node ∧ m.get? r.name ≠ none := by
  obtain ⟨r, rfl⟩ := h n hn
  exact ⟨r, rfl, fun hname => hset ⟨r, rfl, hname⟩⟩

/-- Where the value of pieces is a text, so is that of each reference, and the text is what they
become when these are written for them. -/
theorem Piece.valueOver_of_valueOverEach (hkeeps : ∀ n, .reference n ∈ ps → n.Keeps mode m)
    (h : Node.valueOverEach mode m (ps.map Piece.node) = .ok text) :
    (∀ n, .reference n ∈ ps → n.valueOver mode m = .ok (n.shown mode m)) ∧
      text = ps.flatMap (Piece.written (Node.shown mode m)) := by
  induction ps generalizing text with
  | nil => exact ⟨nofun, (Except.ok.inj h).symm⟩
  | cons piece ps ih =>
    have hps : ∀ n, .reference n ∈ ps → n.Keeps mode m :=
      fun n hn => hkeeps n (List.mem_cons_of_mem _ hn)
    cases piece with
    | char c =>
      obtain ⟨value, rest, hc, hrest, rfl⟩ :=
        (Node.valueOverEach_cons_eq_ok_iff (Node.keeps_text [c])).1 h
      cases hc
      obtain ⟨hshown, rfl⟩ := ih hps hrest
      exact ⟨fun n hn => hshown n ((List.mem_cons.1 hn).resolve_left nofun), rfl⟩
    | reference n =>
      obtain ⟨value, rest, hn, hrest, rfl⟩ :=
        (Node.valueOverEach_cons_eq_ok_iff (hkeeps n List.mem_cons_self)).1 h
      obtain ⟨hshown, rfl⟩ := ih hps hrest
      have hvalue : n.shown mode m = value := by
        rw [Node.shown, hn]
        rfl
      refine ⟨fun n' hn' => ?_, ?_⟩
      · rcases List.mem_cons.1 hn' with heq | hn'
        · cases heq
          rw [hvalue]
          exact hn
        · exact hshown n' hn'
      · rw [List.flatMap_cons, Piece.written, hvalue]

/-- Pieces have the value that they had before texts were written for references, if these are the
values of the references. -/
theorem Becomes.valueOverEach_eq (h : Becomes kept out ps qs)
    (hkeeps : ∀ n, .reference n ∈ ps → n.Keeps mode m)
    (hout : ∀ n, .reference n ∈ ps → ¬ kept n → n.valueOver mode m = .ok (out n)) :
    Node.valueOverEach mode m (qs.map Piece.node) =
      Node.valueOverEach mode m (ps.map Piece.node) := by
  induction h with
  | nil => rfl
  | @char ps qs c _ ih =>
    have ih := ih (fun n hn => hkeeps n (List.mem_cons_of_mem _ hn))
      fun n hn => hout n (List.mem_cons_of_mem _ hn)
    have hc : (Piece.char c).node.Keeps mode m := Node.keeps_text [c]
    rw [List.map_cons, List.map_cons, Node.valueOverEach_cons hc, Node.valueOverEach_cons hc, ih]
  | @kept n ps qs distance _ _ ih =>
    have ih := ih (fun n hn => hkeeps n (List.mem_cons_of_mem _ hn))
      fun n hn => hout n (List.mem_cons_of_mem _ hn)
    have hn := hkeeps n List.mem_cons_self
    rw [List.map_cons, List.map_cons, Piece.node, Piece.node, Node.valueOverEach_cons hn.moved,
      Node.valueOverEach_cons hn, Node.valueOver_moved, ih]
  | @replaced n ps qs hkept _ ih =>
    have ih := ih (fun n hn => hkeeps n (List.mem_cons_of_mem _ hn))
      fun n hn => hout n (List.mem_cons_of_mem _ hn)
    have hn := hkeeps n List.mem_cons_self
    have hchars : ((out n).map Piece.char).map Piece.node = (out n).map fun c => .text [c] := by
      rw [List.map_map]
      rfl
    rw [List.map_append, hchars, Node.valueOverEach_chars, ih, List.map_cons, Piece.node,
      Node.valueOverEach_cons hn, hout n List.mem_cons_self hkept]

end

/-! ## Two stages -/

namespace Template

/-- A template can be expanded in two stages, over a store and then over one that has more names:
nothing that is written for a reference in the first stage is read otherwise in the second one. -/
structure Stageable (t : Template) (m : Store) : Prop where
  /-- No operator is a defaulting one. -/
  not_isDefaulting : ∀ r ∈ t.references, isDefaulting r.symbol = false
  /-- A top-level reference to an unset variable is in braces. -/
  isBraced : ∀ r : Reference, r.node ∈ t.root.parts → m.get? r.name = none → r.IsBraced
  /-- In the arguments of a top-level reference to a set variable all variables are set. -/
  set : ∀ r : Reference, r.node ∈ t.root.parts → m.get? r.name ≠ none →
    ∀ q ∈ Node.referencesEach r.arguments, m.get? q.name ≠ none
  /-- What a top-level reference to a set variable gives has no dollar sign. -/
  dollar_not_mem : ∀ r : Reference, r.node ∈ t.root.parts → m.get? r.name ≠ none → ∀ text,
    ((⟨r.node, r.source⟩ : Template).expandOver .preserving (.store m)).1 = .ok text → '$' ∉ text
  /-- No text that ends with a dollar sign stands right in front of such a reference. -/
  not_behind_dollar : ∀ r : Reference, r.node ∈ t.root.parts → m.get? r.name ≠ none → ∀ text,
    [.text text, r.node] <:+: t.root.parts → text.getLast? ≠ some '$'

/-- Over a store, an expansion comes to the value of the pieces that the template is made of. -/
theorem expandOver_ofPieces {t : Template} {ps : List Piece} (hps : Piece.AreProper ps)
    (hroot : t.root = .ofPieces ps) (mode : Mode) (m : Store) :
    (t.expandOver mode (.store m)).1 = Node.valueOverEach mode m (ps.map Piece.node) := by
  rw [Node.valueOverEach, ← Node.evaluate_ofPieces _ hps, ← hroot]
  rfl

namespace Stageable
variable {t : Template} {ps qs : List Piece} {m m₁ m₂ : Store}

/-- No operator in the pieces of the template is a defaulting one. -/
theorem not_isDefaulting_of_mem (h : t.Stageable m) (hroot : t.root = .ofPieces ps) {n : Node}
    (hn : .reference n ∈ ps) : ∀ r ∈ n.references, isDefaulting r.symbol = false := by
  intro r hr
  refine h.not_isDefaulting r ?_
  rw [Template.references, hroot, Node.references_ofPieces]
  exact List.mem_flatMap.2 ⟨_, hn, hr⟩

/-- The first stage may write the values of the references to set variables, and leaves the others
as they are written. -/
theorem replaceable (h : t.Stageable m) (hps : Piece.AreProper ps) (hroot : t.root = .ofPieces ps)
    (hshown : ∀ n, .reference n ∈ ps →
      n.valueOver .preserving m = .ok (n.shown .preserving m)) :
    Replaceable (·.IsUnsetIn m) (Node.shown .preserving m) ps := by
  have hparts : t.root.parts = Piece.fuse ps := by rw [hroot, Piece.parts_ofPieces hps]
  have hpart : ∀ {r : Reference}, .reference r.node ∈ ps → r.node ∈ t.root.parts :=
    fun hr => hparts ▸ Piece.node_mem_fuse hr
  refine ⟨fun n hn => ?_, fun n hn hset => ?_, fun n hset hpair => ?_⟩
  · rintro ⟨r, rfl, hname⟩
    have hsymbol := h.not_isDefaulting_of_mem hroot hn r List.mem_cons_self
    exact ⟨r, rfl, h.isBraced r (hpart hn) hname,
      Node.valueOver_preserving_of_unset hsymbol hname (hshown _ hn)⟩
  · obtain ⟨r, rfl, hname⟩ := hps.exists_set hn hset
    exact h.dollar_not_mem r (hpart hn) hname _ (hshown _ hn)
  · have hn : .reference n ∈ ps := hpair.subset (by simp)
    obtain ⟨r, rfl, hname⟩ := hps.exists_set hn hset
    obtain ⟨value, hvalue, hlast⟩ := Piece.exists_text_infix_fuse hpair
    exact h.not_behind_dollar r (hpart hn) hname value (hparts ▸ hvalue) hlast

/-- The second stage gives the same for the references that the first one has left, and for the
others what it has written for them. -/
theorem valueOverEach_eq (h : t.Stageable m₁) (hps : Piece.AreProper ps)
    (hroot : t.root = .ofPieces ps)
    (hmore : ∀ name value, m₁.get? name = some value → m₂.get? name = some value)
    (hshown : ∀ n, .reference n ∈ ps →
      n.valueOver .preserving m₁ = .ok (n.shown .preserving m₁))
    (hbecomes : Becomes (·.IsUnsetIn m₁) (Node.shown .preserving m₁) ps qs) :
    Node.valueOverEach .standard m₂ (qs.map Piece.node) =
      Node.valueOverEach .standard m₂ (ps.map Piece.node) := by
  have hsymbols : ∀ n, .reference n ∈ ps → ∀ r ∈ n.references, isDefaulting r.symbol = false :=
    fun _ => h.not_isDefaulting_of_mem hroot
  refine hbecomes.valueOverEach_eq (fun n hn => ?_) fun n hn hset => ?_
  · exact Node.keeps_standard fun r hr => isAssigning_of_not_isDefaulting (hsymbols n hn r hr)
  · obtain ⟨r, rfl, hname⟩ := hps.exists_set hn hset
    have hpart : r.node ∈ t.root.parts := by
      rw [hroot, Piece.parts_ofPieces hps]
      exact Piece.node_mem_fuse hn
    have hnames : ∀ q ∈ r.node.references, m₁.get? q.name ≠ none :=
      List.forall_mem_cons.2 ⟨hname, h.set r hpart hname⟩
    rw [← hshown _ hn]
    exact (Node.valueOver_preserving_eq (hsymbols _ hn) hnames hmore).symm

end Stageable

variable {limit : NestingLimit} {s text : Text} {t : Template} {m₁ m₂ : Store}

/-- What a preserving expansion gives is read under the same limit, and expanding it over a store
with more names comes to the same text or fault as expanding the template there at once. -/
theorem expand_staged (ht : Template.parse limit s = .ok t) (hstages : t.Stageable m₁)
    (hmore : ∀ name value, m₁.get? name = some value → m₂.get? name = some value)
    (htext : (t.expandOver .preserving (.store m₁)).1 = .ok text) :
    ∃ t', Template.parse limit text = .ok t' ∧
      (t'.expandOver .standard (.store m₂)).1 = (t.expandOver .standard (.store m₂)).1 := by
  obtain ⟨-, d, hd, ps, hps, hroot⟩ := parse_eq_ok_iff.1 ht
  have hproper := hps.areProper
  rw [expandOver_ofPieces hproper hroot] at htext
  obtain ⟨hshown, rfl⟩ :=
    Piece.valueOver_of_valueOverEach (fun n _ => Node.keeps_preserving m₁ n) htext
  obtain ⟨qs, e, hqs, he, hbecomes⟩ := hps.replaced (hstages.replaceable hproper hroot hshown) 0
  have hread : Template.parse limit (ps.flatMap (Piece.written (Node.shown .preserving m₁))) =
      .ok ⟨.ofPieces qs, _⟩ :=
    parse_eq_ok_iff.2 ⟨rfl, e, Nat.le_trans he hd, qs, hqs, rfl⟩
  refine ⟨_, hread, ?_⟩
  rw [expandOver_ofPieces hqs.areProper rfl, expandOver_ofPieces hproper hroot]
  exact hstages.valueOverEach_eq hproper hroot hmore hshown hbecomes

/-- The template `$y-$\x7bx%$y\x7d`, which takes the value of one variable off the end of another
one. -/
def staged : Template where
  root := .sequence [.reference "y".toList [] [] "$y".toList 0, .text "-".toList,
    .reference "x".toList "%".toList [.reference "y".toList [] [] "$y".toList 7]
      "$\x7bx%$y\x7d".toList 3]
  source := "$y-$\x7bx%$y\x7d".toList

/-- As long as `x` has no value, the first stage gives `b-$\x7bx%$y\x7d`, and the second one goes on
from there. -/
theorem expand_staged_specimen :
    ∃ t', Template.parse ⟨1, by decide, by decide⟩ "b-$\x7bx%$y\x7d".toList = .ok t' ∧
      (t'.expandOver .standard
        (.store (.ofList [("y".toList, "b".toList), ("x".toList, "ab".toList)]))).1 =
        .ok "b-a".toList := by
  have hx : IsName ['x'] := by decide
  have hy : IsName ['y'] := by decide
  have hlongest : Operator.removeSuffix.IsLongest "%$y\x7d".toList :=
    Operator.leading?_eq_some_iff.1 (by decide)
  have hpattern : Arguments .removeSuffix 7 "$y".toList ['}']
      [.reference ['y'] [] [] "$y".toList 7] 0 :=
    .one (by decide) (.reference (.bare hy (EndsName.cons (by decide))) .nil)
  have hparse : Template.parse ⟨1, by decide, by decide⟩ staged.source = .ok staged :=
    parse_eq_ok_iff.2 ⟨rfl, 1, Nat.le_refl 1, _, .reference (.bare hy (EndsName.cons (by decide)))
      (.char (Context.literal_of_ne id (by decide) (by decide) _)
        (.reference (.operator hx hlongest hpattern) .nil)), rfl⟩
  have hparts : ∀ r : Reference, r.node ∈ staged.root.parts →
      r = ⟨"y".toList, [], [], "$y".toList, 0⟩ ∨
      r = ⟨"x".toList, "%".toList, [.reference "y".toList [] [] "$y".toList 7],
        "$\x7bx%$y\x7d".toList, 3⟩ := by
    rintro ⟨name, symbol, arguments, source, position⟩ hr
    rcases List.mem_cons.1 hr with heq | hr
    · cases heq
      exact .inl rfl
    · rcases List.mem_cons.1 hr with heq | hr
      · cases heq
      · cases List.mem_singleton.1 hr
        exact .inr rfl
  have hstages : staged.Stageable (.ofList [("y".toList, "b".toList)]) := by
    refine ⟨by decide, fun r hr hname => ?_, fun r hr hname => ?_, fun r hr hname text htext => ?_,
      fun r hr hname text hpair => ?_⟩ <;> obtain rfl | rfl := hparts r hr
    · exact absurd hname (by decide)
    · decide
    · intro q hq
      cases hq
    · exact absurd rfl hname
    · cases htext
      decide
    · exact absurd rfl hname
    · -- Nothing stands in front of the reference to `y`.
      have hfirst : ¬ [Node.text text, .reference "y".toList [] [] "$y".toList 0] <:+:
          staged.root.parts := by
        simp [staged, Node.parts, List.infix_cons_iff]
      exact absurd hpair hfirst
    · exact absurd rfl hname
  have hmore : ∀ name value, (Store.ofList [("y".toList, "b".toList)]).get? name = some value →
      (Store.ofList [("y".toList, "b".toList), ("x".toList, "ab".toList)]).get? name =
        some value := by
    intro name value hvalue
    have hy : (Store.empty.set "y".toList "b".toList).get? name = some value := hvalue
    rw [Store.get?_set] at hy
    split at hy
    · next heq =>
      cases hy
      rw [heq]
      rfl
    · cases hy
  obtain ⟨t', ht', hsame⟩ := expand_staged hparse hstages hmore rfl
  exact ⟨t', ht', hsame.trans rfl⟩

end Template

end ParameterExpansion

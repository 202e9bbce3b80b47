import ParameterExpansion.Proofs.Grammar.Spans
import ParameterExpansion.Proofs.Grammar.Written

/-!
# The parts of a tree

The top-level nodes of a tree (`Node.parts`), and what becomes of them when one text is written
behind the other: texts that touch become one (`Node.fuseTexts`). The parts of the tree that pieces
make up are the pieces with characters fused (`Piece.parts_ofPieces`), and those of pieces put side
by side are the fused parts of both (`Piece.fuse_append`).
-/

namespace ParameterExpansion

namespace Node

/-- The top-level nodes of a tree; the empty text has none. -/
def parts : Node → List Node
  | .text [] => []
  | .sequence children => children
  | n => [n]

/-- A node in front of others; two texts that touch become one. -/
def adjoin : Node → List Node → List Node
  | .text a, .text b :: rest => .text (a ++ b) :: rest
  | n, rest => n :: rest

/-- The nodes of a list with the texts that touch fused. -/
def fuseTexts (ns : List Node) : List Node := ns.foldr adjoin []

/-- The last part of a tree is a bare reference. -/
def EndsBare (n : Node) : Prop := ∃ r : Reference, n.parts.getLast? = some r.node ∧ ¬ r.IsBraced

section
variable {n m : Node} {ns ms : List Node}

/-- Two texts in front of others fuse with each other first, or last. -/
theorem adjoin_text_text (a b : Text) :
    (text a).adjoin ((text b).adjoin ns) = (text (a ++ b)).adjoin ns := by
  rcases ns with _ | ⟨_ | _ | _, ns⟩
  · rfl
  · simp only [adjoin, List.append_assoc]
  · rfl
  · rfl

/-- A node that is put in front fuses with nothing but the first node. -/
theorem fuseTexts_adjoin_append :
    fuseTexts (n.adjoin ns ++ ms) = n.adjoin (fuseTexts (ns ++ ms)) := by
  rcases n with a | _ | _
  · rcases ns with _ | ⟨b | _ | _, ns⟩
    · rfl
    · exact (adjoin_text_text a b).symm
    · rfl
    · rfl
  · rfl
  · rfl

/-- A part in front of parts makes parts. -/
theorem IsPart.adjoin (hn : n.IsPart) (hns : ∀ m ∈ ns, m.IsPart) : ∀ m ∈ n.adjoin ns, m.IsPart := by
  have hcons : ∀ m ∈ n :: ns, m.IsPart := List.forall_mem_cons.2 ⟨hn, hns⟩
  rcases n with a | _ | _
  · rcases ns with _ | ⟨b | _ | _, ns⟩
    · exact hcons
    · refine List.forall_mem_cons.2 ⟨fun h => hn (List.append_eq_nil_iff.1 h).1, ?_⟩
      exact (List.forall_mem_cons.1 hns).2
    · exact hcons
    · exact hcons
  · exact hcons
  · exact hcons

/-- A last node that is no text stays the last one behind a node that is put in front. -/
theorem getLast?_adjoin (h : ns.getLast? = some m) (hm : ¬ m.IsText) :
    (n.adjoin ns).getLast? = some m := by
  have hcons : (n :: ns).getLast? = some m := getLast?_cons_of_eq_some h
  rcases n with a | _ | _
  · rcases ns with _ | ⟨b | _ | _, _ | ⟨k, ns⟩⟩
    · cases h
    · cases h
      exact absurd trivial hm
    · exact h
    · exact hcons
    · exact hcons
    · exact hcons
    · exact hcons
  · exact hcons
  · exact hcons

end

end Node

/-! ## Pieces side by side -/

namespace Piece

/-- A piece as a node. -/
def node : Piece → Node
  | .char c => .text [c]
  | .reference node => node

/-- The pieces are characters and references. -/
def AreProper (ps : List Piece) : Prop :=
  ∀ n, .reference n ∈ ps → ∃ r : Reference, n = r.node

section
variable {piece : Piece} {ps qs : List Piece}

/-- Fewer pieces are characters and references too. -/
theorem AreProper.of_cons (h : AreProper (piece :: ps)) : AreProper ps :=
  fun n hn => h n (List.mem_cons_of_mem _ hn)

/-- Characters and references side by side. -/
theorem AreProper.append (hps : AreProper ps) (hqs : AreProper qs) : AreProper (ps ++ qs) :=
  fun n hn => (List.mem_append.1 hn).elim (hps n) (hqs n)

/-- Pieces become nodes from the last one on. -/
theorem fuse_cons (h : AreProper (piece :: ps)) :
    fuse (piece :: ps) = piece.node.adjoin (fuse ps) := by
  cases piece with
  | char c =>
    rw [fuse, node]
    rcases fuse ps with _ | ⟨_ | _ | _, _⟩ <;> rfl
  | reference n =>
    obtain ⟨r, rfl⟩ := h n List.mem_cons_self
    rfl

/-- No texts touch in the nodes that pieces become. -/
theorem fuseTexts_fuse (h : AreProper ps) : Node.fuseTexts (fuse ps) = fuse ps := by
  induction ps with
  | nil => rfl
  | cons piece ps ih =>
    have hadjoin := @Node.fuseTexts_adjoin_append piece.node (fuse ps) []
    rw [List.append_nil, List.append_nil, ih h.of_cons] at hadjoin
    rw [fuse_cons h, hadjoin]

/-- Pieces side by side become the nodes of both, but for texts that touch. -/
theorem fuse_append (hps : AreProper ps) (hqs : AreProper qs) :
    fuse (ps ++ qs) = Node.fuseTexts (fuse ps ++ fuse qs) := by
  induction ps with
  | nil => exact (fuseTexts_fuse hqs).symm
  | cons piece ps ih =>
    have hall : AreProper (piece :: (ps ++ qs)) := hps.append hqs
    rw [List.cons_append, fuse_cons hall, fuse_cons hps, ih hps.of_cons,
      Node.fuseTexts_adjoin_append]

/-- Pieces become texts with characters, and references. -/
theorem isPart_of_mem_fuse (h : AreProper ps) : ∀ n ∈ fuse ps, n.IsPart := by
  induction ps with
  | nil => exact nofun
  | cons piece ps ih =>
    rw [fuse_cons h]
    refine Node.IsPart.adjoin ?_ (ih h.of_cons)
    cases piece with
    | char c => exact List.cons_ne_nil c []
    | reference n =>
      obtain ⟨r, rfl⟩ := h n List.mem_cons_self
      trivial

/-- A reference that is the last piece is the last node. -/
theorem getLast?_fuse {r : Reference} (h : AreProper ps)
    (hlast : ps.getLast? = some (.reference r.node)) : (fuse ps).getLast? = some r.node := by
  induction ps with
  | nil => cases hlast
  | cons piece ps ih =>
    cases ps with
    | nil =>
      cases hlast
      rfl
    | cons next ps =>
      rw [fuse_cons h]
      refine Node.getLast?_adjoin (ih h.of_cons ?_) id
      rw [List.getLast?_cons_cons] at hlast
      exact hlast

/-- The parts of the tree that pieces make up are the nodes that they become. -/
theorem parts_ofPieces (h : AreProper ps) : (Node.ofPieces ps).parts = fuse ps := by
  have hparts := isPart_of_mem_fuse h
  rw [Node.ofPieces]
  split
  · next heq => rw [heq]; rfl
  · next n heq =>
    rw [heq] at hparts ⊢
    have hn := hparts n List.mem_cons_self
    rcases n with (_ | _) | _ | _
    · exact absurd rfl hn
    · rfl
    · rfl
    · exact hn.elim
  · rfl

end

end Piece

/-- What the grammar derives is made of characters and references. -/
theorem Pieces.areProper {context : Context} {p d : Nat} {t after : Text} {ps : List Piece}
    (h : Pieces context p t after ps d) : Piece.AreProper ps := by
  induction ps generalizing p t d with
  | nil => exact fun _ hn => absurd hn List.not_mem_nil
  | cons piece ps ih =>
    intro n hn
    cases h with
    | char _ hp => exact ih hp n (by simpa using hn)
    | escape _ hp => exact ih hp n (by simpa using hn)
    | reference hu hp =>
      rcases List.mem_cons.1 hn with hn | hn
      · cases hn
        obtain ⟨name, symbol, nodes, rfl⟩ := hu.exists_eq
        exact ⟨⟨name, symbol, nodes, _, _⟩, rfl⟩
      · exact ih hp n hn

/-- Positions do not matter to what is a reference. -/
theorem Piece.AreProper.mapPositions {ps : List Piece} (h : AreProper ps) (f : Int → Int) :
    AreProper (ps.map (Piece.mapPositions f)) := by
  intro n hn
  obtain ⟨piece, hpiece, heq⟩ := List.mem_map.1 hn
  cases piece with
  | char => cases heq
  | reference m =>
    obtain ⟨r, rfl⟩ := h m hpiece
    cases heq
    exact ⟨r.mapPositions f, rfl⟩

end ParameterExpansion

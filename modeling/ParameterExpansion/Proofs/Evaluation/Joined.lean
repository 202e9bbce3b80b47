import ParameterExpansion.Evaluation
import ParameterExpansion.Proofs.Grammar.Parts

/-!
# Evaluating nodes side by side

The value of a tree is that of its parts side by side (`Node.evaluate_eq_evaluateJoined`). It does
not matter where the parts are divided (`Node.evaluateJoined_append`), whether texts that touch are
one (`Node.evaluateJoined_fuseTexts`, `Node.evaluate_ofPieces`), or which positions the references
have (`Node.evaluate_mapPositions`).
-/

namespace ParameterExpansion.Node

section
variable {σ : Type} (visit : Occurrence → Run σ Text)

/-- The values of the trees of a list, side by side. -/
def evaluateJoined (ns : List Node) : Run σ Text := do
  let values ← evaluateEach visit ns
  return values.flatten

/-- The first tree of a list is evaluated first. -/
theorem evaluateJoined_cons (n : Node) (ns : List Node) :
    evaluateJoined visit (n :: ns) = (do
      let value ← n.evaluate visit
      let values ← evaluateJoined visit ns
      return value ++ values) := by
  simp only [evaluateJoined, evaluateEach, bind_assoc, pure_bind, List.flatten_cons]

/-- Lists of trees are evaluated one after the other. -/
theorem evaluateJoined_append (ns ms : List Node) :
    evaluateJoined visit (ns ++ ms) = (do
      let before ← evaluateJoined visit ns
      let behind ← evaluateJoined visit ms
      return before ++ behind) := by
  induction ns with
  | nil => simp [evaluateJoined, evaluateEach]
  | cons n ns ih =>
    rw [List.cons_append, evaluateJoined_cons, evaluateJoined_cons, ih]
    simp only [bind_assoc, pure_bind, List.append_assoc]

/-- A text has the same value when it is fused with the one behind it. -/
theorem evaluateJoined_adjoin (n : Node) (ns : List Node) :
    evaluateJoined visit (n.adjoin ns) = evaluateJoined visit (n :: ns) := by
  rcases n with a | _ | _
  · rcases ns with _ | ⟨b | _ | _, ns⟩
    · rfl
    · rw [adjoin, evaluateJoined_cons, evaluateJoined_cons, evaluateJoined_cons]
      simp only [evaluate, bind_assoc, pure_bind, List.append_assoc]
    · rfl
    · rfl
  · rfl
  · rfl

/-- Texts have the same value when those that touch are fused. -/
theorem evaluateJoined_fuseTexts (ns : List Node) :
    evaluateJoined visit (fuseTexts ns) = evaluateJoined visit ns := by
  induction ns with
  | nil => rfl
  | cons n ns ih =>
    rw [fuseTexts, List.foldr_cons, ← fuseTexts, evaluateJoined_adjoin, evaluateJoined_cons, ih,
      evaluateJoined_cons]

/-- The value of a tree is that of its parts. -/
theorem evaluate_eq_evaluateJoined (n : Node) :
    n.evaluate visit = evaluateJoined visit n.parts := by
  have hsingle : n.evaluate visit = evaluateJoined visit [n] := by
    rw [evaluateJoined_cons]
    simp [evaluateJoined, evaluateEach]
  rcases n with (_ | _) | _ | _
  · rfl
  · exact hsingle
  · exact hsingle
  · rfl

/-- The value of the tree that pieces make up is that of the pieces. -/
theorem evaluate_ofPieces {ps : List Piece} (h : Piece.AreProper ps) :
    (ofPieces ps).evaluate visit = evaluateJoined visit (ps.map Piece.node) := by
  rw [evaluate_eq_evaluateJoined, Piece.parts_ofPieces h]
  induction ps with
  | nil => rfl
  | cons piece ps ih =>
    rw [Piece.fuse_cons h, evaluateJoined_adjoin, evaluateJoined_cons, ih h.of_cons, List.map_cons,
      evaluateJoined_cons]

mutual

/-- Positions do not matter to the value of a tree. -/
theorem evaluate_mapPositions (f : Int → Int) :
    ∀ n : Node, (n.mapPositions f).evaluate visit = n.evaluate visit
  | .text _ => rfl
  | .reference _ _ arguments _ _ => by
    rw [mapPositions, evaluate, evaluate, evaluateEach_mapPositionsEach f arguments]
  | .sequence children => by
    rw [mapPositions, evaluate, evaluate, evaluateEach_mapPositionsEach f children]

/-- Positions do not matter to the values of the trees of a list. -/
theorem evaluateEach_mapPositionsEach (f : Int → Int) :
    ∀ ns : List Node, evaluateEach visit (mapPositionsEach f ns) = evaluateEach visit ns
  | [] => rfl
  | n :: ns => by
    rw [mapPositionsEach, evaluateEach, evaluateEach, evaluate_mapPositions f n,
      evaluateEach_mapPositionsEach f ns]

end

end

end ParameterExpansion.Node

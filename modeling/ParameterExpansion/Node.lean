import ParameterExpansion.Error

/-!
# Nodes

The tree of a template: literal text, references, and sequences of these. A reference holds one node
per argument and the slice of the template that it was read from. Two trees are the same when they
differ at most in the positions of their references (`Node.same_iff`); `Node.format` writes a tree
back from the slices; `Node.references` lists the references, each before those in its arguments,
and `Node.asks` their names, each after those.
-/

namespace ParameterExpansion

/-- A tree of a template. -/
inductive Node where
  /-- Literal text. -/
  | text (value : Text)
  /-- A reference to a variable: its name, the symbol of its operator (empty in a plain reference),
  its arguments, the slice of the template it was read from, and the offset of that slice. -/
  | reference (name symbol : Text) (arguments : List Node) (source : Text) (position : Int)
  /-- Two or more nodes whose values stand side by side. -/
  | sequence (children : List Node)

/-- A reference of a tree, taken out of it. -/
structure Reference where
  /-- The name of the variable. -/
  name : Text
  /-- The symbol of the operator. -/
  symbol : Text
  /-- The arguments. -/
  arguments : List Node
  /-- The slice of the template. -/
  source : Text
  /-- The offset of the slice. -/
  position : Int

/-- The tree that a reference is. -/
def Reference.node (r : Reference) : Node :=
  .reference r.name r.symbol r.arguments r.source r.position

namespace Node

mutual

/-- `a.same b` tells whether `a` and `b` differ at most in the positions of their references. -/
def same : Node → Node → Bool
  | .text a, .text b => a == b
  | .reference name symbol arguments source _, .reference name' symbol' arguments' source' _ =>
    name == name' && symbol == symbol' && sameEach arguments arguments' && source == source'
  | .sequence children, .sequence children' => sameEach children children'
  | _, _ => false

/-- `same` on the nodes of two lists, one by one. -/
def sameEach : List Node → List Node → Bool
  | [], [] => true
  | a :: as, b :: bs => same a b && sameEach as bs
  | _, _ => false

end

mutual

/-- The tree with the position of every reference mapped by `f`. -/
def mapPositions (f : Int → Int) : Node → Node
  | .text value => .text value
  | .reference name symbol arguments source position =>
    .reference name symbol (mapPositionsEach f arguments) source (f position)
  | .sequence children => .sequence (mapPositionsEach f children)

/-- `mapPositions` on each node of a list. -/
def mapPositionsEach (f : Int → Int) : List Node → List Node
  | [] => []
  | n :: ns => mapPositions f n :: mapPositionsEach f ns

end

/-- The sequence of some nodes, of which there have to be two or more. -/
def sequence? (children : List Node) : Except InvalidValue Node :=
  if children.length < 2 then .error .shortSequence else .ok (.sequence children)

/-- The tree with every position forgotten. -/
def unplaced (n : Node) : Node := n.mapPositions fun _ => 0

/-- The tree with every position moved by `distance`. -/
def moved (distance : Int) (n : Node) : Node := n.mapPositions (· + distance)

mutual

/-- `format n` writes a tree back: text as it is, a reference as the slice it was read from. -/
def format : Node → Text
  | .text value => value
  | .reference _ _ _ source _ => source
  | .sequence children => formatEach children

/-- `format` of each node of a list, side by side. -/
def formatEach : List Node → Text
  | [] => []
  | n :: ns => format n ++ formatEach ns

end

mutual

/-- The references of a tree, each before the ones in its arguments. -/
def references : Node → List Reference
  | .text _ => []
  | .reference name symbol arguments source position =>
    ⟨name, symbol, arguments, source, position⟩ :: referencesEach arguments
  | .sequence children => referencesEach children

/-- The references of each node of a list, in order. -/
def referencesEach : List Node → List Reference
  | [] => []
  | n :: ns => references n ++ referencesEach ns

end

mutual

/-- The names of the references of a tree, each after the ones in its arguments. -/
def asks : Node → List Text
  | .text _ => []
  | .reference name _ arguments _ _ => asksEach arguments ++ [name]
  | .sequence children => asksEach children

/-- The names of the references of each node of a list, in order. -/
def asksEach : List Node → List Text
  | [] => []
  | n :: ns => asks n ++ asksEach ns

end

mutual

/-- Two trees are the same exactly when they are equal once positions are forgotten. -/
theorem same_iff : ∀ a b : Node, same a b = true ↔ a.unplaced = b.unplaced
  | .text a, .text b => by simp [same, unplaced, mapPositions]
  | .reference name symbol arguments source _, .reference name' symbol' arguments' source' _ => by
    have := sameEach_iff arguments arguments'
    simp [same, unplaced, mapPositions, this, and_assoc]
  | .sequence children, .sequence children' => by
    have := sameEach_iff children children'
    simp [same, unplaced, mapPositions, this]
  | .text _, .reference .. | .text _, .sequence _ | .reference .., .text _
  | .reference .., .sequence _ | .sequence _, .text _ | .sequence _, .reference .. => by
    simp [same, unplaced, mapPositions]

/-- Two lists of trees are the same exactly when they are equal once positions are forgotten. -/
theorem sameEach_iff : ∀ as bs : List Node,
    sameEach as bs = true ↔ mapPositionsEach (fun _ => 0) as = mapPositionsEach (fun _ => 0) bs
  | [], [] => by simp [sameEach]
  | [], _ :: _ | _ :: _, [] => by simp [sameEach, mapPositionsEach]
  | a :: as, b :: bs => by
    have ha := same_iff a b
    have has := sameEach_iff as bs
    rw [unplaced, unplaced] at ha
    simp [sameEach, mapPositionsEach, ha, has]

end

end Node

end ParameterExpansion

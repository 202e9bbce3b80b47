import ParameterExpansion.Node

/-!
# Pieces

What a template is made of before it is a tree: characters that mean themselves, and references. The
characters between two references become one text (`Piece.fuse`), and the pieces become a single
node or a sequence (`Node.ofPieces`). A `Context` says which characters end the pieces of a template
or of an argument, and which ones a backslash makes literal there.
-/

namespace ParameterExpansion

/-- A name starts with a letter of ASCII or a low line. -/
def isNameStart (c : Char) : Bool :=
  ('a' ≤ c && c ≤ 'z') || ('A' ≤ c && c ≤ 'Z') || c == '_'

/-- A name goes on with letters of ASCII, low lines and decimal digits. -/
def isNameChar (c : Char) : Bool := isNameStart c || ('0' ≤ c && c ≤ '9')

/-- A reference starts with a dollar sign and an opening brace or the start of a name. -/
def startsReference : Text → Bool
  | '$' :: c :: _ => c == '{' || isNameStart c
  | _ => false

/-- What stands in a template: a character that means itself, or a reference. -/
inductive Piece where
  /-- A character that means itself. -/
  | char (c : Char)
  /-- A reference, as the tree it is. -/
  | reference (node : Node)

/-- The nodes that pieces make up: characters side by side become one text. -/
def Piece.fuse : List Piece → List Node
  | [] => []
  | .reference node :: rest => node :: fuse rest
  | .char c :: rest => match fuse rest with
    | .text value :: nodes => .text (c :: value) :: nodes
    | nodes => .text [c] :: nodes

/-- The tree that pieces make up: the empty text, a single node, or a sequence. -/
def Node.ofPieces (pieces : List Piece) : Node :=
  match Piece.fuse pieces with
  | [] => .text []
  | [node] => node
  | nodes => .sequence nodes

/-- What the characters being read belong to. -/
inductive Context where
  /-- The template itself. -/
  | template
  /-- An argument of an operator with this separator, and whether a further one may follow. -/
  | argument (separator : Option Char) (more : Bool)
  deriving DecidableEq

namespace Context

/-- A stop character ends an argument: the closing brace always does, the separator as long as a
further argument may follow. Nothing but its end ends a template. -/
def stops : Context → Char → Bool
  | .template, _ => false
  | .argument separator more, c => c == '}' || (more && separator == some c)

/-- The characters that a backslash in front makes literal: in an argument the backslash, the
closing brace and the separator. -/
def escapes : Context → Char → Bool
  | .template, _ => false
  | .argument separator _, c => c == '\\' || c == '}' || separator == some c

/-- The character that an escape at the start of a text stands for, when one starts there. -/
def escaped? (context : Context) : Text → Option Char
  | '\\' :: c :: _ => if context.escapes c then some c else none
  | _ => none

end Context

end ParameterExpansion

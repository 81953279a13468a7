import LineMetrics.Syntax.Node

/-!
# Syntax trees

The tree of one file, and the two listings that the metrics are computed from: its code tokens and
its comments, each in source order (specification, section 3).  Nodes that start at the same place
keep the order of the walk.
-/

namespace LineMetrics

/-- The syntax tree of one file. -/
structure SyntaxTree where
  path : String
  language : String
  root : Node
  /-- Physical lines of the source text. -/
  lineCount : Int

namespace SyntaxTree

/-- The nodes of the tree with their number in the walk. -/
def numbered (t : SyntaxTree) : List (Node × Nat) := t.root.walk.zipIdx

/-- Numbered nodes by their place in the source; the sort is stable. -/
def inSourceOrder (ns : List (Node × Nat)) : List (Node × Nat) :=
  ns.mergeSort fun a b => a.1.start.notAfter b.1.start

/-- The code tokens in source order, each with its number in the walk. -/
def numberedTokens (t : SyntaxTree) : List (Node × Nat) :=
  inSourceOrder (t.numbered.filter fun n => n.1.isToken)

/-- The comments in source order, each with its number in the walk. -/
def numberedComments (t : SyntaxTree) : List (Node × Nat) :=
  inSourceOrder (t.numbered.filter fun n => n.1.isComment)

/-- Leaves outside comments with visible text, in source order. -/
def tokens (t : SyntaxTree) : List Node := t.numberedTokens.map Prod.fst

/-- Comments in source order. -/
def comments (t : SyntaxTree) : List Node := t.numberedComments.map Prod.fst

/-- Whether no token starts at or before the comment. -/
def opensFile (tokens : List Node) (comment : Node) : Bool :=
  match tokens with
  | [] => true
  | token :: _ => comment.start.before token.start

/-- For each comment in source order, whether it is the file's header: the first comment, in front
of every token. -/
def headerFlags (t : SyntaxTree) : List Bool :=
  match t.comments with
  | [] => []
  | first :: rest => opensFile t.tokens first :: rest.map fun _ => false

/-- The comments without the header comment. -/
def commentsBelowHeader (t : SyntaxTree) : List Node :=
  match t.comments with
  | [] => []
  | first :: rest => if opensFile t.tokens first then rest else first :: rest

end SyntaxTree
end LineMetrics

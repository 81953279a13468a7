import LineMetrics.Literal.Token

/-!
# Syntax trees

An expression is read into a tree whose leaves are tokens.  A node has a kind, which messages name,
and the parts that its meaning needs; a group holds parts that are no expression together.
-/

namespace LineMetrics
namespace Literal

/-- The kinds of nodes. -/
inductive Kind
  /-- Quoted texts in a row. -/
  | texts
  | tuple
  | set
  /-- Pairs and unpacked tables. -/
  | table
  /-- A function and a group of arguments. -/
  | call
  | attribute
  | starred
  /-- A sign and its operand. -/
  | unary
  /-- Two operands with an operator between them. -/
  | binary
  | boolean
  /-- An expression and a group of operators with what is compared. -/
  | comparison
  | conditional
  | lambda
  | named
  | generator
  | setComprehension
  | tableComprehension
  | yielding
  | awaiting
  | group
  /-- A key and its value. -/
  | pair
  /-- An argument with a name. -/
  | namedArgument
  /-- A table that is put into another or into arguments. -/
  | unpacked
  deriving Repr, DecidableEq

/-- A syntax tree. -/
inductive Tree
  | leaf (token : Token)
  | node (kind : Kind) (parts : List Tree)
  deriving Repr

namespace Tree

/-- What stands in the place of something that is left out. -/
def absent : Tree := .node .group []

/-- The parts of a node. -/
def parts : Tree → List Tree
  | .leaf _ => []
  | .node _ parts => parts

/-- Whether a tree is a node of a kind. -/
def isKind (kind : Kind) : Tree → Bool
  | .leaf _ => false
  | .node k _ => k = kind

/-- Whether a tree is a keyword or a mark. -/
def isWord (word : String) : Tree → Bool
  | .leaf (.keyword w) | .leaf (.mark w) => w = word
  | _ => false

/-- Whether a tree is a format text. -/
def isFormat : Tree → Bool
  | .leaf (.text .format _) => true
  | _ => false

/-- An expression in words. -/
def words : Tree → String
  | .leaf (.name _) => "name"
  | .leaf (.keyword word) => word
  | .leaf (.mark _) => "ellipsis"
  | .leaf _ => "literal"
  | .node kind parts =>
    match kind with
    | .texts => if parts.any isFormat then "f-string expression" else "literal"
    | .tuple => "tuple"
    | .set => "set display"
    | .table => "dict literal"
    | .call => "function call"
    | .attribute => "attribute"
    | .starred => "starred"
    | .comparison => "comparison"
    | .conditional => "conditional expression"
    | .lambda => "lambda"
    | .named => "named expression"
    | .generator => "generator expression"
    | .setComprehension => "set comprehension"
    | .tableComprehension => "dict comprehension"
    | .yielding => "yield expression"
    | .awaiting => "await expression"
    | _ => "expression"

/-- Whether the first operator of a group of them is the one for elements. -/
def startsWithIn (operators : Tree) : Bool :=
  match operators.parts with
  | first :: _ => first.parts.head?.any (isWord "in")
  | [] => false

mutual

/-- What cannot stand in front of an `in` that takes the elements of something, if anything in an
expression cannot; the expression may be the whole of what stands around the `in`. -/
def invalidTarget? : Tree → Option Tree
  | .leaf (.name _) => none
  | .leaf token => some (.leaf token)
  | .node .attribute _ => none
  | .node .tuple elements => firstInvalid? elements
  | .node .starred elements => firstInvalid? elements
  | .node .comparison [left, operators] =>
    if operators.startsWithIn then invalidTarget? left else none
  | .node kind parts => some (.node kind parts)

/-- The first of some expressions that cannot be a target. -/
def firstInvalid? : List Tree → Option Tree
  | [] => none
  | tree :: rest => (invalidTarget? tree).or (firstInvalid? rest)

end

mutual

/-- How deep expressions lie in each other. -/
def depth : Tree → Nat
  | .leaf _ => 1
  | .node _ parts => greatestDepth parts + 1

/-- The greatest depth of some expressions. -/
def greatestDepth : List Tree → Nat
  | [] => 0
  | tree :: rest => max tree.depth (greatestDepth rest)

end

end Tree
end Literal
end LineMetrics

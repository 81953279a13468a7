import LineMetrics.Literal.Syntax

/-!
# Literals that mean something

An expression without mistakes is a literal if it is made of numbers with signs, quoted text, the
words for truth and absence, and tuples, tables and sets of literals; `set()` is the empty set, and
a number and an imaginary one make a sum.  What a table or a set is keyed by has to be a key itself,
which a table, a set, or a tuple that holds one of them is not.  Values are made from left to right,
and the first one that cannot be made is told.
-/

namespace LineMetrics
namespace Literal

/-- What is wrong with a text as a literal. -/
inductive Fault
  /-- A text that is no expression. -/
  | syntactic (message : String)
  /-- An expression that is no literal. -/
  | semantic (message : String)
  deriving Repr, DecidableEq

/-- The expression means nothing as a literal. -/
def meaningless : Fault := .semantic "malformed node or string on line 1"

/-- The expression has a table put into another where a key should be. -/
def keyless : Fault := .semantic "malformed node or string: None"

/-- The expression nests too deeply for its values to be made. -/
def overgrown : Fault := .semantic "maximum recursion depth exceeded during ast construction"

/-- The expression nests too deeply to be read. -/
def unreadable : Fault := .semantic ""

/-- What keeps a value from being a key: the type that no key has, if it is or holds a value of one.
-/
abbrev Bar := Option String

/-- Checks that a value can be a key. -/
def checkKey : Bar → Except Fault Unit
  | none => .ok ()
  | some type => .error (.semantic s!"unhashable type: '{type}'")

/-- What keeps a table from being a key. -/
def ofTable : Bar := some "dict"

/-- What keeps a set from being a key. -/
def ofSet : Bar := some "set"

/-- The words for truth and absence, and the mark for something left out. -/
def constants : List String := ["True", "False", "None", "..."]

namespace Tree

/-- Whether a tree is a number without a sign, imaginary or not. -/
def isNumber (imaginary : Bool) : Tree → Bool
  | .leaf (.number isImaginary _) => isImaginary = imaginary
  | _ => false

/-- Whether a tree is a number that may have a sign. -/
def isSigned (imaginary : Bool) : Tree → Bool
  | .node .unary [sign, number] =>
    (sign.isWord "+" || sign.isWord "-") && number.isNumber imaginary
  | tree => tree.isNumber imaginary

/-- Whether a tree is a sum of a number and an imaginary one. -/
def isSum : Tree → Bool
  | .node .binary [left, sign, right] =>
    (sign.isWord "+" || sign.isWord "-") && left.isSigned false && right.isNumber true
  | _ => false

/-- Whether a tree is the call that makes the empty set. -/
def isEmptySet : Tree → Bool
  | .node .call [.leaf (.name word), .node .group []] => word = "set"
  | _ => false

end Tree

mutual

/-- Makes the value of an expression, as far as its use as a key goes. -/
def valueOf : Tree → Except Fault Bar
  | .leaf (.number ..) => .ok none
  | .leaf token =>
    if constants.any fun word => token = .keyword word || token = .mark word then .ok none
    else .error meaningless
  | .node .texts pieces =>
    if pieces.any Tree.isFormat then .error meaningless else .ok none
  | .node .tuple elements => elementsOf none elements
  | .node .set elements => do
    keysOf elements
    return ofSet
  | .node .table items => do
    itemsOf items
    return ofTable
  | .node kind parts =>
    let tree := Tree.node kind parts
    if tree.isEmptySet then .ok ofSet
    else if tree.isSigned false || tree.isSigned true || tree.isSum then .ok none
    else .error meaningless

/-- Makes the elements of a tuple; the first that is no key keeps the tuple from being one. -/
def elementsOf (bar : Bar) : List Tree → Except Fault Bar
  | [] => .ok bar
  | tree :: rest => do
    let found ← valueOf tree
    elementsOf (bar <|> found) rest

/-- Makes the elements of a set. -/
def keysOf : List Tree → Except Fault Unit
  | [] => .ok ()
  | tree :: rest => do
    checkKey (← valueOf tree)
    keysOf rest

/-- Makes the pairs of a table. -/
def itemsOf : List Tree → Except Fault Unit
  | [] => .ok ()
  | .node .pair [key, value] :: rest => do
    let bar ← valueOf key
    let _ ← valueOf value
    checkKey bar
    itemsOf rest
  | _ :: _ => .error keyless

end

/-- The deepest that expressions lie in each other if their values are made. -/
def maxDepth : Nat := 2900

/-- What is wrong with a text as a literal, if anything is.  Blanks in front of it do not matter. -/
def fault? (s : List Char) : Option Fault :=
  if s.contains '\x00' then some (.semantic "source code string cannot contain null bytes")
  else match parse (s.dropWhile fun c => c = ' ' || c = '\t') with
    | .error (.told message) => some (.syntactic message)
    | .error .tooDeep => some unreadable
    | .ok tree =>
      if maxDepth < tree.depth then some overgrown
      else match valueOf tree with
        | .error fault => some fault
        | .ok _ => none

end Literal
end LineMetrics

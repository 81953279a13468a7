import LineMetrics.Encoding.Codec
import LineMetrics.Grammar.MacroBody
import LineMetrics.Grammar.RawNode
import LineMetrics.Language
import LineMetrics.Syntax.Tree

/-!
# Trees from grammars

A grammar's tree becomes a syntax tree node by node: rows become lines, bytes become text, comments
lose what is below them, and macro bodies are split (specification, section 2).  A tree with a
syntax error is refused.  The conversion goes into a node's children from within the node, so it
takes room for every level.
-/

namespace LineMetrics
namespace RawNode

/-- Text of a leaf or comment: its bytes as UTF-8, nothing if it has none. -/
def decodedText (text : Option (List UInt8)) : List Char :=
  match text with
  | none => []
  | some bytes => (Encoding.decodeUtf8 bytes).map Encoding.orReplacement

mutual

/-- The syntax node of a raw node and what is below it.  `commentTypes` are the types of
comments. -/
def toNode (commentTypes : List String) : RawNode → Node
  | ⟨type, startRow, startColumn, endRow, text, children, _, _⟩ =>
    let isComment := commentTypes.contains type
    let start : Position := ⟨startRow + 1, startColumn⟩
    if isComment || children.isEmpty then
      .leaf type start (endRow + 1) (decodedText text) isComment
    else ⟨type, start, endRow + 1, none, toNodes commentTypes children, false⟩

/-- The syntax nodes of raw nodes, macro bodies split. -/
def toNodes (commentTypes : List String) : List RawNode → List Node
  | [] => []
  | n :: rest => MacroBody.split (toNode commentTypes n) ++ toNodes commentTypes rest

end

mutual

/-- How many levels of nodes a tree has for `toNode` to go into; it does not go into comments. -/
def levels (commentTypes : List String) : RawNode → Nat
  | ⟨type, _, _, _, _, children, _, _⟩ =>
    if commentTypes.contains type then 1 else levelsOfAll commentTypes children + 1

/-- The most levels of some trees. -/
def levelsOfAll (commentTypes : List String) : List RawNode → Nat
  | [] => 0
  | n :: rest => max (levels commentTypes n) (levelsOfAll commentTypes rest)

end

end RawNode

/-- Why a grammar gives no syntax tree. -/
inductive GrammarFault
  /-- The grammar's parser has no tree for the text. -/
  | noTree
  /-- The tree has a syntax error. -/
  | errorNear (line : Int)
  deriving Repr, DecidableEq

/-- The fault in words. -/
def GrammarFault.reason : GrammarFault → String
  | noTree => "grammar not available"
  | errorNear line => s!"syntax error near line {line}"

namespace Syntax

/-- The syntax tree of what a grammar's parser returned for a text. -/
def grammarTree (path : String) (language : Language) (s : List Char) (raw : Option RawNode) :
    Except GrammarFault SyntaxTree :=
  match raw with
  | none => .error .noTree
  | some root =>
    if root.hasError then .error (.errorNear root.faultLine)
    else .ok ⟨path, language.name, root.toNode language.commentTypes, Text.lineCount s⟩

end Syntax
end LineMetrics

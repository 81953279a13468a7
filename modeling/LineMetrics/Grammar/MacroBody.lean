import LineMetrics.Lexeme.Basic
import LineMetrics.Syntax.Node

/-!
# Macro bodies

The grammars take a macro's body up to the end of its line, a line comment behind it included
(specification, section 2).  Splitting a body takes the comment out again, as a node of its own, and
leaves the code in front of it.
-/

namespace LineMetrics
namespace MacroBody

/-- The node type of a macro body. -/
def nodeType : String := "preproc_arg"

/-- The comment that starts behind `head` in the body. -/
def commentPart (n : Node) (head tail : List Char) : Node :=
  let start := n.start.advance head
  let text := Text.trimEnd tail
  .leaf "comment" start (start.line + Text.breakCount text) text true

/-- The code in front of the comment. -/
def codePart (n : Node) (code : List Char) : Node :=
  .leaf n.type n.start (n.start.line + Text.breakCount code) code false

/-- A macro body as its code, if there is any, and its comment; any other node as it is. -/
def split (n : Node) : List Node :=
  if n.type ≠ nodeType then [n]
  else
    match n.text with
    | none => [n]
    | some text =>
      match Lexeme.lineCommentOffset text with
      | none => [n]
      | some offset =>
        let head := text.take offset
        let comment := commentPart n head (text.drop offset)
        let code := Text.trimEnd head
        if code.isEmpty then [comment] else [codePart n code, comment]

end MacroBody
end LineMetrics

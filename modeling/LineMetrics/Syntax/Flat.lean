import LineMetrics.Lexeme.Basic
import LineMetrics.Syntax.Tree

/-!
# The flat tree of a source text

Without a grammar a file's tree is flat: a root whose children are the lexemes, gaps left out, each
at its place in the text (specification, section 2).  A text with an unclosed comment or literal has
no tree; the fault is that of the first such opener.
-/

namespace LineMetrics

namespace Opener

/-- What the opener starts, in words. -/
def noun : Opener → String
  | .blockComment => "block comment"
  | .string => "string literal"
  | .character => "character literal"

end Opener

namespace Lexeme

/-- The node type of a lexeme; gaps and unclosed openers make no node. -/
def Kind.nodeType : Kind → String
  | .lineComment | .blockComment => "comment"
  | .string => "string_literal"
  | .character => "char_literal"
  | .message => "preproc_message"
  | .directive => "preproc_directive"
  | .keyword => "at_keyword"
  | .identifier => "identifier"
  | .number => "number_literal"
  | .newline => "newline"
  | .space => "whitespace"
  | .punctuation => "punctuation"
  | .unclosed _ => "unclosed"

/-- The node of a lexeme that starts at `p`. -/
def toNode (p : Position) (l : Lexeme) : Node :=
  .leaf l.kind.nodeType p (p.advance l.text).line l.text l.kind.isComment

end Lexeme

/-- An opener without its partner, and the line it stands on. -/
structure Unclosed where
  opener : Opener
  line : Int
  deriving Repr, DecidableEq

/-- The fault in words. -/
def Unclosed.reason (u : Unclosed) : String :=
  s!"unterminated {u.opener.noun} at line {u.line}"

namespace Syntax

/-- The nodes of lexemes that start at `p`, behind those already made, which are held in reverse. -/
def leavesFrom (made : List Node) (p : Position) : List Lexeme → Except Unclosed (List Node)
  | [] => .ok made.reverse
  | l :: rest =>
    match l.kind with
    | .unclosed opener => .error ⟨opener, p.line⟩
    | kind =>
      if kind.isGap then leavesFrom made (p.advance l.text) rest
      else leavesFrom (l.toNode p :: made) (p.advance l.text) rest

theorem leavesFrom_eq (made : List Node) (p : Position) (ls : List Lexeme) :
    leavesFrom made p ls = (leavesFrom [] p ls).map (made.reverse ++ ·) := by
  induction ls generalizing made p with
  | nil => simp [leavesFrom, Except.map]
  | cons l rest ih =>
    obtain ⟨kind, text⟩ := l
    cases kind
    case unclosed opener => simp [leavesFrom, Except.map]
    all_goals
      simp only [leavesFrom, Lexeme.Kind.isGap, if_true, Bool.false_eq_true, if_false]
      first
      | exact ih made _
      | rw [ih, ih [_]]
        cases leavesFrom [] _ rest <;> simp [Except.map]

/-- The nodes of the lexemes of a text, or its first unclosed opener. -/
def leaves (s : List Char) : Except Unclosed (List Node) :=
  leavesFrom [] .start (Lexeme.lexemes s)

/-- The flat tree of a text. -/
def flatTree (path language : String) (s : List Char) : Except Unclosed SyntaxTree := do
  let children ← leaves s
  let lines := Text.lineCount s
  return {
    path, language
    root := ⟨"translation_unit", .start, max lines 1, none, children, false⟩
    lineCount := lines }

end Syntax
end LineMetrics

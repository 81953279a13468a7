import LineMetrics.Comment
import LineMetrics.LineSet
import LineMetrics.Measure.Sheet
import LineMetrics.Syntax.Tree
import LineMetrics.Text.Search

/-!
# Metric visitors

A visitor measures one concern of a syntax tree: it owns some metrics of file scope and answers a
tree with the writes it makes, up to a fault if there is one (specification, section 4.3).  The
visitors here count physical lines, lines of code, and comment lines with the blank ones among them.

A line with a suppression marker inside a comment is listed among the file's annotations; the counts
do not depend on the marker.
-/

namespace LineMetrics

/-- What a visitor does with a tree: its writes in order, and the fault that keeps it from more. -/
structure Observation where
  writes : List Write
  fault : Option Fault

/-- The observation of writes that are there only if nothing is wrong. -/
def Observation.ofExcept : Except Fault (List Write) → Observation
  | .ok writes => ⟨writes, none⟩
  | .error fault => ⟨[], some fault⟩

/-- A visitor: its name, the metrics it owns, and what it does with a tree. -/
structure Visitor where
  name : String
  metrics : List Metric
  observe : SyntaxTree → Observation

/-- The annotation that lists the lines with a suppression marker. -/
def suppressedLinesKey : String := "no_sonar_lines"

/-- A suppression marker as it was set. -/
inductive Marker
  /-- No marker: nothing is looked for and nothing is listed. -/
  | off
  | text (marker : List Char)
  /-- A marker that is no text: it cannot be looked for in a line. -/
  | unusable
  deriving Repr, DecidableEq

namespace Marker

/-- The marker that a value stands for. -/
def ofValue : Value → Marker
  | .text s => if s.isEmpty then .off else .text s.toList
  | v => if v.isSet then .unusable else .off

/-- Whether a line holds the marker. -/
def isIn (line : List Char) : Marker → Except Fault Bool
  | .off => .ok false
  | .text marker => .ok (Text.occursIn marker line)
  | .unusable => .error .wrongType

end Marker

/-- How a comment visitor counts. -/
structure CommentCount where
  commentMetric : Metric
  /-- The metric for blank comment lines, if they are counted. -/
  blankMetric : Option Metric
  analyzer : CommentAnalyzer
  /-- Whether the file's header comment is left out. -/
  ignoresHeader : Bool
  marker : Marker

/-- A line of a comment: its number and its text between the delimiters. -/
structure CommentLine where
  number : Int
  text : List Char
  deriving Repr, DecidableEq

/-- A comment's fault as a broken contract; a long comment is shown by its beginning. -/
def CommentFault.toFailure : CommentFault → Failure
  | noFamily comment =>
    .invariant "comment matches no delimiter family" [("comment", String.ofList (comment.take 20))]
  | tooShort family comment =>
    .invariant s!"{family} comment shorter than its delimiters" [("comment", String.ofList comment)]
  | unclosed family comment =>
    .invariant s!"unterminated {family} comment" [("comment", String.ofList (comment.take 20))]

/-- The lines of a comment's contents, numbered from the line the comment starts on. -/
def CommentAnalyzer.commentLines (a : CommentAnalyzer) (comment : Node) :
    Except CommentFault (List CommentLine) := do
  let contents ← a.contents (comment.text.getD [])
  return (Text.splitLines contents).zipIdx.map fun (line, offset) =>
    ⟨comment.start.line + offset, line⟩

namespace CommentCount

/-- The comments that are counted. -/
def counted (c : CommentCount) (t : SyntaxTree) : List Node :=
  if c.ignoresHeader then t.commentsBelowHeader else t.comments

/-- The numbers of the lines that hold the marker. -/
def marked (marker : Marker) (lines : List CommentLine) : Except Fault (List Int) :=
  lines.foldlM (fun found l => do
    if ← marker.isIn l.text then return l.number :: found else return found) []

/-- What a comment visitor adds up: the lines of all counted comments, and those with the marker. -/
def survey (c : CommentCount) (t : SyntaxTree) : Except Fault (List CommentLine × List Int) :=
  (c.counted t).foldlM (fun (lines, found) comment => do
    match c.analyzer.commentLines comment with
    | .error fault => throw (.failure fault.toFailure)
    | .ok more =>
      let moreFound ← marked c.marker more
      return (more.reverse ++ lines, moreFound ++ found)) ([], [])

/-- The writes of a comment visitor. -/
def writes (c : CommentCount) (t : SyntaxTree) : Except Fault (List Write) := do
  let (lines, found) ← c.survey t
  let all := LineSet.ofList (lines.map CommentLine.number)
  let worded := LineSet.ofList ((lines.filter fun l => !isBlankLine l.text).map CommentLine.number)
  let blank := match c.blankMetric with
    | some metric => [Write.set metric (all.diff worded).size]
    | none => []
  let suppressed := match c.marker with
    | .off => []
    | _ => [Write.annotate suppressedLinesKey
        (.list ((LineSet.ofList found).toList.map Value.int))]
  return .set c.commentMetric all.size :: blank ++ suppressed

/-- The metrics that a comment visitor owns. -/
def metrics (c : CommentCount) : List Metric := c.commentMetric :: c.blankMetric.toList

end CommentCount

namespace Visitor

/-- Counts the physical lines. -/
def lines (metric : Metric) : Visitor where
  name := "LinesVisitor"
  metrics := [metric]
  observe t := ⟨[.set metric t.lineCount], none⟩

/-- The lines that a code token spans part of. -/
def codeLines (t : SyntaxTree) : LineSet := .ofList (t.tokens.flatMap Node.lines)

/-- Counts the lines with code tokens; a token of several lines counts on each. -/
def linesOfCode (metric : Metric) : Visitor where
  name := "LinesOfCodeVisitor"
  metrics := [metric]
  observe t := ⟨[.set metric (codeLines t).size], none⟩

/-- Counts comment lines, and the blank ones among them. -/
def comments (c : CommentCount) : Visitor where
  name := "CommentsVisitor"
  metrics := c.metrics
  observe t := .ofExcept (c.writes t)

/-- A visitor that does the same with every tree. -/
def fixed (name : String) (metrics : List Metric) (observation : Observation) : Visitor where
  name := name
  metrics := metrics
  observe _ := observation

/-- The visitor with the names of its metrics. -/
def toText (v : Visitor) : String :=
  let owned := ", ".intercalate (v.metrics.map Metric.name)
  s!"{v.name}({owned})"

/-- A visitor can be used if it owns only metrics of file scope. -/
def checked (v : Visitor) : Except Fault Visitor :=
  match v.metrics.find? fun m => m.scope ≠ .file with
  | some m => .error (.badValue s!"{v.name} cannot own project metric {m.name}")
  | none => .ok v

/-- The sheet after a visitor has written it. -/
def run (v : Visitor) (t : SyntaxTree) (s : Sheet) : Except Fault Sheet := do
  let observation := v.observe t
  match s.writeAll v.metrics observation.writes, observation.fault with
  | .error refused, _ => throw refused.toFault
  | .ok _, some fault => throw fault
  | .ok s, none => return s

end Visitor

/-- The sheet of a tree that the visitors have written in order. -/
def measure (visitors : List Visitor) (t : SyntaxTree) (path : String) : Except Fault Sheet :=
  visitors.foldlM (fun s v => v.run t s) (.blank path)

end LineMetrics

import LineMetrics.Command.Emoji
import LineMetrics.Command.Handler
import LineMetrics.Command.Style
import LineMetrics.Text.Display

/-!
# Markup

Text for the terminal may hold tags in square brackets, which start with a lower-case letter, `#`,
`@` or, for closing tags, `/`.  A tag names a style or a handler, and may have parameters behind an
equals sign.  Rendering takes the tags out and shows emoji for their codes; a closing tag has to
belong to an open one whose style means the same.  A backslash in front of a tag makes it plain
text, and two backslashes are one.  Escaping does that to every tag of a text.
-/

namespace LineMetrics
namespace Markup

/-- What a tag may start with. -/
def startsTag (c : Char) : Bool := ('a' ≤ c && c ≤ 'z') || c = '#' || c = '/' || c = '@'

/-- The text of the tag whose opening bracket the text follows, without its brackets. -/
def tagBody? (s : List Char) : Option (List Char) :=
  match s with
  | [] => none
  | c :: _ =>
    if startsTag c then
      let body := s.takeWhile fun d => d ≠ ']' && d ≠ '['
      if (s.drop body.length).head? = some ']' then some body else none
    else none

/-- A piece of text with markup. -/
inductive Piece
  | plain (text : List Char)
  /-- A tag with the number of backslashes in front of it, and its place. -/
  | tag (backslashes : Nat) (body : List Char) (place : Nat)
  deriving Repr, DecidableEq

/-- Plain text held in reverse, with backslashes behind it. -/
def heldWith (held : List Char) (slashes : Nat) : List Char := List.replicate slashes '\\' ++ held

/-- The pieces of a text from a place on; `held` is the plain text before it, and `slashes` the
number of backslashes after that, both already read. -/
def piecesFrom (place : Nat) (held : List Char) (slashes : Nat) (s : List Char) : List Piece :=
  match s with
  | [] => [.plain (heldWith held slashes).reverse]
  | c :: rest =>
    if c = '\\' then piecesFrom (place + 1) held (slashes + 1) rest
    else if c = '[' then
      match tagBody? rest with
      | some body =>
        .plain held.reverse :: .tag slashes body (place - slashes)
          :: piecesFrom (place + body.length + 2) [] 0 (rest.drop (body.length + 1))
      | none => piecesFrom (place + 1) (c :: heldWith held slashes) 0 rest
    else piecesFrom (place + 1) (c :: heldWith held slashes) 0 rest
termination_by s.length
decreasing_by all_goals simp only [List.length_cons, List.length_drop]; omega

/-- The pieces of a text. -/
def pieces (s : List Char) : List Piece := piecesFrom 0 [] 0 s

/-- Plain text without the backslashes in front of opening brackets. -/
def dropEscapes : List Char → List Char
  | [] => []
  | '\\' :: '[' :: rest => '[' :: dropEscapes rest
  | c :: rest => c :: dropEscapes rest

/-- Plain text as it is shown. -/
def shownPlain (s : List Char) : List Char := Emoji.replaceCodes (dropEscapes s)

/-- An open tag: the normal form of its style, its parameters, and where its text starts. -/
structure OpenTag where
  style : String
  parameters : List Char
  start : Nat
  deriving Repr, DecidableEq

/-- A part of the shown text, from one place up to another, with the words of its style. -/
structure Span where
  start : Nat
  stop : Nat
  words : String
  deriving Repr, DecidableEq

namespace OpenTag

/-- The tag of a text between brackets. -/
def ofBody (body : List Char) (start : Nat) : Except Fault OpenTag := do
  let name := body.takeWhile (· ≠ '=')
  return ⟨← Style.normalize name, body.drop (name.length + 1), start⟩

/-- Whether the tag names a handler. -/
def isHandler (t : OpenTag) : Bool := t.style.startsWith "@"

/-- The words of the tag's style, in which its parameters count too. -/
def words (t : OpenTag) : String :=
  if t.parameters.isEmpty then t.style else t.style ++ " " ++ String.ofList t.parameters

/-- The spans of a tag that is closed at a place; there is none for a handler, whose parameters are
looked at instead. -/
def closeAt (stop : Nat) (t : OpenTag) : Except Fault (List Span) :=
  if t.isHandler then
    if t.parameters.isEmpty then .ok []
    else (Handler.check t.parameters).map fun _ => []
  else .ok [⟨t.start, stop, t.words⟩]

end OpenTag

/-- The open tag that a closing tag of a style belongs to, the latest one, and the others. -/
def takeTag (style : String) : List OpenTag → Option (OpenTag × List OpenTag)
  | [] => none
  | t :: rest =>
    if t.style = style then some (t, rest)
    else (takeTag style rest).map fun (found, others) => (found, t :: others)

/-- The tag that a closing tag at a place belongs to, and those that stay open; `name` is the text
behind its slash, up to an equals sign. -/
def closed (opened : List OpenTag) (name body : List Char) (place : Nat) :
    Except Fault (OpenTag × List OpenTag) := do
  let style := Text.trim name
  if style.isEmpty then
    match opened with
    | t :: rest => return (t, rest)
    | [] => throw (.badMarkup s!"closing tag '[/]' at position {place} has nothing to close")
  else
    match takeTag (← Style.normalize style) opened with
    | some found => return found
    | none =>
      let tag := String.ofList body
      throw (.badMarkup s!"closing tag '[{tag}]' at position {place} doesn't match any open tag")

/-- Text with markup, as far as it is read. -/
structure Rendering where
  /-- The text that is shown, from its end. -/
  shown : List Char
  /-- The tags that are open, the latest first. -/
  opened : List OpenTag
  /-- The spans of the tags that are closed. -/
  spans : List Span
  deriving Repr, DecidableEq

namespace Rendering

/-- The rendering with more text shown. -/
def say (r : Rendering) (text : List Char) : Rendering :=
  { r with shown := (text.filter fun c => !Text.isControl c).reverse ++ r.shown }

/-- The text that is shown. -/
def text (r : Rendering) : List Char := r.shown.reverse

/-- The rendering behind a piece. -/
def read (r : Rendering) : Piece → Except Fault Rendering
  | .plain text => .ok (r.say (shownPlain text))
  | .tag slashes body place => do
    let r := r.say (List.replicate (slashes / 2) '\\')
    let name := body.takeWhile (· ≠ '=')
    if slashes % 2 = 1 then return r.say (shownPlain ('[' :: body ++ [']']))
    else if name.head? = some '/' then
      let (t, opened) ← closed r.opened (name.drop 1) body (place + slashes)
      return { r with opened, spans := r.spans ++ (← t.closeAt r.shown.length) }
    else return { r with opened := (← OpenTag.ofBody body r.shown.length) :: r.opened }

/-- The rendering with its open tags closed at the end. -/
def finish (r : Rendering) : Rendering :=
  { r with
    opened := []
    spans := r.spans ++ r.opened.map fun t => ⟨t.start, r.shown.length, t.words⟩ }

/-- The lines of a text from a place on: where each one starts, and where it ends without the blanks
at its end. -/
def extents (start : Nat) : List (List Char) → List (Nat × Nat)
  | [] => []
  | line :: rest =>
    (start, start + (Text.trimEnd line).length) :: extents (start + line.length + 1) rest

/-- Whether a span is drawn, given the extents of the lines of a text and its length.  A text of one
line without tabs is drawn as a whole, up to the blanks at its end, with the spans that hold
nothing; otherwise a span has to hold something on a line.  -/
def isDrawn (isWhole : Bool) (lines : List (Nat × Nat)) (length : Nat) (s : Span) : Bool :=
  lines.any fun (first, last) =>
    if isWhole then s.start < last || last = length
    else max s.start first < min s.stop last

/-- Checks the styles of all spans that are drawn. -/
def checkStyles (r : Rendering) : Except Fault Unit :=
  let text := r.text
  let isWhole := !text.contains '\n' && !text.contains '\t'
  let lines := extents 0 (Text.splitOn '\n' text)
  let length := text.length
  (r.spans.filter (isDrawn isWhole lines length)).forM fun s => Style.check s.words

end Rendering

/-- Text with its markup read. -/
def render (s : String) : Except Fault Rendering :=
  let start : Rendering := ⟨[], [], []⟩
  if s.contains '[' then ((pieces s.toList).foldlM Rendering.read start).map Rendering.finish
  else .ok (start.say (Emoji.replaceCodes s.toList))

/-- A piece with its tag made plain text. -/
def escapePiece : Piece → List Char
  | .plain text => text
  | .tag slashes body _ =>
    List.replicate (2 * slashes + 1) '\\' ++ '[' :: body ++ [']']

/-- Whether a text ends with one backslash only. -/
def endsWithOneBackslash (s : List Char) : Bool :=
  match s.reverse with
  | '\\' :: '\\' :: _ => false
  | '\\' :: _ => true
  | _ => false

/-- Markup that shows the text, tags and all. -/
def escape (s : String) : String :=
  let escaped := (pieces s.toList).flatMap escapePiece
  String.ofList (if endsWithOneBackslash escaped then escaped ++ ['\\'] else escaped)

end Markup
end LineMetrics

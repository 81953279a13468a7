import LineMetrics.Encoding.Utf8
import LineMetrics.Toml.Scalar

/-!
# TOML documents

A document is a sequence of statements, one a line: `key = value`, `[table]`, or `[[table]]`, which
adds a table to an array.  Reading keeps the tables built so far and a set of marks on key paths: a
path that was declared may not be declared again, and what an inline table or array holds is frozen.
Arrays and inline tables stand in one another only as far as there is room.
-/

namespace LineMetrics
namespace Toml

/-- The entries of a table, in order of entry. -/
abbrev Entries := List (String × Value)

/-- The value under a key. -/
def valueAt? (k : String) (es : Entries) : Option Value := (es.find? fun e => e.1 = k).map Prod.snd

/-- The entries with `v` under `k`, in its place if the key is there and else at the end. -/
def setEntry (k : String) (v : Value) : Entries → Entries
  | [] => [(k, v)]
  | (a, b) :: rest => if a = k then (k, v) :: rest else (a, b) :: setEntry k v rest

/-- Changes the table that a path of keys leads to, making the tables on the way that are not there.
A path leads through an array of tables by its last one, unless `throughArrays` is false; it leads
nowhere through other values. -/
def updateTable (throughArrays : Bool) (change : Entries → Option Entries) :
    List String → Entries → Option Entries
  | [], es => change es
  | k :: path, es =>
    match valueAt? k es with
    | none => (updateTable throughArrays change path []).map fun t => setEntry k (.table t) es
    | some (.table t) =>
      (updateTable throughArrays change path t).map fun t => setEntry k (.table t) es
    | some (.list items) =>
      match throughArrays, items.getLast? with
      | true, some (.table t) =>
        (updateTable throughArrays change path t).map fun t =>
          setEntry k (.list (items.dropLast ++ [.table t])) es
      | _, _ => none
    | some _ => none

/-- The table with a new entry; a key that is there is refused. -/
def addEntry (k : String) (v : Value) (es : Entries) : Option Entries :=
  if (valueAt? k es).isSome then none else some (es ++ [(k, v)])

/-- The table with another empty table in the array under a key. -/
def addToArray (k : String) (es : Entries) : Option Entries :=
  match valueAt? k es with
  | none => some (es ++ [(k, .list [.table []])])
  | some (.list items) => some (setEntry k (.list (items ++ [.table []])) es)
  | some _ => none

/-- A mark on a path of keys. -/
inductive Mark
  /-- The path was declared as a table. -/
  | declared (path : List String)
  /-- The path, and every path below it, belongs to an inline value. -/
  | frozen (path : List String)
  deriving Repr, DecidableEq

/-- Whether a path is declared. -/
def isDeclared (marks : List Mark) (path : List String) : Bool := marks.contains (.declared path)

/-- Whether a path is frozen, by itself or with a path above it. -/
def isFrozen (marks : List Mark) (path : List String) : Bool :=
  !path.isEmpty && marks.any fun
    | .frozen above => above.isPrefixOf path
    | .declared _ => false

/-- The marks that are not on a path or below it. -/
def forget (path : List String) (marks : List Mark) : List Mark :=
  marks.filter fun
    | .declared p | .frozen p => !path.isPrefixOf p

/-- The text behind a comment, if it starts with one. -/
def skipComment (s : List Char) : Except TomlFault (List Char) :=
  match s with
  | '#' :: rest =>
    if (rest.takeWhile (· ≠ '\n')).any isIllegal then .error .malformed
    else .ok (rest.dropWhile (· ≠ '\n'))
  | _ => .ok s

/-- The text behind at most `limit` comments and the blanks and line feeds around them. -/
def skipFiller (limit : Nat) (s : List Char) : Except TomlFault (List Char) := do
  let rest := s.dropWhile fun c => isSpace c || c = '\n'
  match limit, rest with
  | n + 1, '#' :: _ =>
    let rest ← skipComment rest
    skipFiller n rest
  | _, _ => return rest

/-- Whether the value holds others, so that its path is frozen. -/
def isInline : Value → Bool
  | .list _ | .table _ => true
  | _ => false

/-- The room that an array takes. -/
def arrayRoom : Nat := 2

/-- The room that an inline table takes. -/
def tableRoom : Nat := 3

mutual

/-- A value, with room for others inside it.  `fuel` bounds the nesting of values and the items of
each; twice the length of the text suffices. -/
def value (fuel room : Nat) (s : List Char) : Except TomlFault (Value × List Char) :=
  match fuel, s with
  | 0, _ => .error .malformed
  | n + 1, '[' :: rest => do
    if room < arrayRoom then throw .tooDeep
    let rest ← skipFiller rest.length rest
    match rest with
    | ']' :: rest => return (.list [], rest)
    | _ => items n (room - arrayRoom) [] rest
  | n + 1, '\x7b' :: rest =>
    if room < tableRoom then .error .tooDeep
    else match skipSpace rest with
    | '\x7d' :: rest => .ok (.table [], rest)
    | rest => pairs n (room - tableRoom) [] [] rest
  | _ + 1, _ => scalar s

/-- The items of an array from the next one on, behind those already read, which are held in
reverse. -/
def items (fuel room : Nat) (found : List Value) (s : List Char) :
    Except TomlFault (Value × List Char) :=
  match fuel with
  | 0 => .error .malformed
  | n + 1 => do
    let (item, rest) ← value n room s
    let found := item :: found
    let rest ← skipFiller rest.length rest
    match rest with
    | ']' :: rest => return (.list found.reverse, rest)
    | ',' :: rest =>
      let rest ← skipFiller rest.length rest
      match rest with
      | ']' :: rest => return (.list found.reverse, rest)
      | _ => items n room found rest
    | _ => throw .malformed

/-- The pairs of an inline table from the next one on, with the entries and marks so far. -/
def pairs (fuel room : Nat) (es : Entries) (marks : List Mark) (s : List Char) :
    Except TomlFault (Value × List Char) :=
  match fuel with
  | 0 => .error .malformed
  | n + 1 => do
    let (path, rest) ← key s
    match rest with
    | '=' :: rest =>
      let (v, rest) ← value n room (skipSpace rest)
      if isFrozen marks path then throw .malformed
      match updateTable false (addEntry (path.getLastD "") v) path.dropLast es with
      | none => throw .malformed
      | some es =>
        match skipSpace rest with
        | '\x7d' :: rest => return (.table es, rest)
        | ',' :: rest =>
          let marks := if isInline v then .frozen path :: marks else marks
          pairs n room es marks (skipSpace rest)
        | _ => throw .malformed
    | _ => throw .malformed

end

/-- The state of reading a document: what was built, the marks, the marks that the next table header
brings into force, and the path of the table that statements are in. -/
structure Building where
  entries : Entries
  marks : List Mark
  pending : List Mark
  header : List String

namespace Building

/-- Before the first statement. -/
def start : Building := ⟨[], [], [], []⟩

/-- The marks with the pending ones in force. -/
def settled (b : Building) : List Mark := b.pending ++ b.marks

/-- The state behind `[path]`. -/
def openTable (b : Building) (path : List String) : Option Building :=
  let marks := b.settled
  if isDeclared marks path || isFrozen marks path then none
  else (updateTable true some path b.entries).map fun es =>
    ⟨es, .declared path :: marks, [], path⟩

/-- The state behind `[[path]]`. -/
def openArray (b : Building) (path : List String) : Option Building :=
  let marks := b.settled
  if isFrozen marks path then none
  else
    (updateTable true (addToArray (path.getLastD "")) path.dropLast b.entries).map fun es =>
      ⟨es, .declared path :: forget path marks, [], path⟩

/-- The paths of the tables that a key of several parts leads through. -/
def pathsThrough (header path : List String) : List (List String) :=
  (List.range (path.length - 1)).map fun k => header ++ path.take (k + 1)

/-- The state behind `path = v`. -/
def addPair (b : Building) (path : List String) (v : Value) : Option Building :=
  let through := pathsThrough b.header path
  let above := b.header ++ path.dropLast
  if through.any (isDeclared b.marks) || isFrozen b.marks above then none
  else
    (updateTable true (addEntry (path.getLastD "") v) above b.entries).map fun es =>
      { b with
        entries := es
        marks := if isInline v then .frozen (b.header ++ path) :: b.marks else b.marks
        pending := through.map .declared ++ b.pending }

/-- The state behind a step that may be refused. -/
def orMalformed (b : Option Building) : Except TomlFault Building :=
  match b with
  | some b => .ok b
  | none => .error .malformed

/-- The state behind the statement that the text starts with, and the rest of its line, with room
for values in one another. -/
def statement (room : Nat) (b : Building) (s : List Char) :
    Except TomlFault (Building × List Char) :=
  match s with
  | '[' :: '[' :: rest => do
    let (path, rest) ← key (skipSpace rest)
    let b ← orMalformed (b.openArray path)
    match rest with
    | ']' :: ']' :: rest => return (b, rest)
    | _ => throw .malformed
  | '[' :: rest => do
    let (path, rest) ← key (skipSpace rest)
    let b ← orMalformed (b.openTable path)
    match rest with
    | ']' :: rest => return (b, rest)
    | _ => throw .malformed
  | _ => do
    let (path, rest) ← key s
    match rest with
    | '=' :: rest =>
      let rest := skipSpace rest
      let (v, rest) ← value (2 * rest.length + 2) room rest
      let b ← orMalformed (b.addPair path v)
      return (b, rest)
    | _ => throw .malformed

/-- The state behind at most `limit` lines of a text. -/
def lines (room limit : Nat) (b : Building) (s : List Char) : Except TomlFault Building :=
  match limit with
  | 0 => .error .malformed
  | n + 1 =>
    match skipSpace s with
    | [] => .ok b
    | '\n' :: rest => lines room n b rest
    | c :: rest => do
      let (b, rest) ← if c = '#' then pure (b, c :: rest) else b.statement room (c :: rest)
      let rest ← skipComment (skipSpace rest)
      match rest with
      | [] => return b
      | '\n' :: rest => lines room n b rest
      | _ => throw .malformed

end Building

/-- Line feeds for the pairs of a carriage return and a line feed. -/
def unifyLineEnds : List Char → List Char
  | [] => []
  | '\r' :: '\n' :: rest => '\n' :: unifyLineEnds rest
  | c :: rest => c :: unifyLineEnds rest

/-- The entries of the document that a text is, if there is room for its values in one another. -/
def document (room : Nat) (s : List Char) : Except TomlFault Entries := do
  let s := unifyLineEnds s
  let b ← Building.lines room (s.length + 1) .start s
  return b.entries

end Toml
end LineMetrics

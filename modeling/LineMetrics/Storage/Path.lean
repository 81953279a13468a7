import LineMetrics.Text.Search

/-!
# Paths

A path is a sequence of names, absolute if it starts at the root.  Empty names and `.` are left out
when a path is read; `..` stays, because only the file store knows what it leads to.
-/

namespace LineMetrics

/-- A path: its root (`/`, or `//`, or nothing for a relative path) and its names. -/
structure Path where
  root : String
  names : List String
  deriving Repr, DecidableEq

namespace Path

/-- The null character, which ends a path for the operating system. -/
def nul : Char := '\x00'

/-- The names of a text between slashes, empty ones included. -/
def segments (s : String) : List String := (Text.splitOn '/' s.toList).map String.ofList

/-- The root that a text starts with: exactly two slashes are kept, any other number is one. -/
def rootOf (s : List Char) : String :=
  match s with
  | '/' :: '/' :: '/' :: _ => "/"
  | '/' :: '/' :: _ => "//"
  | '/' :: _ => "/"
  | _ => ""

/-- The path that a text denotes. -/
def ofText (s : String) : Path :=
  ⟨rootOf s.toList, (segments s).filter fun n => n ≠ "" ∧ n ≠ "."⟩

/-- The path as text; the empty path is `.`. -/
def toText (p : Path) : String :=
  if p.root = "" ∧ p.names = [] then "." else p.root ++ "/".intercalate p.names

/-- Whether a name of the path holds a null character, so that it cannot be looked up. -/
def hasNul (p : Path) : Bool := p.names.any fun name => name.contains nul

/-- What is wrong with a path that holds a null character. -/
def nulReason : String := "embedded null byte"

/-- Whether the path starts at the root. -/
def isAbsolute (p : Path) : Bool := p.root ≠ ""

/-- The path `q` as seen from `p`. -/
def join (p q : Path) : Path := if q.isAbsolute then q else ⟨p.root, p.names ++ q.names⟩

/-- The extension of a file name: its last dot, unless that is the first or last character, and what
follows. -/
def extensionOf (name : List Char) : List Char :=
  let rest := (name.reverse.takeWhile (· ≠ '.')).reverse
  let stem := name.length - rest.length
  if 1 < stem ∧ rest ≠ [] then '.' :: rest else []

/-- The extension of the path's last name, in lower case. -/
def extension (p : Path) : String :=
  match p.names.getLast? with
  | some name => String.ofList (Text.lower (extensionOf name.toList))
  | none => ""

end Path
end LineMetrics

import LineMetrics.Ledger
import LineMetrics.Storage.FileStore

/-!
# Consoles

What a console does for the program: it makes out what a command line asks for, draws tables, and
shows messages.  The program decides what is asked for, what stands in a table and what is told;
how arguments are written and how text is laid out is the console's affair, and a parameter of
everything that the program does (specification, section 6).
-/

namespace LineMetrics
namespace Command

/-- The forms of a report. -/
inductive Format
  | table
  | json
  deriving Repr, DecidableEq

/-- A request to scan files. -/
structure Request where
  files : List String
  language : Option String
  backend : Option String
  ignoreHeader : Option Bool
  workers : Option Int
  format : Format
  config : Option String
  verbose : Bool
  quiet : Bool
  deriving Repr, DecidableEq

/-- Why a request cannot be met. -/
inductive Refusal
  | misuse
  /-- A path with a null character. -/
  | nulPath
  deriving Repr, DecidableEq

/-- What a command line asks for. -/
inductive Demand
  | help
  | refused (refusal : Refusal)
  | scan (request : Request)
  deriving Repr, DecidableEq

/-- A table with a title, a head and a foot for each column, and rows of cells. -/
structure Table where
  title : Value
  columns : List (String × String)
  rows : List (List String)

/-- What a console makes of arguments and of what is to be shown.  Lines that are shown are given in
cells, and some text cannot be shown at all. -/
structure Console where
  /-- What arguments ask for; the paths among them can be looked at. -/
  demand : FileStore → List String → Demand
  /-- A table line by line. -/
  draw : Table → Except Fault (List (List String))
  /-- A message line by line: a label, and what it is about. -/
  tell : String → List String → Except Fault (List (List String))

end Command
end LineMetrics

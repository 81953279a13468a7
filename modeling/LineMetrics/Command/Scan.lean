import LineMetrics.Command.Report
import LineMetrics.Scanner
import LineMetrics.Settings.Layers

/-!
# The scan command

A command line ends with an exit code: 0 if every file was measured, 1 if some failed, and 2 for a
misuse or a failure of the whole run.  A fault that nothing accounts for ends the program with 1
(specification, section 6).
-/

namespace LineMetrics
namespace Command

/-- What is written to standard output. -/
inductive Output
  | silent
  | document (report : Value)
  /-- Lines in cells. -/
  | lines (rows : List (List String))
  /-- Nothing: the program broke down. -/
  | broken (fault : Fault)

/-- How a command line ends. -/
structure Outcome where
  exit : Nat
  output : Output
  /-- What was reported on the way, in order. -/
  events : List Event
  /-- The least level of what is shown of it. -/
  threshold : Level

/-- The settings that a request overrides. -/
def overrides (r : Request) : List (String × Value) :=
  [(Field.key .language, r.language.elim .null .text),
   (Field.key .backend, r.backend.elim .null .text),
   (Field.key .ignoreHeader, r.ignoreHeader.elim .null .bool),
   (Field.key .workers, r.workers.elim .null .int)]

/-- The scanner of a request after all its files were scanned. -/
def scanned (files : FileStore) (env : Environment) (catalog : Catalog) (r : Request) :
    Except Fault Scanner := do
  let settings ← Settings.load files env (r.config.map .ofText) (overrides r)
  scanBatch files catalog (r.files.map .ofText) settings none

section

variable (console : Console)

/-- The report of a ledger in a form. -/
def report (format : Format) (l : Ledger) : Except Fault Output :=
  match format with
  | .json => (Report.document l).map .document
  | .table => (Report.lines console l).map .lines

/-- The outcome of a request to scan. -/
def runScan (files : FileStore) (env : Environment) (catalog : Catalog) (r : Request) : Outcome :=
  let threshold := Level.threshold r.verbose r.quiet
  let broken (fault : Fault) : Outcome := ⟨1, .broken fault, [], threshold⟩
  match scanned files env catalog r with
  | .error (.failure failure) =>
    match Report.errorLines console failure with
    | .ok rows => ⟨2, .lines rows, [], threshold⟩
    | .error fault => broken fault
  | .error fault => broken fault
  | .ok scanner =>
    let exit := if scanner.ledger.failures.isEmpty then 0 else 1
    let events := scanner.events.reverse
    match report console r.format scanner.ledger with
    | .ok output => ⟨exit, output, events, threshold⟩
    | .error fault => broken fault

/-- The outcome of a command line, at a console. -/
def runAt (files : FileStore) (env : Environment) (catalog : Catalog) (args : List String) :
    Outcome :=
  match console.demand files args with
  | .help => ⟨0, .silent, [], .warning⟩
  | .refused .misuse => ⟨2, .silent, [], .warning⟩
  | .refused .nulPath => ⟨1, .broken (.badValue Path.nulReason), [], .warning⟩
  | .scan request => runScan console files env catalog request

end

end Command
end LineMetrics

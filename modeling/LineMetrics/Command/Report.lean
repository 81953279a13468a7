import LineMetrics.Command.Console

/-!
# Reports

What a scan has found out, as a document, or as a table with a message for each failure.  Files are
listed by path, failures in the order in which they were recorded (specification, section 6).
-/

namespace LineMetrics
namespace Report

/-- Measures by their labels. -/
def measuresValue (ms : Measures) : Value :=
  .table (ms.entries.map fun (m, n) => (m.label, .int n))

/-- The files of a ledger with their records, by path. -/
def sortedFiles (l : Ledger) : List (String × FileRecord) :=
  l.files.entries.mergeSort fun a b => !decide (b.1 < a.1)

/-- A file's part of the document. -/
def fileValue (path : String) (r : FileRecord) : Value :=
  .table [("path", .text path), ("measures", measuresValue r.measures),
    ("metadata", .table r.annotations.entries)]

/-- A failure's part of the document. -/
def failureValue (f : FailureRecord) : Value :=
  .table [("path", .text f.path), ("reason", .text f.reason)]

/-- The ledger as a document; a project named by a date or time has none.  The name is a key, so
there is always room for it. -/
def document (l : Ledger) : Except Fault Value := do
  match ← l.project.shown 0 with
  | .moment _ => throw .wrongType
  | name =>
    return (.table [
      ("project", .table [("name", name), ("measures", measuresValue l.totals)]),
      ("files", .list ((sortedFiles l).map fun (path, r) => fileValue path r)),
      ("failures", .list (l.failures.map failureValue))])

/-- The columns of the table behind the path. -/
def columns : List (Metric × String) :=
  [(.lines, "Lines"), (.linesOfCode, "LOC"), (.commentLines, "Comments"),
   (.commentBlankLines, "Blank comments")]

/-- A measure in a cell, `missing` if there is none. -/
def cell (missing : String) (ms : Measures) (m : Metric) : String :=
  match ms.get? m with
  | some n => toString n
  | none => missing

/-- The table of a ledger, with the project's totals in its foot. -/
def table (l : Ledger) : Command.Table :=
  let files := l.totals.total .files
  { title := l.project
    columns := ("File", s!"{files} files") ::
      columns.map fun (m, head) => (head, cell "" l.totals m)
    rows := (sortedFiles l).map fun (path, r) =>
      path :: columns.map fun c => cell "-" r.measures c.1 }

/-- What is shown of a ledger: its table, and a message for each failure. -/
def lines (console : Command.Console) (l : Ledger) : Except Fault (List (List String)) := do
  let drawn ← console.draw (table l)
  let failed ← l.failures.mapM fun f => console.tell "Failed" [f.path, f.reason]
  return drawn ++ failed.flatten

/-- What is shown of a failure of the whole run. -/
def errorLines (console : Command.Console) (f : Failure) : Except Fault (List (List String)) :=
  console.tell "Error" [f.toText]

end Report
end LineMetrics

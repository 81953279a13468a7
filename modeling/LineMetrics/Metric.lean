/-!
# Metrics

The fixed universe of metrics (specification, section 3).  A metric of file scope is written by the
visitors of a file; a metric of project scope is kept by the ledger.  Each has an identifier, a
label for reports and a description.
-/

namespace LineMetrics

/-- What is counted. -/
inductive Metric
  /-- Files that were parsed and measured. -/
  | files
  /-- Physical lines. -/
  | lines
  /-- Lines with code. -/
  | linesOfCode
  /-- Lines with comment text. -/
  | commentLines
  /-- Comment lines without letter or number. -/
  | commentBlankLines
  deriving Repr, DecidableEq

/-- Where a metric is written. -/
inductive MetricScope
  | file
  | project
  deriving Repr, DecidableEq

/-- The scope in words. -/
def MetricScope.name : MetricScope → String
  | .file => "file"
  | .project => "project"

/-- The scope of a word. -/
def MetricScope.ofName? : String → Option MetricScope
  | "file" => some .file
  | "project" => some .project
  | _ => none

namespace Metric

/-- All metrics, in the order of their definition. -/
def all : List Metric := [.files, .lines, .linesOfCode, .commentLines, .commentBlankLines]

/-- Identifier of a metric. -/
def name : Metric → String
  | files => "FILES"
  | lines => "LINES"
  | linesOfCode => "LINES_OF_CODE"
  | commentLines => "COMMENT_LINES"
  | commentBlankLines => "COMMENT_BLANK_LINES"

/-- The metric of an identifier. -/
def ofName? (s : String) : Option Metric := all.find? fun m => m.name = s

/-- Stable name of a metric in reports. -/
def label : Metric → String
  | files => "files"
  | lines => "lines"
  | linesOfCode => "lines_of_code"
  | commentLines => "comment_lines"
  | commentBlankLines => "comment_blank_lines"

/-- Where the metric is written. -/
def scope : Metric → MetricScope
  | files => .project
  | _ => .file

/-- What the metric counts, in words. -/
def description : Metric → String
  | files => "Number of successfully parsed files"
  | lines => "Physical lines in the file"
  | linesOfCode => "Physical lines holding at least one non-comment, non-blank token"
  | commentLines => "Physical lines carrying comment text"
  | commentBlankLines => "Comment lines without any letter or digit"

/-- Why a metric cannot be registered. -/
inductive RegistrationFault
  /-- The scope is neither `file` nor `project`. -/
  | badScope (metric : Metric)
  /-- The metric is in the registry already. -/
  | duplicate (metric : Metric)
  deriving Repr, DecidableEq

/-- The fault in words. -/
def RegistrationFault.message : RegistrationFault → String
  | badScope m => s!"{m.name}: scope must be 'file' or 'project'"
  | duplicate m => s!"Metric {m.name} is already registered"

/-- Registration of a metric beside those that `registered` holds. -/
def register (registered : List Metric) (m : Metric) (scope : String) :
    Except RegistrationFault (List Metric) :=
  match MetricScope.ofName? scope with
  | none => .error (.badScope m)
  | some _ => if m ∈ registered then .error (.duplicate m) else .ok (registered ++ [m])

theorem mem_all (m : Metric) : m ∈ all := by cases m <;> decide

end Metric
end LineMetrics

import LineMetrics.Event

/-!
# The ledger of a scan

The ledger holds what a scan has found out: the measures of each measured file, the failures in the
order in which they were recorded, and the project's totals (specification, section 4.4).
Publishing a file's measures replaces what an earlier scan published for it, and recording a failure
withdraws it, so each path stands for the outcome of its last scan.  Totals are kept up as files
come and go; a metric that was once counted stays among the totals.
-/

namespace LineMetrics

/-- What was published for a file. -/
structure FileRecord where
  measures : Measures
  annotations : Annotations

/-- A file that has no measures. -/
structure FailureRecord where
  path : String
  reason : String
  cause : Failure

/-- The kinds of entities in the ledger. -/
inductive EntityKind
  | project
  | file
  deriving Repr, DecidableEq

namespace EntityKind

/-- The kind in words. -/
def name : EntityKind → String
  | project => "project"
  | file => "file"

/-- The kind of a word. -/
def named (s : String) : Except Fault EntityKind :=
  if s = project.name then .ok project
  else if s = file.name then .ok file
  else
    let shown := Text.quoted s
    .error (.badValue s!"{shown} is not a valid EntityType")

end EntityKind

/-- A project by its name, which is whatever value the settings give, or a file by its path. -/
inductive EntityId
  | project (name : Value)
  | file (path : String)

/-- A measured entity: the project, or a file of it. -/
structure Entity where
  id : EntityId
  parent : Option EntityId
  measures : Measures
  annotations : Annotations

/-- Why measures cannot be published. -/
inductive PublishFault
  /-- A metric that only the ledger counts. -/
  | projectMetric (metric : Metric) (path : String)
  | negative (metric : Metric) (value : Int) (path : String)
  deriving Repr, DecidableEq

namespace PublishFault

/-- The fault as a broken contract. -/
def toFailure : PublishFault → Failure
  | projectMetric m path =>
    .invariant "project metric written at file level" [("metric", m.name), ("path", path)]
  | negative m value path =>
    .invariant "negative metric value"
      [("metric", m.name), ("value", toString value), ("path", path)]

/-- Whether the fault can be told: a value has to be short enough to be shown. -/
def isTellable : PublishFault → Bool
  | projectMetric .. => true
  | negative _ value _ => Numeral.isShowable value

/-- What is raised: the broken contract or, if that cannot be told, that its value is too long. -/
def toFault (fault : PublishFault) : Fault :=
  if fault.isTellable then .failure fault.toFailure else .badValue Numeral.unshowable

end PublishFault

/-- What a scan has found out. -/
structure Ledger where
  project : Value
  /-- The project's measures. -/
  totals : Measures
  files : Listing String FileRecord
  failures : List FailureRecord

namespace Ledger

/-- The ledger of a project before anything is scanned. -/
def ofProject (name : Value) : Ledger := ⟨name, .empty, .empty, []⟩

/-- The first measure that cannot be published. -/
def publishFault? (path : String) (measures : Measures) : Option PublishFault :=
  measures.entries.findSome? fun (m, value) =>
    if m.scope ≠ .file then some (.projectMetric m path)
    else if value < 0 then some (.negative m value path)
    else none

/-- The totals with a file's measures added. -/
def credit (totals : Measures) (measures : Measures) : Measures :=
  measures.entries.foldl (fun ts e => ts.bump e.1 e.2) totals

/-- The totals with a file's measures taken back. -/
def withdraw (totals : Measures) (measures : Measures) : Measures :=
  measures.entries.foldl (fun ts e => ts.bump e.1 (-e.2)) totals

/-- The failures of other paths. -/
def failuresElsewhere (l : Ledger) (path : String) : List FailureRecord :=
  l.failures.filter fun f => f.path ≠ path

/-- The ledger with a file's measures published. -/
def commit (l : Ledger) (path : String) (measures : Measures) (annotations : Annotations) :
    Except PublishFault (Ledger × List Event) :=
  match publishFault? path measures with
  | some fault => .error fault
  | none =>
    let (cleared, events) := match l.files.get? path with
      | some earlier => (withdraw l.totals earlier.measures, [Event.replaced path])
      | none => (l.totals.bump .files 1, [])
    .ok ({ l with
      totals := credit cleared measures
      files := l.files.put path ⟨measures, annotations⟩
      failures := l.failuresElsewhere path }, events)

/-- The ledger with a failure recorded. -/
def recordFailure (l : Ledger) (path reason : String) (cause : Failure) : Ledger × List Event :=
  let (totals, events) := match l.files.get? path with
    | some earlier => ((withdraw l.totals earlier.measures).bump .files (-1), [Event.dropped path])
    | none => (l.totals, [])
  ({ l with
    totals := totals
    files := l.files.erase path
    failures := l.failuresElsewhere path ++ [⟨path, reason, cause⟩] }, events)

/-- The project as an entity. -/
def projectEntity (l : Ledger) : Entity := ⟨.project l.project, none, l.totals, .empty⟩

/-- A file as an entity. -/
def fileEntity (l : Ledger) (path : String) (r : FileRecord) : Entity :=
  ⟨.file path, some (.project l.project), r.measures, r.annotations⟩

/-- The measured files as entities. -/
def fileEntities (l : Ledger) : List Entity :=
  l.files.entries.map fun (path, r) => l.fileEntity path r

/-- All entities of a kind. -/
def search (l : Ledger) : EntityKind → List Entity
  | .project => [l.projectEntity]
  | .file => l.fileEntities

/-- The entity of a kind under a key. -/
def find? (l : Ledger) (kind : EntityKind) (key : String) : Option Entity :=
  match kind with
  | .project => match l.project with
    | .text name => if name = key then some l.projectEntity else none
    | _ => none
  | .file => (l.files.get? key).map (l.fileEntity key)

end Ledger
end LineMetrics

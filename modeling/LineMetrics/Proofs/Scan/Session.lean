import LineMetrics.Proofs.Scan.Invariant
import LineMetrics.Proofs.Scan.Pool

/-!
# Sessions

A session is a sequence of jobs for one scanner: single files, batches, and batches of workers under
a schedule (specification, section 4.4).  Jobs may end with a fault, and files may be scanned again
and may have changed by then.  What stays the same is the `Setup`; with it a file has one parser,
whatever was scanned before (`InSession.run_parserFor`).  A job changes the ledger only by the calls
that deliver what it finds, so what these calls keep, the session keeps: `session_induction`.
-/

namespace LineMetrics
namespace Scanner

/-! ### Jobs -/

/-- What a scanner is told to do with files as they then are. -/
inductive Job
  | file (files : FileStore) (path : Path) (strict : Bool)
  | batch (files : FileStore) (paths : List Path)
  | workers (files : FileStore) (paths : List Path) (schedule : List Nat)

namespace Job

/-- The files that the job finds. -/
def files : Job → FileStore
  | .file files .. | .batch files _ | .workers files .. => files

/-- The paths that the job is about. -/
def paths : Job → List Path
  | .file _ path _ => [path]
  | .batch _ paths | .workers _ paths _ => paths

/-- The scanner after the job, done or ended by a fault. -/
def run (catalog : Catalog) (s : Scanner) : Job → Scanner
  | .file files path strict => (s.run (scanFile files catalog path strict)).2
  | .batch files paths => (s.run (scanFiles files catalog paths)).2
  | .workers files paths schedule => ((Pool.start s paths).run files catalog schedule).scanner

end Job

/-- The scanner after a sequence of jobs. -/
def session (catalog : Catalog) (s : Scanner) (jobs : List Job) : Scanner :=
  jobs.foldl (Job.run catalog) s

/-! ### What a session finds -/

/-- The parser of a file: the one that is given for all files, or else the one made for the file's
language. -/
def parserOf (catalog : Catalog) (settings : Settings) (given : Option Parser) (path : Path) :
    Except Fault Parser :=
  match given with
  | some parser => .ok parser
  | none => (Parser.create catalog settings (languageFor settings path)).2

/-- What stays the same in a session. -/
structure Setup where
  catalog : Catalog
  settings : Settings
  visitors : List Visitor
  /-- The parser of every file, if it was given. -/
  parser : Option Parser

namespace Setup

variable (setup : Setup)

/-- What may be found under a path. -/
def Finds (files : FileStore) (path : Path) (key : String) (finding : Finding) : Prop :=
  keyOf files path = .ok key ∧
    ∃ parser strict, parserOf setup.catalog setup.settings setup.parser path = .ok parser ∧
      examine setup.settings setup.visitors files setup.catalog strict parser path key = .ok finding

/-- A property of ledgers is kept by whatever may be found under a path. -/
def Admits (I : Ledger → Prop) (files : FileStore) (path : Path) : Prop :=
  ∀ key finding, setup.Finds files path key finding →
    ∀ l l', I l → l.call (finding.call key) = .ok l' → I l'

/-- A scanner in the midst of a session, with a ledger of the property. -/
structure InSession (I : Ledger → Prop) (s : Scanner) : Prop where
  settings_eq : s.settings = setup.settings
  visitors_eq : s.visitors = setup.visitors
  parser_eq : s.parser = setup.parser
  /-- A parser that was kept is the one that would be made anew. -/
  parsers : ∀ name parser, s.parsers.get? name = some parser →
    (Parser.create setup.catalog setup.settings (.text name)).2 = .ok parser
  ledger : I s.ledger

end Setup

variable {setup : Setup} {I : Ledger → Prop} {s : Scanner} {files : FileStore} {path : Path}

namespace Setup.InSession

/-- What is reported has no part in a session. -/
theorem report (s : Scanner) (events : List Event) (hs : setup.InSession I s) :
    setup.InSession I { s with events } :=
  ⟨hs.settings_eq, hs.visitors_eq, hs.parser_eq, hs.parsers, hs.ledger⟩

/-- **A file's parser** is the one that the setup has for it, whatever was scanned before. -/
theorem run_parserFor (hs : setup.InSession I s) (path : Path) :
    ∃ s', s.run (parserFor setup.catalog path) =
      (parserOf setup.catalog setup.settings setup.parser path, s') ∧ setup.InSession I s' := by
  obtain ⟨hsettings, hvisitors, hgiven, hparsers, hledger⟩ := hs
  cases hparser : setup.parser with
  | none =>
    rw [hparser] at hgiven
    have hsteady : s.Steady setup.catalog setup.settings setup.visitors :=
      ⟨hsettings, hvisitors, hgiven, hparsers⟩
    obtain ⟨s', hrun, hs', hsame⟩ := Scanner.run_parserFor hsteady path
    exact ⟨s', hrun, hs'.settings_eq, hs'.visitors_eq, hs'.parser_eq.trans hparser.symm,
      hs'.parsers, hsame ▸ hledger⟩
  | some parser =>
    rw [hparser] at hgiven
    refine ⟨s, ?_, hsettings, hvisitors, hgiven.trans hparser.symm, hparsers, hledger⟩
    rw [parserFor, run_bind, run_get]
    dsimp only
    rw [hgiven]
    rfl

/-- **Delivering a finding** keeps what its call keeps. -/
theorem deliver {key : String} {finding : Finding} (hs : setup.InSession I s)
    (hcall : ∀ l l', I l → l.call (finding.call key) = .ok l' → I l') (path : Path) :
    setup.InSession I (s.run (Scanner.deliver path key finding)).2 := by
  obtain ⟨s', hrun, ⟨hsettings, hvisitors, hgiven, hparsers⟩, hcases⟩ :=
    run_deliver_cases s path key finding
  rw [hrun]
  refine ⟨hsettings.trans hs.settings_eq, hvisitors.trans hs.visitors_eq,
    hgiven.trans hs.parser_eq, hparsers ▸ hs.parsers, ?_⟩
  rcases hcases with ⟨rfl, -⟩ | hdone
  · exact hs.ledger
  · exact hcall _ _ hs.ledger hdone

end Setup.InSession

/-! ### Files and batches -/

/-- **Scanning a file** keeps what is kept by whatever may be found. -/
theorem keeps_scanFile (hpath : setup.Admits I files path) (strict : Bool) :
    Scan.Keeps (setup.InSession I) (scanFile files setup.catalog path strict) := by
  intro s hs
  rw [run_scanFile_steps]
  cases hkey : keyOf files path with
  | error fault => exact hs
  | ok key =>
    obtain ⟨s₁, hrun, hs₁⟩ := hs.run_parserFor path
    rw [hrun]
    cases hparser : parserOf setup.catalog setup.settings setup.parser path with
    | error fault => exact hs₁
    | ok parser =>
      dsimp only
      rw [hs₁.settings_eq, hs₁.visitors_eq]
      cases hfinding : examine setup.settings setup.visitors files setup.catalog strict parser path
          key with
      | error fault => exact hs₁
      | ok finding =>
        exact hs₁.deliver (hpath key finding ⟨hkey, parser, strict, hparser, hfinding⟩) path

/-- Workers keep what scanning their files keeps, also if none of them is started. -/
theorem keeps_scanByWorkers {paths : List Path} (hpaths : ∀ p ∈ paths, setup.Admits I files p) :
    Scan.Keeps (setup.InSession I) (scanByWorkers files setup.catalog paths) := by
  refine Scan.keeps_get_bind fun s hs => ?_
  dsimp only
  split
  · exact Scan.keeps_orFault (.error _) s hs
  · refine Scan.Keeps.bind (Scan.keeps_mapM fun p hp => ?_) (fun results =>
      Scan.keeps_mapM fun result _ => Scan.keeps_orFault result) s hs
    refine Scan.Keeps.tryCatch ?_ fun fault => Scan.keeps_pure _
    exact (keeps_scanFile (hpaths p hp) false).bind fun entity => Scan.keeps_pure _

/-- **A batch,** in turn or by workers, keeps what scanning its files keeps. -/
theorem keeps_scanFiles {paths : List Path} (hpaths : ∀ p ∈ paths, setup.Admits I files p) :
    Scan.Keeps (setup.InSession I) (scanFiles files setup.catalog paths) := by
  rw [scanFiles]
  by_cases hempty : paths.isEmpty = true
  · rw [if_pos hempty]
    exact Scan.keeps_orFault (.error _)
  · rw [if_neg hempty]
    refine Scan.Keeps.bind (Scan.keeps_orFault _) fun _ => Scan.keeps_get_bind fun s hs => ?_
    have hreport : ∀ entities : List (Option Entity), Scan.Keeps (setup.InSession I) (Scan.report
        [.complete (entities.filter Option.isSome).length
          (entities.length - (entities.filter Option.isSome).length)]) :=
      fun _ => Scan.keeps_report Setup.InSession.report _
    dsimp only
    split
    · exact Scan.Keeps.bind (keeps_scanByWorkers hpaths) hreport s hs
    · refine Scan.Keeps.bind ?_ hreport s hs
      exact Scan.keeps_mapM fun p hp => keeps_scanFile (hpaths p hp) false

/-! ### Workers under a schedule -/

/-- What a task has got hold of so far is what its file has in the session. -/
def Task.Sound (setup : Setup) (files : FileStore) : Task → Prop
  | .queued _ | .finished .. => True
  | .equipped path key parser => keyOf files path = .ok key ∧
      parserOf setup.catalog setup.settings setup.parser path = .ok parser
  | .examined path key finding => setup.Finds files path key finding

/-- **A step of a task** keeps what is kept by whatever may be found under its path. -/
theorem Task.sound_step {task : Task} (hs : setup.InSession I s) (ht : task.Sound setup files)
    (hpath : setup.Admits I files task.path) :
    setup.InSession I (task.step files setup.catalog s).2 ∧
      (task.step files setup.catalog s).1.Sound setup files := by
  cases task with
  | queued path =>
    simp only [step, run_bind, run_orFault]
    cases hkey : keyOf files path with
    | error fault => exact ⟨hs, trivial⟩
    | ok key =>
      obtain ⟨s₁, hrun, hs₁⟩ := hs.run_parserFor path
      dsimp only
      cases hparser : parserOf setup.catalog setup.settings setup.parser path with
      | error fault =>
        rw [hrun, hparser]
        exact ⟨hs₁, trivial⟩
      | ok parser =>
        rw [hrun, hparser]
        exact ⟨hs₁, hkey, hparser⟩
  | equipped path key parser =>
    simp only [step, hs.settings_eq, hs.visitors_eq]
    cases hfinding : examine setup.settings setup.visitors files setup.catalog false parser path
        key with
    | error fault => exact ⟨hs, trivial⟩
    | ok finding => exact ⟨hs, ht.1, parser, false, ht.2, hfinding⟩
  | examined path key finding => exact ⟨hs.deliver (hpath key finding ht) path, trivial⟩
  | finished path result => exact ⟨hs, trivial⟩

/-- A pool of a session: its tasks are those of paths of a batch. -/
structure Pool.Sound (setup : Setup) (I : Ledger → Prop) (files : FileStore) (paths : List Path)
    (pool : Pool) : Prop where
  scanner : setup.InSession I pool.scanner
  tasks : ∀ t ∈ pool.tasks, t.Sound setup files ∧ t.path ∈ paths

/-- A pool that has not started is sound. -/
theorem Pool.sound_start {paths : List Path} (hs : setup.InSession I s) :
    (Pool.start s paths).Sound setup I files paths where
  scanner := hs
  tasks t ht := by
    obtain ⟨p, hp, rfl⟩ := List.mem_map.1 ht
    exact ⟨trivial, hp⟩

/-- **A run of a pool** keeps what is kept by whatever may be found under its paths. -/
theorem Pool.sound_run {paths : List Path} (hpaths : ∀ p ∈ paths, setup.Admits I files p)
    (schedule : List Nat) {pool : Pool} (h : pool.Sound setup I files paths) :
    (pool.run files setup.catalog schedule).Sound setup I files paths := by
  have hstep : ∀ (s : Scanner) (task : Task), setup.InSession I s →
      task.Sound setup files ∧ task.path ∈ paths →
        setup.InSession I (task.step files setup.catalog s).2 ∧
          (task.step files setup.catalog s).1.Sound setup files ∧
            (task.step files setup.catalog s).1.path ∈ paths := by
    intro s task hs htask
    obtain ⟨hs', hsound⟩ := Task.sound_step hs htask.1 (hpaths _ htask.2)
    exact ⟨hs', hsound, (Task.path_step files setup.catalog s task).symm ▸ htask.2⟩
  obtain ⟨hscanner, htasks⟩ := run_keeps hstep schedule h.scanner h.tasks
  exact ⟨hscanner, htasks⟩

/-! ### The whole session -/

/-- **A job** keeps what is kept by whatever may be found under its paths. -/
theorem Job.inSession_run {job : Job} (hs : setup.InSession I s)
    (hpaths : ∀ p ∈ job.paths, setup.Admits I job.files p) :
    setup.InSession I (job.run setup.catalog s) := by
  cases job with
  | file files path strict => exact keeps_scanFile (hpaths path List.mem_cons_self) strict s hs
  | batch files paths => exact keeps_scanFiles hpaths s hs
  | workers files paths schedule =>
    exact (Pool.sound_run hpaths schedule (Pool.sound_start hs)).scanner

/-- A session of several jobs stays a session, if each path may be scanned. -/
theorem inSession_session {jobs : List Job} (hs : setup.InSession I s)
    (hjobs : ∀ job ∈ jobs, ∀ p ∈ job.paths, setup.Admits I job.files p) :
    setup.InSession I (s.session setup.catalog jobs) := by
  induction jobs generalizing s with
  | nil => exact hs
  | cons job rest ih =>
    obtain ⟨hjob, hrest⟩ := List.forall_mem_cons.1 hjobs
    exact ih (Job.inSession_run hs hjob) hrest

/-- A new scanner begins a session with a blank ledger. -/
theorem inSession_create (catalog : Catalog) {settings : Settings}
    {visitors : Option (List Visitor)} {given : Option Parser}
    (h : create settings visitors given = .ok s)
    (hstart : I (.ofProject (settings.get .projectName))) :
    Setup.InSession ⟨catalog, settings, s.visitors, given⟩ I s := by
  obtain ⟨hsettings, -, hparser, hparsers, hledger⟩ := created_of_create h
  refine ⟨hsettings, rfl, hparser, fun _ _ hkept => ?_, hledger ▸ hstart⟩
  rw [hparsers] at hkept
  exact nomatch hkept

/-- **What holds of the blank ledger** and is kept by the call for whatever may be found holds after
every session, whatever its jobs end with. -/
theorem session_induction {catalog : Catalog} {settings : Settings}
    {visitors : Option (List Visitor)} {given : Option Parser} {jobs : List Job}
    (hcreate : create settings visitors given = .ok s)
    (hstart : I (.ofProject (settings.get .projectName)))
    (hstep : ∀ job ∈ jobs, ∀ p ∈ job.paths,
      Setup.Admits ⟨catalog, settings, s.visitors, given⟩ I job.files p) :
    I (s.session catalog jobs).ledger :=
  (inSession_session (inSession_create catalog hcreate hstart) hstep).ledger

end Scanner
end LineMetrics

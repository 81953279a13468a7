import LineMetrics.Proofs.Ledger.Outcome
import LineMetrics.Proofs.Scan.Reading

/-!
# What scanning a file does

A scanner in a session is `Steady`: its settings and visitors are those it was created with, and a
parser that it has kept is the one that would be made anew (specification, section 4.1).  So what
scanning a file does to the ledger does not depend on what was scanned before: it is the one call
that `verdict` computes from the settings, the visitors and the file (`run_scanFile`).
-/

namespace LineMetrics

/-- The language of a path by its extension is among the languages. -/
theorem Language.ofPath_mem (path : Path) : ofPath path .fallback ∈ all := by
  rw [ofPath]
  split_ifs
  · exact List.mem_cons_self
  · cases hfound : all.find? fun l => l.extensions.contains path.extension with
    | none => exact List.mem_cons_self
    | some l => exact List.mem_of_find?_eq_some hfound

namespace Scanner

variable {α β : Type}

section Run

variable (s : Scanner)

theorem run_pure (a : α) : s.run (pure a) = (.ok a, s) := rfl

/-- The first step ends the scan, or the next one goes on where it ended. -/
theorem run_bind (x : Scan α) (f : α → Scan β) : s.run (x >>= f) =
    match s.run x with
    | (.ok a, s') => s'.run (f a)
    | (.error fault, s') => (.error fault, s') := by
  unfold run
  rcases h : StateT.run (ExceptT.run x) s with ⟨_ | _, s'⟩
  all_goals
    simp only [bind, ExceptT.bind, ExceptT.run, ExceptT.mk, StateT.bind, StateT.run] at h ⊢
    rw [h]
    rfl

theorem run_get : s.run (get : Scan Scanner) = (.ok s, s) := rfl

theorem run_modify (f : Scanner → Scanner) : s.run (modify f : Scan PUnit) = (.ok ⟨⟩, f s) := rfl

theorem run_orFault (r : Except Fault α) : s.run (Scan.orFault r) = (r, s) := by
  cases r <;> rfl

/-- A handler starts from the scanner as the raised scan has left it. -/
theorem run_tryCatch (x : Scan α) (handle : Fault → Scan α) : s.run (tryCatch x handle) =
    match s.run x with
    | (.ok a, s') => (.ok a, s')
    | (.error fault, s') => s'.run (handle fault) := by
  unfold run
  rcases h : StateT.run (ExceptT.run x) s with ⟨_ | _, s'⟩
  all_goals
    simp only [tryCatch, tryCatchThe, MonadExceptOf.tryCatch, ExceptT.tryCatch, ExceptT.run,
      ExceptT.mk, bind, StateT.bind, StateT.run] at h ⊢
    simp only [h]
  rfl

end Run

/-- **The steps of scanning a file:** its key, its parser, what is found, and the delivery of that.
A fault in one of them ends the scan with the scanner that it has come to. -/
theorem run_scanFile_steps (s : Scanner) (files : FileStore) (catalog : Catalog) (path : Path)
    (strict : Bool) :
    s.run (scanFile files catalog path strict) =
      match keyOf files path with
      | .error fault => (.error fault, s)
      | .ok key =>
        match s.run (parserFor catalog path) with
        | (.error fault, s₁) => (.error fault, s₁)
        | (.ok parser, s₁) =>
          match examine s₁.settings s₁.visitors files catalog strict parser path key with
          | .error fault => (.error fault, s₁)
          | .ok finding => s₁.run (deliver path key finding) := by
  rw [scanFile, run_bind, run_orFault]
  cases keyOf files path with
  | error fault => rfl
  | ok key =>
    dsimp only
    rw [run_bind]
    rcases s.run (parserFor catalog path) with ⟨fault | parser, s₁⟩
    · rfl
    · dsimp only
      rw [run_bind, run_get]
      dsimp only
      rw [run_bind, run_orFault]
      cases examine s₁.settings s₁.visitors files catalog strict parser path key <;> rfl

/-- All that creating a scanner does. -/
structure Created (settings : Settings) (visitors : Option (List Visitor)) (given : Option Parser)
    (s : Scanner) : Prop where
  settings_eq : s.settings = settings
  visitors_eq : visitors.elim (defaultVisitors settings) .ok = .ok s.visitors
  parser_eq : s.parser = given
  parsers_eq : s.parsers = .empty
  ledger_eq : s.ledger = .ofProject (settings.get .projectName)

/-- A scanner that is created holds what it was created from. -/
theorem created_of_create {settings : Settings} {visitors : Option (List Visitor)}
    {given : Option Parser} {s : Scanner} (h : create settings visitors given = .ok s) :
    Created settings visitors given s := by
  unfold create at h
  rcases visitors with _ | visitors
  all_goals
    obtain ⟨used, hused, h⟩ := bind_eq_ok_iff.1 h
    dsimp only at h
    split at h
    · exact nomatch h
    · obtain rfl := Except.ok.inj h
      exact ⟨rfl, hused, rfl, rfl, rfl⟩

/-- The settings and visitors of a session, which has no parser of its own: nothing that was scanned
before has an influence on what it does next. -/
structure Steady (catalog : Catalog) (settings : Settings) (visitors : List Visitor)
    (s : Scanner) : Prop where
  settings_eq : s.settings = settings
  visitors_eq : s.visitors = visitors
  parser_eq : s.parser = none
  /-- A parser that was kept is the one that would be made anew. -/
  parsers : ∀ name parser, s.parsers.get? name = some parser →
    (Parser.create catalog settings (.text name)).2 = .ok parser

/-- Only a text names a language. -/
theorem text_of_ofValue {v : Value} {l : Language} (h : Language.ofValue v = .ok l) :
    ∃ name, v = .text name := by
  unfold Language.ofValue at h
  split_ifs at h
  cases v with
  | text name => exact ⟨name, rfl⟩
  | _ =>
    dsimp only at h
    split at h <;> simp_all

/-- The language of a file is set, so the settings are not asked again. -/
theorem isSet_languageFor (settings : Settings) (path : Path) :
    (languageFor settings path).isSet = true := by
  rw [languageFor]
  split
  · rename_i h
    exact h
  · have hset : ∀ l ∈ Language.all, (Value.text l.name).isSet = true := by decide
    exact hset _ (Language.ofPath_mem path)

/-- Only a text names a language that a parser is created for. -/
theorem text_of_create {catalog : Catalog} {settings : Settings} {v : Value} {parser : Parser}
    (hset : v.isSet = true) (h : (Parser.create catalog settings v).2 = .ok parser) :
    ∃ name, v = .text name := by
  rw [Parser.create, if_pos hset, Parser.languageOf, if_pos hset] at h
  cases hl : Language.ofValue v with
  | error fault => rw [hl] at h; exact nomatch h
  | ok l => exact text_of_ofValue hl

variable {catalog : Catalog} {settings : Settings} {visitors : List Visitor} {s : Scanner}

/-- **A file's parser** is the one made for its language, made before or not. -/
theorem run_parserFor (hs : s.Steady catalog settings visitors) (path : Path) :
    ∃ s', s.run (parserFor catalog path) =
        ((Parser.create catalog settings (languageFor settings path)).2, s') ∧
      s'.Steady catalog settings visitors ∧ s'.ledger = s.ledger := by
  rw [parserFor, run_bind, run_get]
  dsimp only
  rw [hs.parser_eq, hs.settings_eq]
  have hset := isSet_languageFor settings path
  generalize languageFor settings path = language at hset ⊢
  dsimp only
  rw [cachedParser, run_bind, run_get]
  dsimp only
  split
  · rename_i parser hknown
    split at hknown
    · rename_i name
      rw [run_pure, hs.parsers name parser hknown]
      exact ⟨s, rfl, hs, rfl⟩
    · exact nomatch hknown
  · rw [hs.settings_eq]
    simp only [run_bind, run_orFault, Scan.report, run_modify]
    cases hcreate : (Parser.create catalog settings language).2 with
    | error fault => exact ⟨_, rfl, ⟨hs.settings_eq, hs.visitors_eq, hs.parser_eq, hs.parsers⟩, rfl⟩
    | ok parser =>
      refine ⟨_, rfl, ⟨hs.settings_eq, hs.visitors_eq, hs.parser_eq, ?_⟩, rfl⟩
      intro name kept hkept
      obtain ⟨text, rfl⟩ := text_of_create hset hcreate
      rw [Value.toText, Listing.get?_put] at hkept
      split at hkept
      · rename_i heq
        rw [heq, hcreate]
        exact congrArg Except.ok (Option.some.inj hkept)
      · exact hs.parsers name kept hkept

namespace Finding

/-- The call on the ledger that delivers a finding. -/
def call (key : String) : Finding → Ledger.Call
  | .sheet written => .commit written.path written.measures written.annotations
  | .failure cause => .recordFailure key ((cause.reason?.map Value.toText).getD cause.toText) cause

/-- Why the ledger refuses a finding, if it does. -/
def refusal? : Finding → Option PublishFault
  | .sheet written => Ledger.publishFault? written.path written.measures
  | .failure _ => none

/-- Why a finding cannot be delivered: measures that a file may not carry, or cannot be told. -/
def check : Finding → Except Fault Unit
  | .sheet written =>
    match Ledger.publishFault? written.path written.measures with
    | some fault => .error fault.toFault
    | none =>
      if written.measures.isShowable then .ok () else .error (.badValue Numeral.unshowable)
  | .failure _ => .ok ()

/-- The call that delivers a finding, if it can be delivered. -/
def delivery (key : String) (finding : Finding) : Except Fault Ledger.Call :=
  finding.check.map fun _ => finding.call key

/-- What is delivered is the call that the finding makes under its key. -/
theorem delivery_eq_ok {key : String} {finding : Finding} {c : Ledger.Call}
    (h : finding.delivery key = .ok c) : c = finding.call key := by
  obtain ⟨-, -, hcall⟩ := map_eq_ok_iff.1 h
  exact hcall.symm

end Finding

/-- **Delivering a finding** ends as the finding can be delivered, and keeps all but the ledger and
the events.  Either the ledger refuses the call and nothing happens, or the call is made, also if
the measures cannot be told. -/
theorem run_deliver_cases (s : Scanner) (path : Path) (key : String) (finding : Finding) :
    ∃ s', s.run (deliver path key finding) =
        ((finding.delivery key).map (Ledger.Call.entity? s.ledger.project), s') ∧
      (s'.settings = s.settings ∧ s'.visitors = s.visitors ∧ s'.parser = s.parser ∧
        s'.parsers = s.parsers) ∧
      ((s' = s ∧ ∃ fault, finding.refusal? = some fault ∧
          finding.delivery key = .error fault.toFault) ∨
        s.ledger.call (finding.call key) = .ok s'.ledger) := by
  cases finding with
  | failure cause => exact ⟨_, rfl, ⟨rfl, rfl, rfl, rfl⟩, .inr rfl⟩
  | sheet written =>
    simp only [deliver, publish, run_bind, run_get, Finding.delivery, Finding.check, Finding.call,
      Ledger.call, Ledger.commit]
    cases hfault : Ledger.publishFault? written.path written.measures with
    | some fault => exact ⟨s, rfl, ⟨rfl, rfl, rfl, rfl⟩, .inl ⟨rfl, fault, hfault, rfl⟩⟩
    | none =>
      simp only [Scan.adopt, Scan.report, run_bind, run_modify]
      by_cases hshow : written.measures.isShowable
      · simp only [hshow]
        exact ⟨_, rfl, ⟨rfl, rfl, rfl, rfl⟩, .inr rfl⟩
      · simp only [hshow]
        exact ⟨_, rfl, ⟨rfl, rfl, rfl, rfl⟩, .inr rfl⟩

/-- In a session, a finding that can be delivered is one accepted call on the ledger. -/
theorem run_deliver (hs : s.Steady catalog settings visitors) (path : Path) (key : String)
    (finding : Finding) :
    ∃ s', s.run (deliver path key finding) =
        ((finding.delivery key).map (Ledger.Call.entity? s.ledger.project), s') ∧
      s'.Steady catalog settings visitors ∧
      ∀ c, finding.delivery key = .ok c → s.ledger.call c = .ok s'.ledger := by
  obtain ⟨s', hrun, ⟨hsettings, hvisitors, hparser, hparsers⟩, hcases⟩ :=
    run_deliver_cases s path key finding
  refine ⟨s', hrun, ⟨hsettings.trans hs.settings_eq, hvisitors.trans hs.visitors_eq,
    hparser.trans hs.parser_eq, hparsers ▸ hs.parsers⟩, fun c hc => ?_⟩
  rcases hcases with ⟨-, fault, -, hfault⟩ | hcall
  · exact nomatch hfault.symm.trans hc
  · rwa [Finding.delivery_eq_ok hc]

/-- The call on the ledger that scanning a file comes to, or the fault that ends the scan. -/
def verdict (files : FileStore) (catalog : Catalog) (settings : Settings) (visitors : List Visitor)
    (strict : Bool) (path : Path) : Except Fault Ledger.Call := do
  let key ← keyOf files path
  let parser ← (Parser.create catalog settings (languageFor settings path)).2
  let finding ← examine settings visitors files catalog strict parser path key
  finding.delivery key

/-- **A verdict, step by step**: the key, the parser, the examination, and the call it comes to. -/
theorem verdict_eq_ok_iff {files : FileStore} {strict : Bool} {p : Path} {c : Ledger.Call} :
    verdict files catalog settings visitors strict p = .ok c ↔
      ∃ key, keyOf files p = .ok key ∧
      ∃ parser, (Parser.create catalog settings (languageFor settings p)).2 = .ok parser ∧
      ∃ finding, examine settings visitors files catalog strict parser p key = .ok finding ∧
        finding.delivery key = .ok c := by
  simp only [verdict, bind_eq_ok_iff]

/-- **Scanning a file** makes the one call of its verdict, whatever was scanned before. -/
theorem run_scanFile (hs : s.Steady catalog settings visitors) (files : FileStore) (path : Path)
    (strict : Bool) :
    ∃ s', s.run (scanFile files catalog path strict) =
        ((verdict files catalog settings visitors strict path).map
          (Ledger.Call.entity? s.ledger.project), s') ∧
      s'.Steady catalog settings visitors ∧
      ∀ c, verdict files catalog settings visitors strict path = .ok c →
        s.ledger.call c = .ok s'.ledger := by
  rw [run_scanFile_steps, verdict]
  cases keyOf files path with
  | error fault => exact ⟨s, rfl, hs, nofun⟩
  | ok key =>
    obtain ⟨s₁, hrun, hs₁, hledger⟩ := run_parserFor hs path
    rw [hrun]
    cases (Parser.create catalog settings (languageFor settings path)).2 with
    | error fault => exact ⟨s₁, rfl, hs₁, nofun⟩
    | ok parser =>
      dsimp only
      rw [hs₁.settings_eq, hs₁.visitors_eq]
      cases hfinding : examine settings visitors files catalog strict parser path key with
      | error fault =>
        refine ⟨s₁, ?_, hs₁, ?_⟩
        · simp only [bind, Except.bind, hfinding]
          rfl
        · simp [bind, Except.bind, hfinding]
      | ok finding =>
        obtain ⟨s₂, hdeliver, hs₂, hcall⟩ := run_deliver hs₁ path key finding
        simp only [bind, Except.bind, hfinding]
        rw [← hledger]
        exact ⟨s₂, hdeliver, hs₂, hcall⟩

end Scanner
end LineMetrics

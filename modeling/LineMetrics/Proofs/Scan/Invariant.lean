import LineMetrics.Proofs.Scan.Run

/-!
# What a scan keeps

A scan ends with the scanner it has come to, also when it ends with a fault.  `Scan.Keeps` says that
a property of scanners holds at the end if it held at the beginning, and it goes through the ways
scans are put together.  Scanning a file changes the ledger in one place: `run_scanFile_cases` says
that it ends with a fault and the ledger as it was, or has made the one call that delivers what was
found.
-/

namespace LineMetrics

namespace Scan

variable {α β : Type} {P : Scanner → Prop}

/-- The scan ends with a scanner of the property if it starts with one, whatever it ends with. -/
def Keeps (P : Scanner → Prop) (x : Scan α) : Prop := ∀ s, P s → P (s.run x).2

/-- Doing nothing keeps every property. -/
theorem keeps_pure (a : α) : Keeps P (pure a : Scan α) := fun _ h => h

/-- Raising or passing on what a computation gives keeps every property. -/
theorem keeps_orFault (r : Except Fault α) : Keeps P (orFault r) := by
  intro s h
  rw [Scanner.run_orFault]
  exact h

/-- A change of the scanner keeps what it is shown to keep. -/
theorem keeps_modify {f : Scanner → Scanner} (hf : ∀ s, P s → P (f s)) :
    Keeps P (modify f : Scan PUnit) := hf

/-- Reporting keeps what does not ask for the events. -/
theorem keeps_report (hevents : ∀ s events, P s → P { s with events }) (events : List Event) :
    Keeps P (report events) := fun s hs => hevents s _ hs

/-- Steps in a row keep what each of them keeps. -/
theorem Keeps.bind {x : Scan α} {f : α → Scan β} (hx : Keeps P x) (hf : ∀ a, Keeps P (f a)) :
    Keeps P (x >>= f) := by
  intro s h
  have hnext := hx s h
  rw [Scanner.run_bind]
  generalize s.run x = ended at hnext
  obtain ⟨_ | a, s'⟩ := ended
  · exact hnext
  · exact hf a s' hnext

/-- What is done with the scanner may use what the scanner has. -/
theorem keeps_get_bind {f : Scanner → Scan β} (hf : ∀ s, P s → P (s.run (f s)).2) :
    Keeps P (get >>= f) := by
  intro s h
  rw [Scanner.run_bind, Scanner.run_get]
  exact hf s h

/-- A handler keeps what the scan and each of its branches keep, a raised scan's changes included.
-/
theorem Keeps.tryCatch {x : Scan α} {handle : Fault → Scan α} (hx : Keeps P x)
    (hhandle : ∀ fault, Keeps P (handle fault)) : Keeps P (tryCatch x handle) := by
  intro s h
  have hnext := hx s h
  rw [Scanner.run_tryCatch]
  generalize s.run x = ended at hnext
  obtain ⟨fault | a, s'⟩ := ended
  · exact hhandle fault s' hnext
  · exact hnext

/-- A scan of each element of a list keeps what each single one keeps. -/
theorem keeps_mapM {f : α → Scan β} {as : List α} (h : ∀ a ∈ as, Keeps P (f a)) :
    Keeps P (as.mapM f) := by
  induction as with
  | nil => exact keeps_pure []
  | cons a as ih =>
    obtain ⟨ha, has⟩ := List.forall_mem_cons.1 h
    rw [List.mapM_cons]
    exact ha.bind fun _ => (ih has).bind fun _ => keeps_pure _

/-- **What ends a sequence of scans** is a scan that those in front of it led to. -/
theorem exists_of_mapM_error {f : α → Scan β} {fault : Fault} {s' : Scanner} :
    ∀ {as : List α} {s : Scanner}, s.run (as.mapM f) = (.error fault, s') →
      ∃ before a after bs s₁, as = before ++ a :: after ∧
        s.run (before.mapM f) = (.ok bs, s₁) ∧ s₁.run (f a) = (.error fault, s')
  | [], s, h => nomatch congrArg Prod.fst h
  | a :: as, s, h => by
    rw [List.mapM_cons, Scanner.run_bind] at h
    rcases hfirst : s.run (f a) with ⟨fault' | b, s₁⟩
    · rw [hfirst] at h
      obtain ⟨heq, rfl⟩ := Prod.mk.inj h
      obtain rfl := Except.error.inj heq
      exact ⟨[], a, as, [], s, rfl, rfl, hfirst⟩
    · rw [hfirst] at h
      dsimp only at h
      rw [Scanner.run_bind] at h
      rcases hrest : s₁.run (as.mapM f) with ⟨fault' | bs, s₂⟩
      · rw [hrest] at h
        obtain ⟨heq, rfl⟩ := Prod.mk.inj h
        obtain rfl := Except.error.inj heq
        obtain ⟨before, a', after, bs, s₃, rfl, hbefore, ha'⟩ := exists_of_mapM_error hrest
        refine ⟨a :: before, a', after, b :: bs, s₃, rfl, ?_, ha'⟩
        rw [List.mapM_cons, Scanner.run_bind, hfirst]
        dsimp only
        rw [Scanner.run_bind, hbefore]
        rfl
      · rw [hrest] at h
        exact nomatch congrArg Prod.fst h

end Scan

namespace Scanner

variable {files : FileStore} {catalog : Catalog}

section

variable {P : Scanner → Prop}

/-- Looking up a parser keeps what asks neither for the parsers nor for the events. -/
theorem keeps_cachedParser (hparsers : ∀ s parsers, P s → P { s with parsers })
    (hevents : ∀ s events, P s → P { s with events }) (language : Value) :
    Scan.Keeps P (cachedParser catalog language) := by
  refine Scan.keeps_get_bind fun s hs => ?_
  dsimp only
  split
  · exact hs
  · refine Scan.Keeps.bind (Scan.keeps_report hevents _) (fun _ => ?_) s hs
    refine Scan.Keeps.bind (Scan.keeps_orFault _) fun parser => ?_
    exact Scan.Keeps.bind (Scan.keeps_modify fun s => hparsers s _) fun _ => Scan.keeps_pure parser

/-- **Finding a parser** keeps what does not depend on the parsers used so far and on the events. -/
theorem keeps_parserFor (hparsers : ∀ s parsers, P s → P { s with parsers })
    (hevents : ∀ s events, P s → P { s with events }) (path : Path) :
    Scan.Keeps P (parserFor catalog path) := by
  refine Scan.keeps_get_bind fun s hs => ?_
  split
  · exact hs
  · exact keeps_cachedParser hparsers hevents _ s hs

end

/-- The settings, the visitors and the parser of every file are those that they were. -/
structure SameSession (s s' : Scanner) : Prop where
  settings_eq : s'.settings = s.settings
  visitors_eq : s'.visitors = s.visitors
  parser_eq : s'.parser = s.parser

/-- Finding a parser keeps the session and the ledger. -/
theorem sameSession_parserFor {s s' : Scanner} {path : Path} {result : Except Fault Parser}
    (h : s.run (parserFor catalog path) = (result, s')) :
    SameSession s s' ∧ s'.ledger = s.ledger := by
  have hkept : Scan.Keeps (fun s' => SameSession s s' ∧ s'.ledger = s.ledger)
      (parserFor catalog path) := keeps_parserFor
    (fun _ _ hs => ⟨⟨hs.1.settings_eq, hs.1.visitors_eq, hs.1.parser_eq⟩, hs.2⟩)
    (fun _ _ hs => ⟨⟨hs.1.settings_eq, hs.1.visitors_eq, hs.1.parser_eq⟩, hs.2⟩) path
  have hs := hkept s ⟨⟨rfl, rfl, rfl⟩, rfl⟩
  rwa [h] at hs

/-- With a key and a parser, scanning a file is examining it and delivering what is found. -/
theorem run_scanFile_eq {s s₁ : Scanner} {path : Path} {key : String} {parser : Parser}
    (hkey : keyOf files path = .ok key)
    (hparser : s.run (parserFor catalog path) = (.ok parser, s₁)) (strict : Bool) :
    s.run (scanFile files catalog path strict) =
      match examine s.settings s.visitors files catalog strict parser path key with
      | .ok finding => s₁.run (deliver path key finding)
      | .error fault => (.error fault, s₁) := by
  obtain ⟨hsession, -⟩ := sameSession_parserFor hparser
  rw [run_scanFile_steps, hkey, hparser]
  dsimp only
  rw [hsession.settings_eq, hsession.visitors_eq]
  cases examine s.settings s.visitors files catalog strict parser path key <;> rfl

/-- **All that scanning a file does.**  It ends with a fault and the ledger as it was, or it has
made the call that delivers what was found; then it ends as the finding can be delivered. -/
theorem run_scanFile_cases {s s' : Scanner} {path : Path} {strict : Bool}
    {result : Except Fault (Option Entity)}
    (h : s.run (scanFile files catalog path strict) = (result, s')) :
    SameSession s s' ∧
    ((∃ fault, result = .error fault ∧ s'.ledger = s.ledger) ∨
      ∃ key parser s₁ finding, keyOf files path = .ok key ∧
        s.run (parserFor catalog path) = (.ok parser, s₁) ∧
        examine s.settings s.visitors files catalog strict parser path key = .ok finding ∧
        s.ledger.call (finding.call key) = .ok s'.ledger ∧
        result = (finding.delivery key).map (Ledger.Call.entity? s.ledger.project)) := by
  cases hkey : keyOf files path with
  | error fault =>
    rw [run_scanFile_steps, hkey] at h
    obtain ⟨rfl, rfl⟩ := Prod.mk.inj h
    exact ⟨⟨rfl, rfl, rfl⟩, .inl ⟨fault, rfl, rfl⟩⟩
  | ok key =>
    rcases hparser : s.run (parserFor catalog path) with ⟨fault | parser, s₁⟩
    · obtain ⟨hsession, hledger⟩ := sameSession_parserFor hparser
      rw [run_scanFile_steps, hkey, hparser] at h
      obtain ⟨rfl, rfl⟩ := Prod.mk.inj h
      exact ⟨hsession, .inl ⟨fault, rfl, hledger⟩⟩
    · obtain ⟨hsession, hledger⟩ := sameSession_parserFor hparser
      rw [run_scanFile_eq hkey hparser] at h
      cases hfinding : examine s.settings s.visitors files catalog strict parser path key with
      | error fault =>
        rw [hfinding] at h
        obtain ⟨rfl, rfl⟩ := Prod.mk.inj h
        exact ⟨hsession, .inl ⟨fault, rfl, hledger⟩⟩
      | ok finding =>
        obtain ⟨s₂, hdeliver, ⟨hsettings, hvisitors, hgiven, -⟩, hcases⟩ :=
          run_deliver_cases s₁ path key finding
        rw [hfinding] at h
        dsimp only at h
        rw [hdeliver] at h
        obtain ⟨rfl, rfl⟩ := Prod.mk.inj h
        refine ⟨⟨hsettings.trans hsession.settings_eq, hvisitors.trans hsession.visitors_eq,
          hgiven.trans hsession.parser_eq⟩, ?_⟩
        rcases hcases with ⟨rfl, fault, -, hfault⟩ | hcall
        · exact .inl ⟨fault.toFault, by rw [hfault]; rfl, hledger⟩
        · rw [hledger] at hcall
          exact .inr ⟨key, parser, s₁, finding, rfl, rfl, hfinding, hcall, by rw [hledger]⟩

end Scanner
end LineMetrics

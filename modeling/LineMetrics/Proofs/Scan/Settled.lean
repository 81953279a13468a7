import LineMetrics.Proofs.Ledger.Presence
import LineMetrics.Proofs.Scan.Run

/-!
# Batches that were scanned

A batch is `Settled` in a ledger when the calls that led to it are the verdicts on the batch's
paths, each made at least once and in any order (specification, section 4.1).  Files scanned one
after the other settle, and so do files that are scanned by workers: both make one call per path and
go on from where it led (`run_mapM_scans`).  A batch in which no file raises a fault is scanned to
its end (`run_scanFiles`), if there is anybody to scan it: a pool of so many workers as is not a
number starts none and is waited for in vain.
-/

namespace LineMetrics

/-- A ledger that calls, none of them refused, have led to. -/
structure Ledger.Records (project : Value) (calls : List Ledger.Call) (l : Ledger) : Prop where
  reflects : l.Reflects calls
  entered : l.Entered calls
  balanced : l.Balanced
  project_eq : l.project = project

namespace Ledger

/-- A ledger without files records no calls. -/
theorem records_ofProject (project : Value) : (ofProject project).Records project [] :=
  ⟨reflects_ofProject project, entered_ofProject project, balanced_ofProject project, rfl⟩

/-- No call changes the name of the project. -/
theorem project_of_call {l next : Ledger} {c : Call} (h : l.call c = .ok next) :
    next.project = l.project := by
  have hnext := call_cases h
  cases c with
  | commit => exact hnext.project
  | recordFailure => exact hnext.project

/-- A ledger records one more call after it. -/
theorem Records.call {project : Value} {calls : List Call} {l next : Ledger} {c : Call}
    (hl : l.Records project calls) (h : l.call c = .ok next) :
    next.Records project (calls ++ [c]) :=
  ⟨hl.reflects.call h, hl.entered.call hl.reflects h, hl.balanced.call h,
    (project_of_call h).trans hl.project_eq⟩

end Ledger

namespace Scanner

section

variable (files : FileStore) (catalog : Catalog) (settings : Settings) (visitors : List Visitor)

/-- A ledger that records the verdicts on the paths of a batch and nothing else. -/
def Settled (project : Value) (paths : List Path) (l : Ledger) : Prop :=
  ∃ calls, l.Records project calls ∧
    (∀ c ∈ calls, ∃ p ∈ paths, verdict files catalog settings visitors false p = .ok c) ∧
    ∀ p ∈ paths, ∃ c ∈ calls, verdict files catalog settings visitors false p = .ok c

/-- A step that scans a file as a batch does: it makes the call of the verdict. -/
def Scans {β : Type} (step : Path → Scan β) (good : β → Prop) : Prop :=
  ∀ {s p c}, Steady catalog settings visitors s →
    verdict files catalog settings visitors false p = .ok c →
    ∃ b s', s.run (step p) = (.ok b, s') ∧ good b ∧ Steady catalog settings visitors s' ∧
      s.ledger.call c = .ok s'.ledger

end

variable {files : FileStore} {catalog : Catalog} {settings : Settings} {visitors : List Visitor}
  {project : Value}

/-- Scanning a file makes the call of its verdict. -/
theorem scans_scanFile :
    Scans files catalog settings visitors (scanFile files catalog · false) fun _ => True := by
  intro s p c hs hc
  obtain ⟨s', hrun, hs', hcall⟩ := run_scanFile hs files p false
  rw [hc] at hrun
  exact ⟨_, s', hrun, trivial, hs', hcall c hc⟩

/-- What a worker does with a file, whose fault is kept for the end of the batch. -/
def worker (files : FileStore) (catalog : Catalog) (path : Path) :
    Scan (Except Fault (Option Entity)) := do
  try
    let entity ← scanFile files catalog path false
    pure (Except.ok entity)
  catch fault => pure (Except.error fault)

/-- A worker scans its file, and gives the entity back. -/
theorem scans_worker :
    Scans files catalog settings visitors (worker files catalog)
      fun b => ∃ entity, b = .ok entity := by
  intro s p c hs hc
  obtain ⟨entity, s', hrun, -, hs', hcall⟩ := scans_scanFile hs hc
  refine ⟨.ok entity, s', ?_, ⟨entity, rfl⟩, hs', hcall⟩
  rw [worker, run_tryCatch, run_bind, hrun]
  rfl

/-- **Scanning files in order** makes the call of each file's verdict. -/
theorem run_mapM_scans {β : Type} {step : Path → Scan β} {good : β → Prop}
    (hstep : Scans files catalog settings visitors step good) :
    ∀ {paths : List Path} {s : Scanner} {calls : List Ledger.Call},
      (∀ p ∈ paths, ∃ c, verdict files catalog settings visitors false p = .ok c) →
      Steady catalog settings visitors s → s.ledger.Records project calls →
      ∃ bs s' more, s.run (paths.mapM step) = (.ok bs, s') ∧ (∀ b ∈ bs, good b) ∧
        Steady catalog settings visitors s' ∧ s'.ledger.Records project (calls ++ more) ∧
        paths.map (verdict files catalog settings visitors false) = more.map .ok
  | [], s, calls, _, hs, hl =>
    ⟨[], s, [], rfl, nofun, hs, (List.append_nil calls).symm ▸ hl, rfl⟩
  | p :: rest, s, calls, hpaths, hs, hl => by
    obtain ⟨c, hc⟩ := hpaths p List.mem_cons_self
    obtain ⟨b, s₁, hrun, hb, hs₁, hcall⟩ := hstep hs hc
    obtain ⟨bs, s₂, more, hrest, hbs, hs₂, hl₂, hmore⟩ :=
      run_mapM_scans hstep (fun q hq => hpaths q (List.mem_cons_of_mem p hq)) hs₁ (hl.call hcall)
    refine ⟨b :: bs, s₂, c :: more, ?_, ?_, hs₂, ?_, ?_⟩
    · rw [List.mapM_cons, run_bind, hrun]
      dsimp only
      rw [run_bind, hrest]
      rfl
    · exact List.forall_mem_cons.2 ⟨hb, hbs⟩
    · rwa [List.append_cons]
    · rw [List.map_cons, List.map_cons, hc, hmore]

/-- A ledger that records the verdicts on its paths is settled by them. -/
theorem settled_of_map_eq {paths : List Path} {l : Ledger} {calls : List Ledger.Call}
    (hl : l.Records project calls)
    (h : paths.map (verdict files catalog settings visitors false) = calls.map .ok) :
    Settled files catalog settings visitors project paths l := by
  refine ⟨calls, hl, fun c hc => ?_, fun p hp => ?_⟩
  · have hmem := List.mem_map_of_mem (f := Except.ok (ε := Fault)) hc
    rw [← h] at hmem
    exact List.mem_map.1 hmem
  · have hmem := List.mem_map_of_mem (f := verdict files catalog settings visitors false) hp
    rw [h] at hmem
    obtain ⟨c, hc, heq⟩ := List.mem_map.1 hmem
    exact ⟨c, hc, heq.symm⟩

/-- Results that are all there are given back. -/
theorem run_mapM_orFault {α : Type} (s : Scanner) : ∀ {results : List (Except Fault α)},
    (∀ r ∈ results, ∃ a, r = .ok a) → ∃ as, s.run (results.mapM Scan.orFault) = (.ok as, s)
  | [], _ => ⟨[], rfl⟩
  | r :: rest, h => by
    obtain ⟨⟨a, rfl⟩, hrest⟩ := List.forall_mem_cons.1 h
    obtain ⟨as, has⟩ := run_mapM_orFault s hrest
    refine ⟨a :: as, ?_⟩
    rw [List.mapM_cons, run_bind, run_orFault]
    dsimp only
    rw [run_bind, has]
    rfl

/-- Where workers are started, each file is scanned, and then the first fault ends the batch. -/
theorem run_scanByWorkers {s : Scanner} {paths : List Path}
    (hstarts : s.settings.startsWorkers = true) :
    s.run (scanByWorkers files catalog paths) = s.run (do
      let results ← paths.mapM (worker files catalog)
      results.mapM Scan.orFault) := by
  rw [scanByWorkers, run_bind, run_get]
  dsimp only
  rw [hstarts]
  rfl

/-- A batch that was scanned to its end needed no workers, or they were started. -/
theorem startsWorkers_of_run_scanFiles {s s' : Scanner} {paths : List Path}
    (h : s.run (scanFiles files catalog paths) = (.ok (), s'))
    (hparallel : s.settings.isParallel paths.length = true) :
    s.settings.startsWorkers = true := by
  by_contra hnone
  have hwait : s.run (scanByWorkers files catalog paths) = (.error (unending paths.length), s) := by
    rw [scanByWorkers, run_bind, run_get]
    dsimp only
    rw [Bool.eq_false_iff.2 hnone]
    rfl
  rw [scanFiles] at h
  by_cases hempty : paths.isEmpty = true
  · rw [if_pos hempty] at h
    cases h
  · rw [if_neg hempty, run_bind, run_orFault] at h
    cases hcheck : paths.forM (requireRegular files) with
    | error fault =>
      rw [hcheck] at h
      cases h
    | ok _ =>
      rw [hcheck] at h
      dsimp only at h
      rw [run_bind, run_get] at h
      dsimp only at h
      rw [if_pos hparallel, run_bind, hwait] at h
      cases h

/-- **A batch in which no file raises a fault** is scanned to its end, by workers or not, and is
settled then. -/
theorem run_scanFiles {s : Scanner} {paths : List Path}
    (hs : Steady catalog settings visitors s) (hledger : s.ledger = .ofProject project)
    (hne : paths ≠ []) (hregular : ∀ p ∈ paths, requireRegular files p = .ok ())
    (hstarts : s.settings.isParallel paths.length = true → s.settings.startsWorkers = true)
    (hpaths : ∀ p ∈ paths, ∃ c, verdict files catalog settings visitors false p = .ok c) :
    ∃ s', s.run (scanFiles files catalog paths) = (.ok (), s') ∧
      Settled files catalog settings visitors project paths s'.ledger := by
  have hl : s.ledger.Records project [] := hledger ▸ Ledger.records_ofProject project
  have hcheck : paths.forM (requireRegular files) = .ok () := forM_eq_ok_iff.2 hregular
  have hnonempty : ¬paths.isEmpty = true := by simpa using hne
  rw [scanFiles, if_neg hnonempty, hcheck, run_bind, run_orFault]
  dsimp only
  rw [run_bind, run_get]
  dsimp only
  split
  · rename_i hparallel
    obtain ⟨bs, s', calls, hrun, hbs, -, hl', hcalls⟩ := run_mapM_scans scans_worker hpaths hs hl
    obtain ⟨entities, hentities⟩ := run_mapM_orFault s' hbs
    rw [run_bind, run_scanByWorkers (hstarts hparallel), run_bind, hrun]
    dsimp only
    rw [hentities]
    exact ⟨_, rfl, settled_of_map_eq hl' hcalls⟩
  · obtain ⟨entities, s', calls, hrun, -, -, hl', hcalls⟩ :=
      run_mapM_scans scans_scanFile hpaths hs hl
    rw [run_bind, scanInTurn, hrun]
    exact ⟨_, rfl, settled_of_map_eq hl' hcalls⟩

end Scanner
end LineMetrics

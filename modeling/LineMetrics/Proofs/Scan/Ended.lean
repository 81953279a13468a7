import LineMetrics.Proofs.Scan.Completion

/-!
# Batches that have ended

A batch that has ended without a fault has scanned each of its files: every path was that of a
regular file and came to a verdict, in turn (`settled_of_scanBatch`) or by workers side by side
(`Pool.settled_of_finished`).  So its ledger is settled, and nothing has to be assumed about the
files.

A file that stands in a batch under several paths is scanned several times.  The totals hold what
any of these scans has given (`Settled.contains_iff_exists_single`).  If the paths ask for one
language the file comes to the same verdict each time, as far as its measures go, and then the
totals hold no metric that has outlived a file (`Settled.contains_iff`); the specification, section
4.1, has sums "for keys present in at least one file".
-/

namespace LineMetrics
namespace Scanner

variable {files : FileStore} {catalog : Catalog} {settings : Settings} {visitors : List Visitor}
  {project : Value}

/-- Two steps that have ended without a fault have each done so. -/
theorem run_bind_eq_ok {α β : Type} {x : Scan α} {f : α → Scan β} {s s' : Scanner} {b : β}
    (h : s.run (x >>= f) = (.ok b, s')) :
    ∃ a s₁, s.run x = (.ok a, s₁) ∧ s₁.run (f a) = (.ok b, s') := by
  rw [run_bind] at h
  rcases hx : s.run x with ⟨fault | a, s₁⟩
  · rw [hx] at h
    exact nomatch h
  · rw [hx] at h
    exact ⟨a, s₁, rfl, h⟩

/-- What a scan takes over from a computation leaves the scanner alone. -/
theorem run_orFault_eq_ok {α : Type} {r : Except Fault α} {s s' : Scanner} {a : α}
    (h : s.run (Scan.orFault r) = (.ok a, s')) : r = .ok a ∧ s = s' := by
  rw [run_orFault] at h
  exact Prod.mk.inj h

/-! ### Files that were scanned in turn -/

/-- Files that were scanned in turn to the end have verdicts. -/
theorem verdicts_of_run_scanInTurn : ∀ {paths : List Path} {s s' : Scanner}
    {entities : List (Option Entity)}, Steady catalog settings visitors s →
    s.run (scanInTurn files catalog paths) = (.ok entities, s') →
    ∀ p ∈ paths, ∃ c, verdict files catalog settings visitors false p = .ok c
  | [], _, _, _, _, _ => List.forall_mem_nil _
  | p :: rest, s, s', entities, hs, h => by
    rw [scanInTurn, List.mapM_cons] at h
    obtain ⟨entity, s₁, hfirst, h⟩ := run_bind_eq_ok h
    obtain ⟨more, s₂, hrest, -⟩ := run_bind_eq_ok h
    obtain ⟨s₁', hrun, hs₁, -⟩ := run_scanFile hs files p false
    obtain ⟨hresult, rfl⟩ := Prod.mk.inj (hrun.symm.trans hfirst)
    obtain ⟨c, hc, -⟩ := map_eq_ok_iff.1 hresult
    exact List.forall_mem_cons.2 ⟨⟨c, hc⟩, verdicts_of_run_scanInTurn hs₁ hrest⟩

/-- Results that were all given back were all there. -/
theorem isOk_of_run_mapM_orFault {α : Type} : ∀ {results : List (Except Fault α)} {s s' : Scanner}
    {as : List α}, s.run (results.mapM Scan.orFault) = (.ok as, s') → ∀ r ∈ results, ∃ a, r = .ok a
  | [], _, _, _, _ => List.forall_mem_nil _
  | r :: rest, s, s', as, h => by
    rw [List.mapM_cons] at h
    obtain ⟨a, s₁, hfirst, h⟩ := run_bind_eq_ok h
    obtain ⟨more, s₂, hrest, -⟩ := run_bind_eq_ok h
    exact List.forall_mem_cons.2 ⟨⟨a, (run_orFault_eq_ok hfirst).1⟩, isOk_of_run_mapM_orFault hrest⟩

/-- Files that workers have scanned to the end have verdicts. -/
theorem verdicts_of_run_scanByWorkers {paths : List Path} {s s' : Scanner}
    {entities : List (Option Entity)} (hs : Steady catalog settings visitors s)
    (hstarts : s.settings.startsWorkers = true)
    (h : s.run (scanByWorkers files catalog paths) = (.ok entities, s')) :
    ∀ p ∈ paths, ∃ c, verdict files catalog settings visitors false p = .ok c := by
  obtain ⟨results, s₁, hrun, -, hcomplete⟩ := run_mapM_worker files paths hs
  rw [run_scanByWorkers hstarts, run_bind, hrun] at h
  intro p hp
  obtain ⟨r, hr, project, heq⟩ := hcomplete p hp
  obtain ⟨entity, rfl⟩ := isOk_of_run_mapM_orFault h r hr
  obtain ⟨c, hc, -⟩ := map_eq_ok_iff.1 heq.symm
  exact ⟨c, hc⟩

/-- **A batch that ended without a fault** was not empty, its paths were those of regular files, and
they have verdicts. -/
theorem verdicts_of_run_scanFiles {paths : List Path} {s s' : Scanner}
    (hs : Steady catalog settings visitors s)
    (h : s.run (scanFiles files catalog paths) = (.ok (), s')) :
    paths ≠ [] ∧ (∀ p ∈ paths, requireRegular files p = .ok ()) ∧
      ∀ p ∈ paths, ∃ c, verdict files catalog settings visitors false p = .ok c := by
  have hne : paths ≠ [] := by
    rintro rfl
    exact nomatch h
  have hnonempty : ¬paths.isEmpty = true := by simpa using hne
  have hstaffs : s.settings.Staffs paths.length := startsWorkers_of_run_scanFiles h
  rw [scanFiles, if_neg hnonempty] at h
  obtain ⟨_, s₁, hcheck, h⟩ := run_bind_eq_ok h
  obtain ⟨hregular, rfl⟩ := run_orFault_eq_ok hcheck
  rw [run_bind, run_get] at h
  dsimp only at h
  refine ⟨hne, forM_eq_ok_iff.1 hregular, ?_⟩
  split at h
  · rename_i hparallel
    obtain ⟨entities, s₂, hrun, -⟩ := run_bind_eq_ok h
    exact verdicts_of_run_scanByWorkers hs (hstaffs hparallel) hrun
  · obtain ⟨entities, s₂, hrun, -⟩ := run_bind_eq_ok h
    exact verdicts_of_run_scanInTurn hs hrun

/-- **A batch that was scanned** is settled. -/
theorem settled_of_scanBatch {given : Option (List Visitor)} {paths : List Path} {done : Scanner}
    (h : scanBatch files catalog paths settings given = .ok done) :
    ∃ scanner, create settings given none = .ok scanner ∧
      (∀ p ∈ paths, requireRegular files p = .ok ()) ∧
      Settled files catalog settings scanner.visitors (settings.get .projectName) paths
        done.ledger := by
  rw [scanBatch] at h
  obtain ⟨scanner, hcreate, h⟩ := bind_eq_ok_iff.1 h
  obtain ⟨hs, hledger⟩ := create_spec catalog hcreate
  rcases hrun : scanner.run (scanFiles files catalog paths) with ⟨fault | _, s'⟩
  · rw [hrun] at h
    cases h
  · rw [hrun] at h
    obtain rfl := Except.ok.inj h
    obtain ⟨hne, hregular, hverdict⟩ := verdicts_of_run_scanFiles hs hrun
    have hstaffs := startsWorkers_of_run_scanFiles hrun
    obtain ⟨s₁, hrun₁, hsettled⟩ := run_scanFiles hs hledger hne hregular hstaffs hverdict
    obtain rfl : s₁ = s' := (Prod.mk.inj (hrun₁.symm.trans hrun)).2
    exact ⟨scanner, hcreate, hregular, hsettled⟩

/-! ### Files that workers have scanned side by side -/

section

variable (files catalog settings visitors)

/-- A task that is still to come to its file's verdict, or has come to it: one that is finished
without a fault had a verdict to come to. -/
def Task.Heeds : Task → Prop
  | .finished path (.ok _) => ∃ c, verdict files catalog settings visitors false path = .ok c
  | .finished _ (.error _) => True
  | task => task.pending? files catalog settings visitors =
      some (verdict files catalog settings visitors false task.path)

end

/-- **A step of a task**, also of one that ends with a fault, keeps to its file's verdict. -/
theorem Task.heeds_step {s : Scanner} (hs : Steady catalog settings visitors s) {task : Task}
    (h : task.Heeds files catalog settings visitors) :
    Steady catalog settings visitors (task.step files catalog s).2 ∧
      (task.step files catalog s).1.Heeds files catalog settings visitors := by
  cases task with
  | queued path =>
    simp only [step, run_bind, run_orFault]
    cases hkey : keyOf files path with
    | error fault => exact ⟨hs, trivial⟩
    | ok key =>
      obtain ⟨s', hrun, hs', -⟩ := run_parserFor hs path
      dsimp only
      rw [hrun]
      cases hcreate : (Parser.create catalog settings (languageFor settings path)).2 with
      | error fault => exact ⟨hs', trivial⟩
      | ok parser =>
        refine ⟨hs', ?_⟩
        simp only [Heeds, pending?, Task.path, verdict, hkey, hcreate, run_pure, bind, Except.bind]
  | equipped path key parser =>
    have hpending := Option.some.inj h
    simp only [step, hs.settings_eq, hs.visitors_eq]
    cases hfinding : examine settings visitors files catalog false parser path key with
    | error fault => exact ⟨hs, trivial⟩
    | ok finding =>
      rw [hfinding] at hpending
      exact ⟨hs, congrArg some hpending⟩
  | examined path key finding =>
    have hpending := Option.some.inj h
    obtain ⟨s', hrun, hs', -⟩ := run_deliver hs path key finding
    simp only [step, hrun]
    refine ⟨hs', ?_⟩
    cases hdelivery : finding.delivery key with
    | error fault => trivial
    | ok c => exact ⟨c, (hdelivery.symm.trans hpending).symm⟩
  | finished path result => exact ⟨hs, h⟩

namespace Pool

/-- **A pool whose tasks have all finished without a fault** has settled its batch, whatever the
schedule. -/
theorem settled_of_finished {s : Scanner} {paths : List Path}
    (hs : Steady catalog settings visitors s) (hledger : s.ledger = .ofProject project)
    {schedule : List Nat}
    (hdone : ∀ t ∈ ((start s paths).run files catalog schedule).tasks,
      ∃ entity, t = .finished t.path (.ok entity)) :
    Settled files catalog settings visitors project paths
      ((start s paths).run files catalog schedule).scanner.ledger := by
  have hstart : ∀ t ∈ (start s paths).tasks, t.Heeds files catalog settings visitors := by
    intro t ht
    obtain ⟨p, -, rfl⟩ := List.mem_map.1 ht
    rfl
  have hheeds := (run_keeps (P := Steady catalog settings visitors)
    (fun _ _ hs ht => Task.heeds_step hs ht) schedule hs hstart).2
  have hpaths := (map_path_run files catalog schedule (start s paths)).trans
    (map_path_start s paths)
  refine (settled_run hs hledger (fun p hp => ?_) ?_).1
  · rw [← hpaths] at hp
    obtain ⟨t, ht, rfl⟩ := List.mem_map.1 hp
    obtain ⟨entity, hfinished⟩ := hdone t ht
    have hverdict := hheeds t ht
    rw [hfinished] at hverdict
    exact hverdict
  · refine List.all_eq_true.2 fun t ht => ?_
    obtain ⟨entity, hfinished⟩ := hdone t ht
    rw [hfinished]
    rfl

end Pool

/-! ### Files that were scanned more than once -/

/-- **Scanning a file again**, under the same path or another that asks for the same language,
publishes the metrics that it has published before. -/
theorem publishes_congr {p q : Path} {entry : FileEntry} {c d : Ledger.Call}
    (hpath : files.stat p.toText = .ok entry) (hpath' : files.stat q.toText = .ok entry)
    (hlanguage : languageFor settings p = languageFor settings q)
    (hc : verdict files catalog settings visitors false p = .ok c)
    (hd : verdict files catalog settings visitors false q = .ok d) (hsame : c.path = d.path)
    (m : Metric) : c.publishes m = d.publishes m := by
  obtain ⟨hkey, hcases⟩ := verdict_cases hc
  obtain ⟨hkey', hcases'⟩ := verdict_cases hd
  have hrespelled : Respelled entry p q (verdict files catalog settings visitors true p)
      (verdict files catalog settings visitors true q) :=
    verdict_respelled hpath hpath' (hkey.trans (hsame ▸ hkey'.symm)) hlanguage
  rcases hcases with ⟨-, hstrict⟩ | ⟨f, reason, hrecord, hstrict, -⟩ <;>
    rcases hcases' with ⟨-, hstrict'⟩ | ⟨f', reason', hrecord', hstrict', -⟩ <;>
    rw [hstrict, hstrict'] at hrespelled
  · cases hrespelled
    rfl
  · cases hrespelled
  · cases hrespelled
  · rw [hrecord, hrecord']
    rfl

/-- What a file of a settled batch has, the totals have. -/
theorem Settled.contains_of_file {paths : List Path} {l : Ledger}
    (h : Settled files catalog settings visitors project paths l) {m : Metric}
    (hm : m.scope = .file) {e : Entity} (he : e ∈ l.search .file)
    (hcontains : e.measures.contains m = true) : l.totals.contains m = true := by
  obtain ⟨calls, hl, -⟩ := h
  obtain ⟨c, hc, hcm⟩ := (hl.reflects.exists_file_iff).1 ⟨e, he, hcontains⟩
  exact (hl.entered.totals hm).2 ⟨c, (Ledger.lastCalls_sublist calls).subset hc, hcm⟩

/-- **In a settled batch the totals hold what the files have**, although a file may have been
scanned several times, if all its paths ask for one language. -/
theorem Settled.contains_iff {texts : List String} {l : Ledger} (hfiles : files.Sound)
    (hregular : ∀ text ∈ texts, requireRegular files (.ofText text) = .ok ())
    (hlanguage : OneLanguage files settings texts)
    (h : Settled files catalog settings visitors project (texts.map .ofText) l) {m : Metric}
    (hm : m.scope = .file) :
    l.totals.contains m = true ↔ ∃ e ∈ l.search .file, e.measures.contains m = true := by
  refine ⟨fun htotal => ?_, fun ⟨e, he, hcontains⟩ => h.contains_of_file hm he hcontains⟩
  obtain ⟨calls, hl, hsound, -⟩ := h
  have hcall : ∀ c ∈ calls, ∃ text ∈ texts,
      verdict files catalog settings visitors false (.ofText text) = .ok c ∧
        keyOf files (.ofText text) = .ok c.path := by
    intro c hc
    obtain ⟨p, hp, hverdict⟩ := hsound c hc
    obtain ⟨text, htext, rfl⟩ := List.mem_map.1 hp
    exact ⟨text, htext, hverdict, (verdict_cases hverdict).1⟩
  rw [hl.reflects.exists_file_iff]
  obtain ⟨c, hc, hcm⟩ := (hl.entered.totals hm).1 htotal
  -- The last call about the path was made for a path of the same file.
  obtain ⟨d, hlast, hd, hsame⟩ := hl.exists_lastCall (hl.mem_listed_iff.2 ⟨c, hc, rfl⟩)
  obtain ⟨text, htext, hverdict, hkey⟩ := hcall c hc
  obtain ⟨other, hother, hverdict', hkey'⟩ := hcall d hd
  rw [hsame] at hkey'
  obtain ⟨entry, hstat, -⟩ := requireRegular_eq_ok_iff.1 (hregular text htext)
  obtain ⟨entry', hstat', -⟩ := requireRegular_eq_ok_iff.1 (hregular other hother)
  obtain rfl := FileStore.stat_congr hfiles (Path.isNormal_ofText _) (Path.isNormal_ofText _) hstat
    hstat' (resolve_congr hfiles (Path.isNormal_ofText _) (Path.isNormal_ofText _) hkey hkey')
  have hwords := hlanguage text htext c.path hkey other hother hkey'
  exact ⟨d, hlast, (publishes_congr hstat hstat' hwords.symm hverdict hverdict' hsame.symm m) ▸ hcm⟩

end Scanner
end LineMetrics

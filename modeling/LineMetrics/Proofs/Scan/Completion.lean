import LineMetrics.Proofs.Scan.Batch
import LineMetrics.Proofs.Scan.FileOutcome

/-!
# Batches that are scanned to their end

The specification, section 1, has a batch go on when a file cannot be read or parsed.  A batch that
is scanned by lexemes ends early for one reason only: the encoding refuses a file of acceptable
size.  Of the encodings that the library defines those refuse a file that leave the byte order to a
mark which the file lacks; others, which the host adds, may refuse what they like.  Any other batch
is scanned to its end and its ledger says of each file what became of it (`ReportsEach`), whatever
the files hold and whether they can be read: `scanBatch_completes`.  The first file that is refused
ends the batch with its fault, in turn or by workers: `Scanner.run_scanFiles_fault`.
-/

namespace LineMetrics

namespace Scanner

/-! ### Batches with a fault -/

section Faults

variable {files : FileStore} {catalog : Catalog} {settings : Settings} {visitors : List Visitor}
  {fault : Fault}

/-- A worker comes to its file's verdict. -/
theorem run_worker (files : FileStore) {s : Scanner} (hs : s.Steady catalog settings visitors)
    (p : Path) : ∃ project s', s.run (worker files catalog p) =
        (.ok ((verdict files catalog settings visitors false p).map
          (Ledger.Call.entity? project)), s') ∧ s'.Steady catalog settings visitors := by
  obtain ⟨s', hrun, hs', -⟩ := run_scanFile hs files p false
  refine ⟨s.ledger.project, s', ?_, hs'⟩
  rw [worker, run_tryCatch, run_bind, hrun]
  cases verdict files catalog settings visitors false p <;> rfl

/-- Every worker comes to its file's verdict, also behind one that comes to a fault. -/
theorem run_mapM_worker (files : FileStore) : ∀ (paths : List Path) {s : Scanner},
    s.Steady catalog settings visitors →
    ∃ results s', s.run (paths.mapM (worker files catalog)) = (.ok results, s') ∧
      (∀ r ∈ results, ∃ p ∈ paths, ∃ project,
        r = (verdict files catalog settings visitors false p).map (Ledger.Call.entity? project)) ∧
      ∀ p ∈ paths, ∃ r ∈ results, ∃ project,
        r = (verdict files catalog settings visitors false p).map (Ledger.Call.entity? project)
  | [], s, _ => ⟨[], s, rfl, nofun, nofun⟩
  | p :: rest, s, hs => by
    obtain ⟨project, s₁, hrun, hs₁⟩ := run_worker files hs p
    obtain ⟨results, s₂, hrest, hsound, hcomplete⟩ := run_mapM_worker files rest hs₁
    refine ⟨_ :: results, s₂, ?_, List.forall_mem_cons.2 ⟨?_, fun r hr => ?_⟩,
      List.forall_mem_cons.2 ⟨⟨_, List.mem_cons_self, project, rfl⟩, fun q hq => ?_⟩⟩
    · rw [List.mapM_cons, run_bind, hrun]
      dsimp only
      rw [run_bind, hrest]
      rfl
    · exact ⟨p, List.mem_cons_self, project, rfl⟩
    · obtain ⟨q, hq, hresult⟩ := hsound r hr
      exact ⟨q, List.mem_cons_of_mem p hq, hresult⟩
    · obtain ⟨r, hr, hresult⟩ := hcomplete q hq
      exact ⟨r, List.mem_cons_of_mem _ hr, hresult⟩

/-- Results of which some are one fault come to that fault. -/
theorem run_mapM_orFault_fault {α : Type} (s : Scanner) : ∀ {results : List (Except Fault α)},
    (∀ r ∈ results, (∃ a, r = .ok a) ∨ r = .error fault) → .error fault ∈ results →
    s.run (results.mapM Scan.orFault) = (.error fault, s)
  | r :: rest, h, hfault => by
    obtain ⟨hfirst, hrest⟩ := List.forall_mem_cons.1 h
    rw [List.mapM_cons, run_bind, run_orFault]
    rcases hfirst with ⟨a, rfl⟩ | rfl
    · have hlater : .error fault ∈ rest := (List.mem_cons.1 hfault).resolve_left nofun
      dsimp only
      rw [run_bind, run_mapM_orFault_fault s hrest hlater]
    · rfl

section Batch

variable {paths : List Path} {s : Scanner}
  (hpaths : ∀ p ∈ paths, (∃ c, verdict files catalog settings visitors false p = .ok c) ∨
    verdict files catalog settings visitors false p = .error fault)
  (hfault : ∃ p ∈ paths, verdict files catalog settings visitors false p = .error fault)

include hpaths hfault

/-- Files that are scanned in turn come to the fault of the first that has one. -/
theorem run_scanInTurn_fault (hs : s.Steady catalog settings visitors) :
    ∃ s', s.run (scanInTurn files catalog paths) = (.error fault, s') := by
  induction paths generalizing s with
  | nil =>
    obtain ⟨p, hp, -⟩ := hfault
    cases hp
  | cons p rest ih =>
    obtain ⟨hfirst, hrest⟩ := List.forall_mem_cons.1 hpaths
    obtain ⟨s₁, hrun, hs₁, -⟩ := run_scanFile hs files p false
    rw [scanInTurn, List.mapM_cons, run_bind, hrun]
    rcases hfirst with ⟨c, hc⟩ | hfirst
    · obtain ⟨q, hq, hverdict⟩ := hfault
      have hlater : q ∈ rest := by
        refine (List.mem_cons.1 hq).resolve_left fun heq => ?_
        rw [heq, hc] at hverdict
        cases hverdict
      obtain ⟨s₂, hlast⟩ := ih hrest ⟨q, hlater, hverdict⟩ hs₁
      rw [scanInTurn] at hlast
      rw [hc]
      refine ⟨s₂, ?_⟩
      dsimp only [Except.map]
      rw [run_bind, hlast]
    · rw [hfirst]
      exact ⟨s₁, rfl⟩

/-- Files that are scanned by workers come to the fault that some of them have. -/
theorem run_scanByWorkers_fault (hs : s.Steady catalog settings visitors)
    (hstarts : s.settings.startsWorkers = true) :
    ∃ s', s.run (scanByWorkers files catalog paths) = (.error fault, s') := by
  obtain ⟨results, s', hrun, hsound, hcomplete⟩ :=
    run_mapM_worker files paths hs
  refine ⟨s', ?_⟩
  rw [run_scanByWorkers hstarts, run_bind, hrun]
  refine run_mapM_orFault_fault s' (fun r hr => ?_) ?_
  · obtain ⟨p, hp, project, rfl⟩ := hsound r hr
    rcases hpaths p hp with ⟨c, hc⟩ | hverdict
    · exact .inl ⟨_, by rw [hc]; rfl⟩
    · exact .inr (by rw [hverdict]; rfl)
  · obtain ⟨p, hp, hverdict⟩ := hfault
    obtain ⟨r, hr, project, rfl⟩ := hcomplete p hp
    rw [hverdict] at hr
    exact hr

/-- **A batch in which files raise one fault** ends with that fault, by workers or not. -/
theorem run_scanFiles_fault (hs : s.Steady catalog settings visitors)
    (hstaffs : s.settings.Staffs paths.length)
    (hregular : ∀ p ∈ paths, requireRegular files p = .ok ()) :
    ∃ s', s.run (scanFiles files catalog paths) = (.error fault, s') := by
  have hnonempty : ¬paths.isEmpty = true := by
    obtain ⟨p, hp, -⟩ := hfault
    simpa using List.ne_nil_of_mem hp
  have hcheck : paths.forM (requireRegular files) = .ok () := forM_eq_ok_iff.2 hregular
  rw [scanFiles, if_neg hnonempty, hcheck, run_bind, run_orFault]
  dsimp only
  rw [run_bind, run_get]
  dsimp only
  split
  · rename_i hparallel
    obtain ⟨s', hrun⟩ := run_scanByWorkers_fault hpaths hfault hs (hstaffs hparallel)
    exact ⟨s', by rw [run_bind, hrun]⟩
  · obtain ⟨s', hrun⟩ := run_scanInTurn_fault hpaths hfault hs
    exact ⟨s', by rw [run_bind, hrun]⟩

end Batch

end Faults

end Scanner

/-- A batch in which files raise one fault ends with that fault, with any number of workers that are
started. -/
theorem scanBatch_fault {files : FileStore} {catalog : Catalog} {settings : Settings}
    {given : Option (List Visitor)} {texts : List String} {scanner : Scanner} {fault : Fault}
    (hcreate : Scanner.create settings given none = .ok scanner)
    (hregular : ∀ text ∈ texts, Scanner.requireRegular files (.ofText text) = .ok ())
    (hverdict : ∀ text ∈ texts,
      (∃ c, Scanner.verdict files catalog settings scanner.visitors false (.ofText text) = .ok c) ∨
      Scanner.verdict files catalog settings scanner.visitors false (.ofText text) = .error fault)
    (hfault : ∃ text ∈ texts,
      Scanner.verdict files catalog settings scanner.visitors false (.ofText text) = .error fault)
    {workers : Value} (hstaffs : (settings.withWorkers workers).Staffs texts.length) :
    scanBatch files catalog (texts.map .ofText) (settings.withWorkers workers) given =
      .error fault := by
  have hnew := Scanner.create_withWorkers settings given workers
  rw [hcreate] at hnew
  obtain ⟨hs, -⟩ := Scanner.create_spec catalog hnew
  obtain ⟨text, htext, hbad⟩ := hfault
  -- The number of workers has no influence on a verdict.
  have hpaths : ∀ p ∈ texts.map Path.ofText,
      (∃ c, Scanner.verdict files catalog (settings.withWorkers workers) scanner.visitors false p =
        .ok c) ∨
      Scanner.verdict files catalog (settings.withWorkers workers) scanner.visitors false p =
        .error fault := List.forall_mem_map.2 hverdict
  obtain ⟨s', hrun⟩ := Scanner.run_scanFiles_fault hpaths
    ⟨_, List.mem_map_of_mem htext, hbad⟩ hs (by rw [List.length_map]; exact hstaffs)
    (List.forall_mem_map.2 hregular)
  rw [scanBatch, hnew]
  simp only [Except.map, bind, Except.bind, hrun]
  rfl

/-! ### What a ledger says of each file -/

/-- What a ledger says of the file under a key. -/
def Ledger.Tells (l : Ledger) (project : Value) (key : String) : FileOutcome → Prop
  | .measured sheet =>
    l.find? .file key = some ⟨.file key, some (.project project), sheet.measures, sheet.annotations⟩
  | .failed reason => ∃ cause, l.failures.filter (fun r => r.path = key) = [⟨key, reason, cause⟩]
  | .refused => False

/-- What becomes of the file that a path leads to, with the key that the ledger knows it by. -/
structure Fate (files : FileStore) (settings : Settings)
    (decode : List UInt8 → Except Fault (List Char)) (limit : Int) (text key : String)
    (outcome : FileOutcome) : Prop where
  key_eq : Scanner.keyOf files (.ofText text) = .ok key
  becomes : ∃ language entry,
    Parser.languageOf (Scanner.languageFor settings (.ofText text)) = .ok language ∧
    files.stat (Path.ofText text).toText = .ok entry ∧
    Scanner.Becomes settings decode limit language (.ofText text) key entry outcome

/-- A ledger that tells of each file of a batch what became of it. -/
structure ReportsEach (files : FileStore) (settings : Settings)
    (decode : List UInt8 → Except Fault (List Char)) (limit : Int) (texts : List String)
    (l : Ledger) : Prop where
  /-- No path is listed twice, nor both as measured and as failed. -/
  once : l.listed.Nodup
  /-- The paths listed are the resolved ones of the batch. -/
  covers : ∀ key, key ∈ l.listed ↔ ∃ text ∈ texts, Scanner.keyOf files (.ofText text) = .ok key
  /-- What is there under a resolved path is what becomes of the file, under a path of the batch. -/
  tells : ∀ key ∈ l.listed, ∃ text ∈ texts, ∃ outcome,
    Fate files settings decode limit text key outcome ∧
      l.Tells (settings.get .projectName) key outcome

/-- The path of a file of acceptable size that the encoding refuses. -/
def Refuses (files : FileStore) (decode : List UInt8 → Except Fault (List Char)) (limit : Int)
    (text : String) : Prop :=
  ∃ bytes, files.stat (Path.ofText text).toText = .ok (.file bytes) ∧ bytes.size ≤ limit ∧
    decode bytes.toList = .error .undecodable

section Completion

variable {files : FileStore} {catalog : Catalog} {settings : Settings}
  {decode : List UInt8 → Except Fault (List Char)} {limit : Int} {texts : List String}
  {text key : String} {entry : FileEntry} {scanner : Scanner}

/-- Every path of a file has a fate. -/
theorem exists_fate (hs : files.Sound)
    (hsettings : settings.ScansByLexer catalog files.host decode limit)
    (hstat : files.stat (Path.ofText text).toText = .ok entry)
    (hmax : entry.size ≤ FileStore.maxBytes) :
    ∃ key outcome, Fate files settings decode limit text key outcome := by
  have hnormal := Path.isNormal_ofText text
  obtain ⟨names, hresolve, -⟩ := FileStore.resolve_of_stat hs hnormal hstat
  obtain ⟨language, hlanguage⟩ := Scanner.exists_language hsettings (.ofText text)
  obtain ⟨outcome, houtcome⟩ :=
    Scanner.exists_becomes hsettings language (.ofText text) _ hmax
  exact ⟨_, outcome, Scanner.keyOf_eq_ok_iff.2
    ⟨FileStore.hasNul_of_stat hnormal hstat, _, hresolve, rfl⟩, language, entry, hlanguage, hstat,
      houtcome⟩

/-- A path whose fate is refusal is one that the encoding refuses. -/
theorem Fate.refuses (h : Fate files settings decode limit text key .refused) :
    Refuses files decode limit text := by
  obtain ⟨language, entry, -, hstat, hbecomes⟩ := h.becomes
  cases hbecomes with
  | @refused bytes hsize hbytes hrefused =>
    cases entry with
    | file content =>
      obtain rfl := Except.ok.inj hbytes
      exact ⟨content, hstat, hsize, hrefused⟩
    | directory => cases hbytes
    | sealed => cases hbytes

/-- A file that is refused raises its fault. -/
theorem Refuses.verdict_eq (h : Refuses files decode limit text) (hs : files.Sound)
    (hsettings : settings.ScansByLexer catalog files.host decode limit)
    (hmax : ∀ entry, files.stat (Path.ofText text).toText = .ok entry →
      entry.size ≤ FileStore.maxBytes) (visitors : List Visitor) :
    Scanner.verdict files catalog settings visitors false (.ofText text) =
      .error .undecodable := by
  obtain ⟨bytes, hstat, hsize, hrefused⟩ := h
  obtain ⟨key, outcome, hkey, language, entry, hlanguage, -⟩ :=
    exists_fate hs hsettings hstat (hmax _ hstat)
  exact Scanner.verdict_of_refused hsettings hstat hkey hlanguage (.refused hsize rfl hrefused)
    false

/-- **What a batch enters for a file that is not refused** is its fate. -/
theorem Fate.exists_call {outcome : FileOutcome}
    (h : Fate files settings decode limit text key outcome)
    (hsettings : settings.ScansByLexer catalog files.host decode limit)
    (hcreate : Scanner.create settings none none = .ok scanner)
    (hmax : ∀ entry, files.stat (Path.ofText text).toText = .ok entry →
      entry.size ≤ FileStore.maxBytes) (hread : ¬Refuses files decode limit text) :
    ∃ c, Scanner.verdict files catalog settings scanner.visitors false (.ofText text) = .ok c ∧
      ∀ (l : Ledger) calls, l.Records (settings.get .projectName) calls →
        c ∈ Ledger.lastCalls calls → l.Tells (settings.get .projectName) key outcome := by
  have hvisitors := (Scanner.created_of_create hcreate).visitors_eq
  obtain ⟨language, entry, hlanguage, hstat, houtcome⟩ := h.becomes
  cases outcome with
  | measured sheet =>
    refine ⟨_, Scanner.verdict_of_measured hsettings hstat h.key_eq hlanguage hvisitors
      (hmax entry hstat) houtcome false, fun l calls hl hlast => ?_⟩
    exact hl.find?_eq hlast rfl
  | failed reason =>
    obtain ⟨f, -, -, -, hverdict⟩ := Scanner.verdict_of_failed hsettings hstat h.key_eq hlanguage
      scanner.visitors houtcome
    exact ⟨_, hverdict, fun l calls hl hlast => ⟨f, hl.failures_at hlast rfl⟩⟩
  | refused => exact absurd h.refuses hread

/-- **A settled batch** in which nothing is refused tells what became of each file. -/
theorem Scanner.Settled.reportsEach {l : Ledger} (hs : files.Sound)
    (hsettings : settings.ScansByLexer catalog files.host decode limit)
    (hcreate : Scanner.create settings none none = .ok scanner)
    (hfiles : ∀ text ∈ texts, ∃ entry, files.stat (Path.ofText text).toText = .ok entry ∧
      entry.isRegular = true ∧ entry.size ≤ FileStore.maxBytes)
    (hread : ∀ text ∈ texts, ¬Refuses files decode limit text)
    (h : Scanner.Settled files catalog settings scanner.visitors (settings.get .projectName)
      (texts.map .ofText) l) :
    ReportsEach files settings decode limit texts l := by
  have hagrees := h.agrees hs hcreate fun text htext => by
    obtain ⟨entry, hstat, hregular, -⟩ := hfiles text htext
    exact Scanner.requireRegular_eq_ok_iff.2 ⟨entry, hstat, hregular⟩
  obtain ⟨calls, hl, hsound, -⟩ := h
  refine ⟨hagrees.once, hagrees.covers, fun key hkey => ?_⟩
  obtain ⟨c, hlast, hmem, rfl⟩ := hl.exists_lastCall hkey
  obtain ⟨p, hp, hverdict⟩ := hsound c hmem
  obtain ⟨text, htext, rfl⟩ := List.mem_map.1 hp
  obtain ⟨entry, hstat, -, hmax⟩ := hfiles text htext
  have hmax : ∀ entry', files.stat (Path.ofText text).toText = .ok entry' →
      entry'.size ≤ FileStore.maxBytes :=
    fun _ hstat' => Except.ok.inj (hstat.symm.trans hstat') ▸ hmax
  obtain ⟨key, outcome, hfate⟩ := exists_fate hs hsettings hstat (hmax entry hstat)
  obtain ⟨d, hd, htells⟩ := hfate.exists_call hsettings hcreate hmax (hread text htext)
  obtain rfl := Except.ok.inj (hverdict.symm.trans hd)
  obtain rfl := Except.ok.inj
    (hfate.key_eq.symm.trans (Scanner.verdict_cases hverdict).1)
  exact ⟨text, htext, outcome, hfate, htells l calls hl hlast⟩

/-- An encoding of `Encoding` refuses files that lack the mark that has to state their byte order,
and no others. -/
theorem refuses_iff_lacksMark {encoding : Encoding}
    (hsettings : settings.ScansByLexer catalog files.host decode limit)
    (hencoding : Scanner.encodingName settings >>= Encoding.named = .ok encoding) (text : String) :
    Refuses files decode limit text ↔ ∃ bytes,
      files.stat (Path.ofText text).toText = .ok (.file bytes) ∧ bytes.size ≤ limit ∧
        encoding.LacksMark bytes.toList := by
  obtain ⟨name, hname, hnamed⟩ := bind_eq_ok_iff.1 hencoding
  obtain ⟨name', hname', hdecoder⟩ := bind_eq_ok_iff.1 hsettings.encoding
  obtain rfl := Except.ok.inj (hname.symm.trans hname')
  rw [Host.decoder, hnamed] at hdecoder
  obtain rfl := Except.ok.inj hdecoder
  refine exists_congr fun bytes => and_congr_right fun _ => and_congr_right fun _ => ?_
  rcases encoding.decode_cases bytes.toList with ⟨hlacks, hrefused⟩ | ⟨hmarked, s, htext, -⟩
  · exact iff_of_true hrefused hlacks
  · refine iff_of_false (fun hrefused => ?_) hmarked
    cases htext.symm.trans hrefused

/-- **No file can end a batch, except by being refused by its encoding.**  Take settings that scan
by lexemes, with the default visitors, and a batch of regular files, whatever they hold and whether
they can be read or not.  If the encoding refuses none of them, the batch is scanned to its end,
with any number of workers that are started, in turn or by a pool under any schedule that lets each
task take its steps; and its ledger lists each file once, as measured with the sheet of its text, or
as failed because it is too large, cannot be opened or read, or has an opener that is never closed.
If the encoding refuses a file, the batch ends with that fault.  Of the encodings that the library
defines, those refuse a file that leave its byte order to a mark which it lacks. -/
theorem scanBatch_completes (hs : files.Sound)
    (hsettings : settings.ScansByLexer catalog files.host decode limit) (hne : texts ≠ [])
    (hfiles : ∀ text ∈ texts, ∃ entry, files.stat (Path.ofText text).toText = .ok entry ∧
      entry.isRegular = true ∧ entry.size ≤ FileStore.maxBytes) :
    ((∀ text ∈ texts, ¬Refuses files decode limit text) →
      (∀ workers, (settings.withWorkers workers).Staffs texts.length →
        ∃ done, scanBatch files catalog (texts.map .ofText) (settings.withWorkers workers) none =
          .ok done) ∧
      (∀ workers scanner schedule,
        Scanner.create (settings.withWorkers workers) none none = .ok scanner →
        (∀ i < texts.length, 3 ≤ schedule.count i) →
        ∀ t ∈ ((Scanner.Pool.start scanner (texts.map .ofText)).run files catalog schedule).tasks,
          ∃ entity, t = .finished t.path (.ok entity)) ∧
      ∀ l, BatchOutcome files catalog settings none texts l →
        ReportsEach files settings decode limit texts l) ∧
    ((∃ text ∈ texts, Refuses files decode limit text) →
      ∀ workers, (settings.withWorkers workers).Staffs texts.length →
        scanBatch files catalog (texts.map .ofText) (settings.withWorkers workers) none =
          .error .undecodable) ∧
    ∀ encoding, Scanner.encodingName settings >>= Encoding.named = .ok encoding →
      ∀ text, Refuses files decode limit text ↔ ∃ bytes,
        files.stat (Path.ofText text).toText = .ok (.file bytes) ∧ bytes.size ≤ limit ∧
          encoding.LacksMark bytes.toList := by
  obtain ⟨scanner, hcreate⟩ := Scanner.exists_create hsettings
  have hregular : ∀ text ∈ texts, Scanner.requireRegular files (.ofText text) = .ok () := by
    intro text htext
    obtain ⟨entry, hstat, hregular, -⟩ := hfiles text htext
    exact Scanner.requireRegular_eq_ok_iff.2 ⟨entry, hstat, hregular⟩
  have hmax : ∀ text ∈ texts, ∀ entry, files.stat (Path.ofText text).toText = .ok entry →
      entry.size ≤ FileStore.maxBytes := by
    intro text htext entry hstat
    obtain ⟨entry', hstat', -, hmax⟩ := hfiles text htext
    exact Except.ok.inj (hstat'.symm.trans hstat) ▸ hmax
  -- A file raises no fault, or that of its encoding.
  have hverdict : ∀ text ∈ texts, ¬Refuses files decode limit text → ∃ c,
      Scanner.verdict files catalog settings scanner.visitors false (.ofText text) = .ok c := by
    intro text htext hread
    obtain ⟨entry, hstat, -, hsize⟩ := hfiles text htext
    obtain ⟨key, outcome, hfate⟩ := exists_fate hs hsettings hstat hsize
    obtain ⟨c, hc, -⟩ := hfate.exists_call hsettings hcreate (hmax text htext) hread
    exact ⟨c, hc⟩
  refine ⟨fun hread => ?_, fun ⟨refused, hmem, hrefused⟩ workers hstaffs => ?_,
    fun encoding hencoding text => refuses_iff_lacksMark hsettings hencoding text⟩
  · have hall : ∀ p ∈ texts.map Path.ofText, ∃ c,
        Scanner.verdict files catalog settings scanner.visitors false p = .ok c :=
      List.forall_mem_map.2 fun text htext => hverdict text htext (hread text htext)
    refine ⟨fun workers hstaffs => ?_, fun workers scanner' schedule hnew hsteps => ?_,
      fun l hl => ?_⟩
    · obtain ⟨done, hdone, -⟩ := scanBatch_settles hcreate hall hne hregular hstaffs
      exact ⟨done, hdone⟩
    · rw [← List.length_map (f := Path.ofText)] at hsteps
      have hdone := Scanner.Pool.isDone_run files catalog scanner' hsteps
      exact (pool_settles hcreate hall hnew hdone).2
    · exact (hl.settled hcreate hall hne hregular).reportsEach hs hsettings hcreate hfiles hread
  · refine scanBatch_fault hcreate hregular (fun text htext => ?_)
      ⟨refused, hmem, hrefused.verdict_eq hs hsettings (hmax refused hmem) scanner.visitors⟩ hstaffs
    by_cases hread : Refuses files decode limit text
    · exact .inr (hread.verdict_eq hs hsettings (hmax text htext) scanner.visitors)
    · exact .inl (hverdict text htext hread)

end Completion

/-- A store with a file of UTF-16 that states no byte order and one that does, and a file that
cannot be read. -/
def wideStore : FileStore where
  workingDirectory := ["ROOT"]
  entries := .ofList [(["ROOT", "A.m"], .file ⟨#[0x61, 0x00]⟩),
    (["ROOT", "B.m"], .file ⟨#[0xFF, 0xFE, 0x61, 0x00]⟩),
    (["ROOT", "C.m"], .sealed 2 ⟨5, "Input/output error", false⟩)]

/-- Settings that ask for UTF-16 and for no grammar. -/
def wideSettings : Settings :=
  ⟨fun f => match f with
    | .backend => .text "lexer"
    | .encoding => .text "utf-16"
    | .maxFileSize => .int 1
    | f => f.default⟩

/-- A store without links is sound. -/
theorem sound_wideStore : wideStore.Sound :=
  FileStore.sound_of_singleton rfl ⟨⟨by decide, by decide, by decide⟩, by decide, by cbv⟩ (by cbv)
    (by cbv) (by cbv) (List.forall_mem_nil _)

/-- The wide settings name the lexer, a language it reads and UTF-16. -/
theorem scansByLexer_wideSettings :
    wideSettings.ScansByLexer .empty wideStore.host (Encoding.utf16 none).decode 1048576 where
  backend := .inl rfl
  language := ⟨.fallback, rfl⟩
  encoding := by
    have hname : Scanner.encodingName wideSettings = .ok "utf-16" := by cbv
    have hnamed : Encoding.named "utf-16" = .ok (.utf16 none) := by cbv
    exact bind_eq_ok_iff.2 ⟨"utf-16", hname, by rw [Host.decoder, hnamed]⟩
  limit := rfl
  marker := by decide +kernel
  project := rfl

/-- The file with a mark and the one that cannot be read are scanned to the end of their batch, and
the file without a mark ends its own. -/
theorem scanBatch_completes_wide :
    wideStore.Sound ∧
      wideSettings.ScansByLexer .empty wideStore.host (Encoding.utf16 none).decode 1048576 ∧
      ["A.m", "B.m", "C.m"] ≠ [] ∧
      (∀ text ∈ ["A.m", "B.m", "C.m"], ∃ entry,
        wideStore.stat (Path.ofText text).toText = .ok entry ∧ entry.isRegular = true ∧
          entry.size ≤ FileStore.maxBytes) ∧
      Refuses wideStore (Encoding.utf16 none).decode 1048576 "A.m" ∧
      (∀ text ∈ ["B.m", "C.m"], ¬Refuses wideStore (Encoding.utf16 none).decode 1048576 text) ∧
      scanBatch wideStore .empty (["A.m", "B.m", "C.m"].map .ofText)
        (wideSettings.withWorkers (.int 2)) none = .error .undecodable ∧
      ∃ done, scanBatch wideStore .empty (["B.m", "C.m"].map .ofText)
          (wideSettings.withWorkers (.int 2)) none = .ok done ∧
        ReportsEach wideStore wideSettings (Encoding.utf16 none).decode 1048576 ["B.m", "C.m"]
          done.ledger := by
  have hA : wideStore.stat (Path.ofText "A.m").toText = .ok (.file ⟨#[0x61, 0x00]⟩) := by cbv
  have hB : wideStore.stat (Path.ofText "B.m").toText =
      .ok (.file ⟨#[0xFF, 0xFE, 0x61, 0x00]⟩) := by cbv
  have hC : wideStore.stat (Path.ofText "C.m").toText =
      .ok (.sealed 2 ⟨5, "Input/output error", false⟩) := by cbv
  have hfiles : ∀ text ∈ ["A.m", "B.m", "C.m"], ∃ entry,
      wideStore.stat (Path.ofText text).toText = .ok entry ∧ entry.isRegular = true ∧
        entry.size ≤ FileStore.maxBytes := by
    simp only [List.forall_mem_cons]
    exact ⟨⟨_, hA, rfl, by decide⟩, ⟨_, hB, rfl, by decide⟩, ⟨_, hC, rfl, by decide⟩,
      List.forall_mem_nil _⟩
  have hrefused : Refuses wideStore (Encoding.utf16 none).decode 1048576 "A.m" :=
    ⟨_, hA, by decide, by cbv⟩
  have hread : ∀ text ∈ ["B.m", "C.m"],
      ¬Refuses wideStore (Encoding.utf16 none).decode 1048576 text := by
    have hdecoded : (Encoding.utf16 none).decode
        (ByteArray.mk #[0xFF, 0xFE, 0x61, 0x00]).toList = .ok ['a'] := by cbv
    simp only [List.forall_mem_cons]
    refine ⟨?_, ?_, List.forall_mem_nil _⟩
    · rintro ⟨bytes, hstat, -, hbad⟩
      obtain rfl := FileEntry.file.inj (Except.ok.inj (hB.symm.trans hstat))
      cases hdecoded.symm.trans hbad
    · rintro ⟨bytes, hstat, -⟩
      cases hC.symm.trans hstat
  obtain ⟨-, hends, -⟩ := scanBatch_completes sound_wideStore scansByLexer_wideSettings
    (List.cons_ne_nil "A.m" ["B.m", "C.m"]) hfiles
  obtain ⟨hcompletes, -⟩ := scanBatch_completes sound_wideStore scansByLexer_wideSettings
    (List.cons_ne_nil "B.m" ["C.m"]) fun text htext => hfiles text (List.mem_cons_of_mem _ htext)
  obtain ⟨hdone, -, hreports⟩ := hcompletes hread
  obtain ⟨done, h⟩ := hdone (.int 2) fun _ => rfl
  exact ⟨sound_wideStore, scansByLexer_wideSettings, List.cons_ne_nil _ _, hfiles, hrefused, hread,
    hends ⟨"A.m", List.mem_cons_self, hrefused⟩ (.int 2) fun _ => rfl, done, h,
    hreports _ (.inTurn h)⟩

set_option maxRecDepth 4000 in
/-- **A file can end a batch.**  Bytes that state no byte order are a fault that no failure accounts
for, and the other files of the batch are not measured either. -/
theorem scanBatch_ends_without_mark :
    wideSettings.ScansByLexer .empty wideStore.host (Encoding.utf16 none).decode 1048576 ∧
      (["A.m", "B.m"].map Path.ofText).forM (Scanner.requireRegular wideStore) = .ok () ∧
      scanBatch wideStore .empty (["A.m", "B.m"].map .ofText) wideSettings none =
        .error .undecodable :=
  ⟨scansByLexer_wideSettings, by cbv, by cbv⟩

end LineMetrics

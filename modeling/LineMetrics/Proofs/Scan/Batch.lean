import LineMetrics.Proofs.Scan.Pool
import LineMetrics.Proofs.Scan.Single

/-!
# A batch is its files' single scans

A batch that raises no fault is scanned to its end, whether its files are scanned in turn or by
workers side by side, and in whatever order the workers take their steps (`BatchOutcome`).  The
ledger lists each resolved path once, with what the scan of one of its paths in the batch, by
itself, comes to (`AgreesWithSingles`); the specification, section 4.1, has results that "are
identical to a sequential run".

Of several paths of one file the ledger keeps what came last.  That makes a difference only where
they ask for different languages, as a link `link.c` to a file `a.m` does, or where the operating
system does not let the file be opened, since its words hold the path.  Where the languages agree,
the ledger says what the scan under any spelling says, the resolved path included; paths that are no
links agree (`sameLanguage_of_not_isLink`).  If the batch is `Uniform`, all ledgers that it may come
to have the same findings, so neither the number of workers nor the schedule matters.
-/

namespace LineMetrics

/-- The settings with another number of workers. -/
def Settings.withWorkers (settings : Settings) (workers : Value) : Settings :=
  ⟨fun f => if f = .workers then workers else settings.get f⟩

/-- A batch of so many files finds somebody to scan it: it needs no workers, or they are started. -/
def Settings.Staffs (settings : Settings) (files : Nat) : Prop :=
  settings.isParallel files = true → settings.startsWorkers = true

/-- The paths that a ledger lists, as files or as failures. -/
def Ledger.listed (l : Ledger) : List String := l.files.keys ++ l.failures.map FailureRecord.path

/-- What a ledger has under a key is what a single scan has come to. -/
def Ledger.Holds (l : Ledger) (key : String) : Except Fault Entity → Prop
  | .ok entity => l.find? .file key = some entity
  | .error (.failure f) => f.isOfFile = true ∧
    ∃ record, l.failures.filter (fun r => r.path = key) = [record] ∧
      f.reason? = some (.text record.reason)
  | .error _ => False

section Outcomes

variable (files : FileStore) (catalog : Catalog) (settings : Settings)
  (given : Option (List Visitor)) (texts : List String)

/-- The ledgers that a batch may come to, with any number of workers: the one of `scanBatch`, which
takes one file after the other, and those of a pool that starts its workers, whatever their
schedule. -/
inductive BatchOutcome : Ledger → Prop
  | inTurn {workers : Value} {done : Scanner}
      (h : scanBatch files catalog (texts.map .ofText) (settings.withWorkers workers) given =
        .ok done) : BatchOutcome done.ledger
  | sideBySide {workers : Value} {scanner : Scanner} {schedule : List Nat}
      (hcreate : Scanner.create (settings.withWorkers workers) given none = .ok scanner)
      (hstarts : (settings.withWorkers workers).startsWorkers = true)
      (hdone : ((Scanner.Pool.start scanner (texts.map .ofText)).run files catalog
        schedule).isDone = true) :
      BatchOutcome ((Scanner.Pool.start scanner (texts.map .ofText)).run files catalog
        schedule).scanner.ledger

/-- All paths of a file in a batch ask for the language that another path of it asks for. -/
def SameLanguage (text key : String) : Prop :=
  ∀ other ∈ texts, Scanner.keyOf files (.ofText other) = .ok key →
    Scanner.languageFor settings (.ofText other) = Scanner.languageFor settings (.ofText text)

/-- In a batch all paths of each file ask for one language. -/
def OneLanguage : Prop :=
  ∀ text ∈ texts, ∀ key, Scanner.keyOf files (.ofText text) = .ok key →
    SameLanguage files settings texts text key

/-- A batch in which all paths of a file ask for one language, and a file that the operating system
does not let be opened has one path. -/
structure Uniform : Prop where
  language : OneLanguage files settings texts
  spelling : ∀ text ∈ texts, ∀ other ∈ texts,
    Scanner.keyOf files (.ofText text) = Scanner.keyOf files (.ofText other) →
      (∃ entry, files.stat (Path.ofText text).toText = .ok entry ∧ entry.opened = .ok ()) ∨
        (Path.ofText text).toText = (Path.ofText other).toText

/-- A ledger that says of each file of a batch what scanning the file by itself says. -/
structure AgreesWithSingles (l : Ledger) : Prop where
  /-- No path is listed twice, nor in both places. -/
  once : l.listed.Nodup
  /-- The paths listed are the resolved ones of the batch. -/
  covers : ∀ key, key ∈ l.listed ↔ ∃ text ∈ texts, Scanner.keyOf files (.ofText text) = .ok key
  /-- A resolved path is a spelling of itself. -/
  spelled : ∀ key ∈ l.listed, Scanner.keyOf files (.ofText key) = .ok key
  /-- What is listed is what the single scan of one of the batch's paths of the file comes to. -/
  holds : ∀ key ∈ l.listed, ∃ text ∈ texts, Scanner.keyOf files (.ofText text) = .ok key ∧
    l.Holds key (scanSingle files catalog (.ofText text) settings given)
  /-- A file that can be scanned by itself, under any spelling of that language, is there with its
  entity. -/
  measured : ∀ {text key entity}, Scanner.keyOf files (.ofText text) = .ok key → key ∈ l.listed →
    SameLanguage files settings texts text key →
    scanSingle files catalog (.ofText text) settings given = .ok entity →
    l.find? .file key = some entity
  /-- A file that cannot be read or parsed, under any spelling of that language, is there as one
  failure with the reason; the words of the operating system about a file that cannot be opened hold
  the path as it is spelled in the batch. -/
  failed : ∀ {text key f}, Scanner.keyOf files (.ofText text) = .ok key → key ∈ l.listed →
    SameLanguage files settings texts text key →
    scanSingle files catalog (.ofText text) settings given = .error (.failure f) →
    f.isOfFile = true →
    ∃ record reason, l.failures.filter (fun r => r.path = key) = [record] ∧
      f.reason? = some (.text reason) ∧
      ∃ other ∈ texts, Scanner.keyOf files (.ofText other) = .ok key ∧
        ∃ entry, files.stat (Path.ofText other).toText = .ok entry ∧
          Scanner.SameReason entry (.ofText other) (.ofText text) record.reason reason
  /-- Each path of the batch, scanned by itself, comes to one or the other. -/
  decided : ∀ text ∈ texts,
    (∃ entity, scanSingle files catalog (.ofText text) settings given = .ok entity) ∨
    ∃ f, scanSingle files catalog (.ofText text) settings given = .error (.failure f) ∧
      f.isOfFile = true
  /-- The number of files is the number of measured paths. -/
  files_total : l.projectEntity.measures.total .files = (l.search .file).length
  /-- Every other total is the sum over the measured paths. -/
  totals : ∀ m, m.scope = .file → l.projectEntity.measures.total m =
    ((l.search .file).map fun e => e.measures.total m).sum

end Outcomes

/-- The same files with the same measures, the same failures with the same reasons, and the same
totals. -/
structure SameFindings (l l' : Ledger) : Prop where
  files : (l.search .file).Perm (l'.search .file)
  failures : (l.failures.map fun r => (r.path, r.reason)).Perm
    (l'.failures.map fun r => (r.path, r.reason))
  totals : ∀ m, l.projectEntity.measures.total m = l'.projectEntity.measures.total m

variable {files : FileStore} {catalog : Catalog} {settings : Settings}
  {given : Option (List Visitor)} {texts : List String}

/-- One element has a given key in a list of different keys. -/
theorem filter_eq_singleton {α β : Type} [DecidableEq β] {key : α → β} {a : α} :
    ∀ {l : List α}, (l.map key).Nodup → a ∈ l → l.filter (fun b => key b = key a) = [a]
  | b :: rest, h, ha => by
    rw [List.map_cons, List.nodup_cons] at h
    rcases List.mem_cons.1 ha with rfl | ha
    · rw [List.filter_cons_of_pos (by simp), List.filter_eq_nil_iff.2]
      intro c hc heq
      exact h.1 (of_decide_eq_true heq ▸ List.mem_map_of_mem hc)
    · have hne : key b ≠ key a := fun heq => h.1 (heq ▸ List.mem_map_of_mem ha)
      rw [List.filter_cons_of_neg (by simpa using hne)]
      exact filter_eq_singleton h.2 ha

/-- A file entity that a search gives is found under its own key. -/
theorem mem_keys_of_mem_search {l : Ledger} {e : Entity} (h : e ∈ l.search .file) :
    ∃ key ∈ l.files.keys, l.find? .file key = some e := by
  obtain ⟨key, r, hr, rfl⟩ := Ledger.mem_fileEntities_iff.1 h
  refine ⟨key, List.mem_map.2 ⟨_, Listing.mem_entries_iff.2 hr, rfl⟩, ?_⟩
  rw [Ledger.find?, hr, Option.map_some]

namespace AgreesWithSingles

variable {l l' : Ledger}

/-- A path that failed was not measured. -/
theorem not_measured (h : AgreesWithSingles files catalog settings given texts l)
    {record : FailureRecord} (hrecord : record ∈ l.failures) : record.path ∉ l.files.keys :=
  fun hkey => List.disjoint_of_nodup_append h.once hkey (List.mem_map_of_mem hrecord)

/-- The only record of a key is listed, and is a record of that key. -/
theorem mem_of_filter_eq {key : String} {record : FailureRecord}
    (h : l.failures.filter (fun r => r.path = key) = [record]) :
    record ∈ l.failures ∧ record.path = key := by
  have hmem : record ∈ l.failures.filter fun r => r.path = key := h ▸ List.mem_singleton_self record
  rw [List.mem_filter, decide_eq_true_eq] at hmem
  exact hmem

/-- What one ledger has measured, the other has measured. -/
theorem search_subset (huniform : Uniform files settings texts)
    (h : AgreesWithSingles files catalog settings given texts l)
    (h' : AgreesWithSingles files catalog settings given texts l') {e : Entity}
    (he : e ∈ l.search .file) : e ∈ l'.search .file := by
  obtain ⟨key, hkey, hfind⟩ := mem_keys_of_mem_search he
  have hlisted : key ∈ l.listed := List.mem_append_left _ hkey
  obtain ⟨text, htext, hspell, hholds⟩ := h.holds key hlisted
  have hlisted' : key ∈ l'.listed := (h'.covers key).2 ⟨text, htext, hspell⟩
  have hlanguage := huniform.language text htext key hspell
  rcases h.decided text htext with ⟨entity, hsingle⟩ | ⟨f, hsingle, hf⟩
  · rw [hsingle] at hholds
    obtain rfl := Option.some.inj (hfind.symm.trans hholds)
    exact (Ledger.find?_eq_some_iff.1 (h'.measured hspell hlisted' hlanguage hsingle)).1
  · rw [hsingle] at hholds
    obtain ⟨-, record, hrecord, -⟩ := hholds
    obtain ⟨hmem, rfl⟩ := mem_of_filter_eq hrecord
    exact absurd hkey (h.not_measured hmem)

/-- The reason that a ledger of a uniform batch has for a failure is that of the single scan. -/
theorem reason_eq (huniform : Uniform files settings texts)
    (h : AgreesWithSingles files catalog settings given texts l) {text key : String} {f : Failure}
    (htext : text ∈ texts) (hspell : Scanner.keyOf files (.ofText text) = .ok key)
    (hlisted : key ∈ l.listed)
    (hsingle : scanSingle files catalog (.ofText text) settings given = .error (.failure f))
    (hf : f.isOfFile = true) :
    ∃ record, l.failures.filter (fun r => r.path = key) = [record] ∧
      f.reason? = some (.text record.reason) := by
  obtain ⟨record, reason, hrecord, hreason, other, hother, hspell', entry, hstat, hsame⟩ :=
    h.failed hspell hlisted (huniform.language text htext key hspell) hsingle hf
  refine ⟨record, hrecord, ?_⟩
  rcases hsame with heq | ⟨fault, hopened, htold, htold'⟩
  · rw [hreason, heq]
  · rcases huniform.spelling other hother text htext (hspell'.trans hspell.symm) with
      ⟨entry', hstat', hopens⟩ | hpath
    · obtain rfl := Except.ok.inj (hstat.symm.trans hstat')
      exact nomatch hopened.symm.trans hopens
    · rw [hreason, htold, htold', hpath]

/-- What has failed in one ledger has failed in the other, for the same reason. -/
theorem failures_subset (huniform : Uniform files settings texts)
    (h : AgreesWithSingles files catalog settings given texts l)
    (h' : AgreesWithSingles files catalog settings given texts l') {p : String × String}
    (hp : p ∈ l.failures.map fun r => (r.path, r.reason)) :
    p ∈ l'.failures.map fun r => (r.path, r.reason) := by
  obtain ⟨record, hrecord, rfl⟩ := List.mem_map.1 hp
  have hlisted : record.path ∈ l.listed := List.mem_append_right _ (List.mem_map_of_mem hrecord)
  obtain ⟨text, htext, hspell, hholds⟩ := h.holds record.path hlisted
  have hlisted' : record.path ∈ l'.listed := (h'.covers _).2 ⟨text, htext, hspell⟩
  rcases h.decided text htext with ⟨entity, hsingle⟩ | ⟨f, hsingle, hf⟩
  · rw [hsingle] at hholds
    obtain ⟨he, hid⟩ := Ledger.find?_eq_some_iff.1 hholds
    obtain ⟨key, hkey, hfind⟩ := mem_keys_of_mem_search he
    have hsame := (Ledger.find?_eq_some_iff.1 hfind).2.symm.trans hid
    obtain rfl : key = record.path := EntityId.file.inj hsame
    exact absurd hkey (h.not_measured hrecord)
  · obtain ⟨one, hone, hreason⟩ := h.reason_eq huniform htext hspell hlisted hsingle hf
    obtain ⟨other, hother, hreason'⟩ := h'.reason_eq huniform htext hspell hlisted' hsingle hf
    have hself : record ∈ l.failures.filter fun r => r.path = record.path :=
      List.mem_filter.2 ⟨hrecord, decide_eq_true rfl⟩
    rw [hone] at hself
    obtain rfl := List.mem_singleton.1 hself
    obtain ⟨hmem, hpath⟩ := mem_of_filter_eq hother
    have hreasons := Value.text.inj (Option.some.inj (hreason.symm.trans hreason'))
    exact List.mem_map.2 ⟨other, hmem, by rw [hpath, hreasons]⟩

/-- **Two ledgers that agree with the single scans** of a uniform batch have the same findings. -/
theorem same (huniform : Uniform files settings texts)
    (h : AgreesWithSingles files catalog settings given texts l)
    (h' : AgreesWithSingles files catalog settings given texts l') : SameFindings l l' := by
  have hids : ∀ {l : Ledger}, AgreesWithSingles files catalog settings given texts l →
      (l.search .file).Nodup ∧ (l.failures.map fun r => (r.path, r.reason)).Nodup := by
    intro l h
    refine ⟨List.Nodup.of_map Entity.id ?_, List.Nodup.of_map Prod.fst ?_⟩
    · rw [Ledger.map_id_search]
      exact (List.nodup_append.1 h.once).1.map fun _ _ heq => EntityId.file.inj heq
    · rw [List.map_map]
      exact (List.nodup_append.1 h.once).2.1
  have hfiles : (l.search .file).Perm (l'.search .file) :=
    (List.perm_ext_iff_of_nodup (hids h).1 (hids h').1).2 fun e =>
      ⟨search_subset huniform h h', search_subset huniform h' h⟩
  refine ⟨hfiles, ?_, fun m => ?_⟩
  · exact (List.perm_ext_iff_of_nodup (hids h).2 (hids h').2).2 fun p =>
      ⟨failures_subset huniform h h', failures_subset huniform h' h⟩
  · cases hscope : m.scope with
    | file => rw [h.totals m hscope, h'.totals m hscope, (hfiles.map _).sum_eq]
    | project =>
      obtain rfl : m = .files := by cases m <;> first | rfl | exact nomatch hscope
      rw [h.files_total, h'.files_total, hfiles.length_eq]

end AgreesWithSingles

namespace Scanner

/-- A resolved path is resolved to itself. -/
theorem keyOf_resolved {path : Path} {key : String} (hs : files.Sound) (hpath : path.IsNormal)
    (h : keyOf files path = .ok key) : keyOf files (.ofText key) = .ok key := by
  obtain ⟨hnul, resolved, hresolve, rfl⟩ := keyOf_eq_ok_iff.1 h
  obtain ⟨hnormal, hnul', hself⟩ := FileStore.resolve_resolved hs hpath hnul hresolve
  rw [Path.ofText_toText hnormal]
  exact keyOf_eq_ok_iff.2 ⟨hnul', resolved, hself, rfl⟩

/-- Paths that lead anywhere have the same key only if they are resolved to the same path. -/
theorem resolve_congr {p q : Path} {key : String} (hs : files.Sound) (hp : p.IsNormal)
    (hq : q.IsNormal) (hkey : keyOf files p = .ok key) (hkey' : keyOf files q = .ok key) :
    files.resolve p = files.resolve q := by
  obtain ⟨hnul, r, hresolve, rfl⟩ := keyOf_eq_ok_iff.1 hkey
  obtain ⟨hnul', r', hresolve', htext⟩ := keyOf_eq_ok_iff.1 hkey'
  have hr := (FileStore.resolve_resolved hs hp hnul hresolve).1
  have hr' := (FileStore.resolve_resolved hs hq hnul' hresolve').1
  rw [hresolve, hresolve', Path.toText_inj hr hr' htext.symm]

end Scanner

namespace Ledger.Records

variable {project : Value} {calls : List Ledger.Call} {l : Ledger} {c : Ledger.Call}

/-- No key is listed twice, neither within one listing nor in both. -/
theorem nodup_listed (hl : l.Records project calls) : l.listed.Nodup :=
  hl.reflects.paths.nodup_iff.2 (Ledger.nodup_paths_lastCalls calls)

/-- The paths listed are those that were called about. -/
theorem mem_listed_iff (hl : l.Records project calls) {key : String} :
    key ∈ l.listed ↔ ∃ c ∈ calls, c.path = key := by
  rw [← List.mem_map, ← Ledger.mem_paths_lastCalls]
  exact hl.reflects.paths.mem_iff

/-- A key that is listed was called for, and one of its calls was the last. -/
theorem exists_lastCall (hl : l.Records project calls) {key : String} (h : key ∈ l.listed) :
    ∃ c ∈ Ledger.lastCalls calls, c ∈ calls ∧ c.path = key := by
  obtain ⟨c, hc, hpath⟩ := List.mem_map.1 (hl.reflects.paths.mem_iff.1 h)
  exact ⟨c, hc, (Ledger.lastCalls_sublist calls).subset hc, hpath⟩

/-- The last call about a path is what looking the path up finds. -/
theorem find?_eq (hl : l.Records project calls) (hc : c ∈ Ledger.lastCalls calls) {entity : Entity}
    (h : c.entity? project = some entity) : l.find? .file c.path = some entity := by
  cases c with
  | recordFailure => exact nomatch h
  | commit path measures annotations =>
    have hmem := hl.reflects.files.mem_iff.2 (List.mem_filterMap.2 ⟨_, hc, rfl⟩)
    obtain rfl := Option.some.inj h
    rw [Call.path, Ledger.find?, Listing.mem_entries_iff.1 hmem, Option.map_some, Ledger.fileEntity,
      hl.project_eq]

/-- The last call about a path is the one failure under the path. -/
theorem failures_at (hl : l.Records project calls) (hc : c ∈ Ledger.lastCalls calls)
    {record : FailureRecord} (h : c.failure? = some record) :
    l.failures.filter (fun r => r.path = c.path) = [record] := by
  have hmem : record ∈ l.failures := by
    rw [hl.reflects.failures]
    exact List.mem_filterMap.2 ⟨c, hc, h⟩
  rw [← Call.path_of_failure? h]
  exact filter_eq_singleton (List.nodup_append.1 hl.nodup_listed).2.1 hmem

end Ledger.Records

/-- **A settled batch** agrees with the single scans of its files. -/
theorem Scanner.Settled.agrees {scanner : Scanner} {l : Ledger} (hs : files.Sound)
    (hcreate : Scanner.create settings given none = .ok scanner)
    (hregular : ∀ text ∈ texts, Scanner.requireRegular files (.ofText text) = .ok ())
    (h : Scanner.Settled files catalog settings scanner.visitors (settings.get .projectName)
      (texts.map .ofText) l) :
    AgreesWithSingles files catalog settings given texts l := by
  obtain ⟨calls, hl, hsound, hcomplete⟩ := h
  -- Every call is the verdict on a path of the batch, with the key that the path has.
  have hcall : ∀ c ∈ calls, ∃ text ∈ texts,
      Scanner.verdict files catalog settings scanner.visitors false (.ofText text) = .ok c ∧
        Scanner.keyOf files (.ofText text) = .ok c.path := by
    intro c hc
    obtain ⟨p, hp, hverdict⟩ := hsound c hc
    obtain ⟨text, htext, rfl⟩ := List.mem_map.1 hp
    exact ⟨text, htext, hverdict, (Scanner.verdict_cases hverdict).1⟩
  have hmade : ∀ text ∈ texts, ∃ c ∈ calls,
      Scanner.verdict files catalog settings scanner.visitors false (.ofText text) = .ok c :=
    fun text htext => hcomplete _ (List.mem_map_of_mem htext)
  have hcovers : ∀ key, key ∈ l.listed ↔
      ∃ text ∈ texts, Scanner.keyOf files (.ofText text) = .ok key := by
    intro key
    rw [hl.mem_listed_iff]
    constructor
    · rintro ⟨c, hc, rfl⟩
      obtain ⟨text, htext, -, hkey⟩ := hcall c hc
      exact ⟨text, htext, hkey⟩
    · rintro ⟨text, htext, hkey⟩
      obtain ⟨c, hc, hverdict⟩ := hmade text htext
      exact ⟨c, hc, Except.ok.inj ((Scanner.verdict_cases hverdict).1.symm.trans hkey)⟩
  -- Paths of one key lead to one entry, if they lead anywhere.
  have hentry : ∀ {text other key entry entry'},
      Scanner.keyOf files (.ofText text) = .ok key → Scanner.keyOf files (.ofText other) = .ok key →
      files.stat (Path.ofText text).toText = .ok entry →
      files.stat (Path.ofText other).toText = .ok entry' → entry = entry' :=
    fun hkey hkey' hstat hstat' => FileStore.stat_congr hs (Path.isNormal_ofText _)
      (Path.isNormal_ofText _) hstat hstat' (Scanner.resolve_congr hs (Path.isNormal_ofText _)
        (Path.isNormal_ofText _) hkey hkey')
  constructor
  case once => exact hl.nodup_listed
  case covers => exact hcovers
  case spelled =>
    intro key hkey
    obtain ⟨text, -, hspell⟩ := (hcovers key).1 hkey
    exact Scanner.keyOf_resolved hs (Path.isNormal_ofText text) hspell
  case holds =>
    intro key hkey
    obtain ⟨c, hc, hmem, rfl⟩ := hl.exists_lastCall hkey
    obtain ⟨text, htext, hverdict, hspell⟩ := hcall c hmem
    refine ⟨text, htext, hspell, ?_⟩
    rcases Scanner.scanSingle_of_verdict hcreate (hregular text htext) hverdict with
      ⟨entity, hsingle, hentity⟩ | ⟨f, reason, hsingle, hf, hreason, hrecord⟩
    · rw [hsingle]
      exact hl.find?_eq hc hentity
    · rw [hsingle]
      exact ⟨hf, _, hl.failures_at hc (congrArg Ledger.Call.failure? hrecord), hreason⟩
  case measured =>
    intro text key entity hspell hkey hlanguage hsingle
    obtain ⟨c, hc, hmem, rfl⟩ := hl.exists_lastCall hkey
    obtain ⟨other, hother, hverdict, hspell'⟩ := hcall c hmem
    obtain ⟨entry, hstat, -⟩ := Scanner.requireRegular_eq_ok_iff.1 (hregular other hother)
    obtain ⟨entry', hstat', -⟩ :=
      Scanner.requireRegular_eq_ok_iff.1 (Scanner.verdict_of_scanSingle hcreate hsingle).1
    obtain rfl := hentry hspell' hspell hstat hstat'
    exact hl.find?_eq hc (Scanner.entity_of_scanSingle hcreate hstat hstat'
      (hspell'.trans hspell.symm) (hlanguage other hother hspell') hverdict hsingle)
  case failed =>
    intro text key f hspell hkey hlanguage hsingle hf
    obtain ⟨c, hc, hmem, rfl⟩ := hl.exists_lastCall hkey
    obtain ⟨other, hother, hverdict, hspell'⟩ := hcall c hmem
    obtain ⟨entry, hstat, -⟩ := Scanner.requireRegular_eq_ok_iff.1 (hregular other hother)
    obtain ⟨entry', hstat', -⟩ := Scanner.requireRegular_eq_ok_iff.1
      (Scanner.verdict_of_scanSingle_error hcreate hf hsingle).1
    obtain rfl := hentry hspell' hspell hstat hstat'
    obtain ⟨reason, reason', cause, hrecord, hreason, hsame⟩ := Scanner.failure_of_scanSingle
      hcreate hstat hstat' (hspell'.trans hspell.symm) (hlanguage other hother hspell') hverdict hf
      hsingle
    have hfailure : c.failure? = some ⟨c.path, reason, cause⟩ :=
      congrArg Ledger.Call.failure? hrecord
    exact ⟨_, reason', hl.failures_at hc hfailure, hreason, other, hother, hspell', entry, hstat,
      hsame⟩
  case decided =>
    intro text htext
    obtain ⟨c, -, hverdict⟩ := hmade text htext
    rcases Scanner.scanSingle_of_verdict hcreate (hregular text htext) hverdict with
      ⟨entity, hsingle, -⟩ | ⟨f, -, hsingle, hf, -⟩
    · exact .inl ⟨entity, hsingle⟩
    · exact .inr ⟨f, hsingle, hf⟩
  case files_total => exact hl.balanced.total_files
  case totals => exact fun m hm => hl.balanced.total_of_file hm

namespace Scanner

/-- The number of workers has no part in creating a scanner but to be among its settings. -/
theorem create_withWorkers (settings : Settings) (given : Option (List Visitor)) (workers : Value) :
    create (settings.withWorkers workers) given none =
      (create settings given none).map fun s =>
        { s with settings := settings.withWorkers workers } := by
  have hvisitors : defaultVisitors (settings.withWorkers workers) = defaultVisitors settings := rfl
  have hproject : (settings.withWorkers workers).get .projectName = settings.get .projectName := rfl
  unfold create
  simp only [hvisitors, hproject]
  generalize (settings.get .projectName).isKey = isKey
  rcases given with _ | visitors
  · cases defaultVisitors settings <;> cases isKey <;> rfl
  · cases isKey <;> rfl

/-- The verdict on a file does not depend on how many workers there are. -/
theorem verdict_withWorkers (workers : Value) (visitors : List Visitor) (strict : Bool)
    (path : Path) :
    verdict files catalog (settings.withWorkers workers) visitors strict path =
      verdict files catalog settings visitors strict path := rfl

/-- The number of workers has no part in what a batch comes to. -/
theorem settled_withWorkers {workers project : Value} {visitors : List Visitor}
    {paths : List Path} {l : Ledger} :
    Settled files catalog (settings.withWorkers workers) visitors project paths l ↔
      Settled files catalog settings visitors project paths l := by
  simp only [Settled, verdict_withWorkers]

end Scanner

/-- A batch that was scanned to its end found somebody to scan it. -/
theorem staffs_of_scanBatch {done : Scanner}
    (h : scanBatch files catalog (texts.map .ofText) settings given = .ok done) :
    settings.Staffs texts.length := by
  rw [scanBatch] at h
  obtain ⟨scanner, hcreate, h⟩ := bind_eq_ok_iff.1 h
  obtain ⟨hsettings, -⟩ := Scanner.created_of_create hcreate
  rcases hrun : scanner.run (Scanner.scanFiles files catalog (texts.map .ofText)) with
    ⟨fault | _, s'⟩
  · rw [hrun] at h
    cases h
  · have hstarts := Scanner.startsWorkers_of_run_scanFiles hrun
    rwa [hsettings, List.length_map] at hstarts

section Settling

variable {scanner : Scanner} (hcreate : Scanner.create settings given none = .ok scanner)
  (hverdict : ∀ p ∈ texts.map Path.ofText, ∃ c,
    Scanner.verdict files catalog settings scanner.visitors false p = .ok c)

include hcreate hverdict

/-- A pool that a batch is left to, and whose tasks are finished, has settled the batch without a
fault. -/
theorem pool_settles {workers : Value} {scanner' : Scanner} {schedule : List Nat}
    (hnew : Scanner.create (settings.withWorkers workers) given none = .ok scanner')
    (hdone : ((Scanner.Pool.start scanner' (texts.map .ofText)).run files catalog
      schedule).isDone = true) :
    Scanner.Settled files catalog settings scanner.visitors (settings.get .projectName)
        (texts.map .ofText) ((Scanner.Pool.start scanner' (texts.map .ofText)).run files catalog
          schedule).scanner.ledger ∧
      ∀ t ∈ ((Scanner.Pool.start scanner' (texts.map .ofText)).run files catalog schedule).tasks,
        ∃ entity, t = .finished t.path (.ok entity) := by
  obtain ⟨hs, hledger⟩ := Scanner.create_spec catalog hnew
  rw [Scanner.create_withWorkers, hcreate] at hnew
  obtain rfl := Except.ok.inj hnew
  have hsettled := Scanner.Pool.settled_run hs hledger
    (by simpa only [Scanner.verdict_withWorkers] using hverdict) hdone
  exact ⟨Scanner.settled_withWorkers.1 hsettled.1, hsettled.2⟩

variable (hne : texts ≠ [])
  (hregular : ∀ text ∈ texts, Scanner.requireRegular files (.ofText text) = .ok ())

include hne hregular

/-- A batch whose files have verdicts is scanned to its end, with any number of workers that are
started, and is then settled. -/
theorem scanBatch_settles {workers : Value}
    (hstaffs : (settings.withWorkers workers).Staffs texts.length) :
    ∃ done, scanBatch files catalog (texts.map .ofText) (settings.withWorkers workers) given =
        .ok done ∧
      Scanner.Settled files catalog settings scanner.visitors (settings.get .projectName)
        (texts.map .ofText) done.ledger := by
  have hnew := Scanner.create_withWorkers settings given workers
  rw [hcreate] at hnew
  obtain ⟨hs, hledger⟩ := Scanner.create_spec catalog hnew
  have hpaths : ∀ p ∈ texts.map Path.ofText, Scanner.requireRegular files p = .ok () := by
    intro p hp
    obtain ⟨text, htext, rfl⟩ := List.mem_map.1 hp
    exact hregular text htext
  obtain ⟨done, hrun, hsettled⟩ := Scanner.run_scanFiles hs hledger
    (mt List.map_eq_nil_iff.1 hne) hpaths (by rw [List.length_map]; exact hstaffs)
    (by simpa only [Scanner.verdict_withWorkers] using hverdict)
  refine ⟨done, ?_, Scanner.settled_withWorkers.1 hsettled⟩
  rw [scanBatch, hnew]
  simp only [Except.map, bind, Except.bind, hrun]
  rfl

/-- **However a batch is scanned,** it is settled. -/
theorem BatchOutcome.settled {l : Ledger}
    (h : BatchOutcome files catalog settings given texts l) :
    Scanner.Settled files catalog settings scanner.visitors (settings.get .projectName)
      (texts.map .ofText) l := by
  cases h with
  | @inTurn workers done hdone =>
    obtain ⟨done', hdone', hsettled⟩ :=
      scanBatch_settles hcreate hverdict hne hregular (staffs_of_scanBatch hdone)
    obtain rfl := Except.ok.inj (hdone.symm.trans hdone')
    exact hsettled
  | sideBySide hnew _ hdone => exact (pool_settles hcreate hverdict hnew hdone).1

end Settling

end LineMetrics

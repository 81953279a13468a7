import LineMetrics.Proofs.Grammar.Rows
import LineMetrics.Proofs.Ledger.Conservation
import LineMetrics.Proofs.Scan.Session
import LineMetrics.Proofs.Scan.Unchanged

/-!
# Bounds in a session

Whatever a scanner with the default visitors has done so far, its files keep to the bounds of
`Measures.InBounds`, and so does the project, whose totals are sums over the files (specification,
section 11):  `session_inBounds`.  The invariant is `Ledger.Bounded`.  A file that is parsed by a
grammar is trusted to keep to the bounds if the grammar's tree fits its text whenever it is scanned
(`GrammarFits`); a file that is parsed by lexemes always is.
-/

namespace LineMetrics

namespace Ledger

variable {trusted : String → Prop} {l next : Ledger}

/-- The totals are sums over the files, and the files of trusted paths keep to the bounds. -/
structure Bounded (trusted : String → Prop) (l : Ledger) : Prop where
  balanced : l.Balanced
  files : ∀ path r, l.files.get? path = some r → trusted path → r.measures.InBounds

/-- A ledger without files is within every bound. -/
theorem bounded_ofProject (name : Value) : (ofProject name).Bounded trusted where
  balanced := balanced_ofProject name
  files _ _ h := nomatch h

/-- **A call keeps a ledger in bounds** if what it publishes for a trusted path is. -/
theorem Bounded.call {c : Call} (hl : l.Bounded trusted)
    (hc : ∀ path r, c.record? = some (path, r) → trusted path → r.measures.InBounds)
    (h : l.call c = .ok next) : next.Bounded trusted := by
  refine ⟨hl.balanced.call h, fun path r hr => ?_⟩
  cases c with
  | commit path' measures annotations =>
    rw [(call_cases h).files, Listing.get?_put] at hr
    split at hr
    · rename_i heq
      exact hc path r (by rw [heq, ← Option.some.inj hr]; rfl)
    · exact hl.files path r hr
  | recordFailure path' reason cause =>
    rw [(call_cases h).files, Listing.get?_erase] at hr
    split at hr
    · cases hr
    · exact hl.files path r hr

/-- The file entities of a ledger within bounds are within them, if their text is trusted. -/
theorem Bounded.inBounds_file (hl : l.Bounded trusted) {e : Entity} (he : e ∈ l.search .file)
    {path : String} (hid : e.id = .file path) (htrusted : trusted path) :
    e.measures.InBounds := by
  obtain ⟨⟨path', r⟩, hr, rfl⟩ := List.mem_map.1 he
  obtain rfl : path' = path := EntityId.file.inj hid
  exact hl.files path' r (Listing.mem_entries_iff.1 hr) htrusted

/-- **Sums of what keeps to the bounds** keep to them. -/
theorem Bounded.inBounds_project (hl : l.Bounded trusted) (htrusted : ∀ path, trusted path) :
    l.projectEntity.measures.InBounds := by
  have hfiles : ∀ e ∈ l.search .file, e.measures.InBounds := by
    intro e he
    obtain ⟨⟨path, r⟩, -, rfl⟩ := List.mem_map.1 he
    exact hl.inBounds_file he rfl (htrusted path)
  have hsum : ∀ {m k : Metric}, m.scope = .file → k.scope = .file →
      (∀ e ∈ l.search .file, e.measures.total m ≤ e.measures.total k) →
        l.totals.total m ≤ l.totals.total k := by
    intro m k hm hk hle
    rw [hl.balanced.total_of_file hm, hl.balanced.total_of_file hk]
    exact List.sum_le_sum hle
  exact ⟨hsum rfl rfl fun e he => (hfiles e he).linesOfCode_le,
    hsum rfl rfl fun e he => (hfiles e he).commentBlankLines_le,
    hsum rfl rfl fun e he => (hfiles e he).commentLines_le⟩

end Ledger

namespace Scanner

section

variable (catalog : Catalog) (settings : Settings) (given : Option Parser) (files : FileStore)
  (path : Path)

/-- If a file is parsed by a grammar, the grammar's tree fits the file's text.  Nothing is asked of
a file that is parsed by lexemes or cannot be read. -/
def GrammarFits : Prop :=
  ∀ parser text root, parserOf catalog settings given path = .ok parser →
    parser.backend = .grammar → readText settings files path = .ok text →
      catalog.parse parser.language.grammar text = some root →
        root.Fits parser.language.commentTypes text

end

variable {catalog : Catalog} {settings : Settings} {given : Option Parser} {files : FileStore}
  {path : Path} {s : Scanner}

/-- A file that is parsed by lexemes needs no grammar. -/
theorem grammarFits_of_lexer {parser : Parser}
    (hparser : parserOf catalog settings given path = .ok parser)
    (hlexer : parser.backend = .lexer) : GrammarFits catalog settings given files path := by
  intro parser' text root hparser' hgrammar
  obtain rfl := Except.ok.inj (hparser.symm.trans hparser')
  exact nomatch hlexer.symm.trans hgrammar

/-- **What is found under a path** keeps to the bounds, if a grammar's tree fits. -/
theorem inBounds_of_finds {visitors : List Visitor}
    (hvisitors : defaultVisitors settings = .ok visitors) {key : String} {written : Sheet}
    (hfinds : Setup.Finds ⟨catalog, settings, visitors, given⟩ files path key (.sheet written))
    (hfits : GrammarFits catalog settings given files path) : written.measures.InBounds := by
  obtain ⟨-, parser, strict, hparser, hfinding⟩ := hfinds
  obtain ⟨tree, hparse, hsheet⟩ := exists_tree_of_examine hfinding
  obtain ⟨text, htext, htree⟩ := bind_eq_ok_iff.1 hparse
  refine inBounds_of_finishedSheet hvisitors ?_ hsheet
  exact Parser.fits_of_parse (fun hgrammar root => hfits parser text root hparser hgrammar htext)
    (Parser.parse_of_parseWithin htree)

/-- The call for what is found keeps a ledger in bounds, if trusted paths are scanned with trees
that fit. -/
theorem admits_bounded {visitors : List Visitor} {trusted : String → Prop}
    (hvisitors : defaultVisitors settings = .ok visitors)
    (htrusted : ∀ key, keyOf files path = .ok key → trusted key →
      GrammarFits catalog settings given files path) :
    Setup.Admits ⟨catalog, settings, visitors, given⟩ (Ledger.Bounded trusted) files path := by
  intro key finding hfinds l l' hl hcall
  refine hl.call (fun path' r hrecord htrust => ?_) hcall
  cases finding with
  | failure cause => exact nomatch hrecord
  | sheet written =>
    obtain ⟨rfl, rfl⟩ := Prod.mk.inj (Option.some.inj hrecord)
    obtain ⟨hkey, parser, strict, -, hfinding⟩ := id hfinds
    obtain ⟨tree, -, hsheet⟩ := exists_tree_of_examine hfinding
    have hpath := path_of_finishedSheet hsheet
    exact inBounds_of_finds hvisitors hfinds (htrusted key hkey (hpath ▸ htrust))

/-- **Measures keep to their bounds throughout a session.**  Take a scanner with the default
visitors, whatever its settings are and whether it was given a parser or not, and any sequence of
jobs, which may fail and may scan files again.  Then of every file in the ledger, its lines of code
and its comment lines are no more than its lines and its blank comment lines no more than its
comment lines, if, whenever the file was scanned by a grammar, the grammar's tree fitted its text;
and so it is for the project, if that holds of all files. -/
theorem session_inBounds (hcreate : create settings none given = .ok s) (catalog : Catalog)
    (jobs : List Job) :
    (∀ e ∈ (s.session catalog jobs).ledger.search .file, ∀ key, e.id = .file key →
      (∀ job ∈ jobs, ∀ path ∈ job.paths, keyOf job.files path = .ok key →
        GrammarFits catalog settings given job.files path) → e.measures.InBounds) ∧
    ((∀ job ∈ jobs, ∀ path ∈ job.paths, GrammarFits catalog settings given job.files path) →
      ∀ e ∈ (s.session catalog jobs).ledger.search .project, e.measures.InBounds) := by
  have hvisitors : defaultVisitors settings = .ok s.visitors :=
    (created_of_create hcreate).visitors_eq
  -- A path is trusted if all scans of its file had a tree that fits.
  have hbounded : (s.session catalog jobs).ledger.Bounded fun key => ∀ job ∈ jobs,
      ∀ path ∈ job.paths, keyOf job.files path = .ok key →
        GrammarFits catalog settings given job.files path :=
    session_induction hcreate (Ledger.bounded_ofProject _) fun job hjob path hpath =>
      admits_bounded hvisitors fun key hkey htrusted => htrusted job hjob path hpath hkey
  refine ⟨fun e he key hid htrusted => hbounded.inBounds_file he hid htrusted, fun hall e he => ?_⟩
  obtain rfl := List.mem_singleton.1 he
  exact hbounded.inBounds_project fun key job hjob path hpath _ => hall job hjob path hpath

/-- A macro with a comment behind its body. -/
def defineText : List Char :=
  ['#', 'd', 'e', 'f', 'i', 'n', 'e', ' ', 'A', ' ', '1', ' ', '/', '/', ' ', 'b', '\n']

/-- The tree of the macro, the comment in its body. -/
def defineRoot : RawNode :=
  let node type column text : RawNode := ⟨type, 0, column, 0, some text, [], false, false⟩
  let directive : RawNode := ⟨"preproc_def", 0, 0, 1, none, [
    node "#define" 0 [35, 100, 101, 102, 105, 110, 101], node "identifier" 8 [65],
    node "preproc_arg" 10 [49, 32, 47, 47, 32, 98]], false, false⟩
  ⟨"translation_unit", 0, 0, 1, none, [directive], false, false⟩

/-- One grammar, with a tree for every text but the empty one. -/
def defineCatalog : Catalog :=
  .ofList [("objc", ⟨["language"], none, fun s => if s.isEmpty then none else some defineRoot⟩)]

/-- The macro, and a comment in another language, for which there is no grammar. -/
def defineStore : FileStore where
  workingDirectory := ["w"]
  entries := .ofList [
    (["w", "a.m"], .file ⟨#[35, 100, 101, 102, 105, 110, 101, 32, 65, 32, 49, 32, 47, 47, 32, 98,
      10]⟩),
    (["w", "b.c"], .file ⟨#[47, 42, 32, 99, 32, 42, 47]⟩)]

/-- Nothing where the macro was, and an open string where the comment was. -/
def brokenStore : FileStore where
  workingDirectory := ["w"]
  entries := .ofList [(["w", "a.m"], .file ⟨#[]⟩), (["w", "b.c"], .file ⟨#[34]⟩)]

/-- Both files are measured, fail, and are measured again by workers that take turns. -/
def defineJobs : List Job :=
  [.file defineStore (.ofText "a.m") true, .file defineStore (.ofText "b.c") true,
    .batch brokenStore [.ofText "b.c", .ofText "a.m"],
    .workers defineStore [.ofText "a.m", .ofText "b.c"] [0, 1, 0, 1, 0, 1]]

/-- A macro measured by a grammar and a comment measured by lexemes, again and again. -/
theorem session_inBounds_define :
    ∃ s, create plainSettings none none = .ok s ∧
      (∀ job ∈ defineJobs, ∀ path ∈ job.paths,
        GrammarFits defineCatalog plainSettings none job.files path) ∧
      (∀ e ∈ (s.session defineCatalog defineJobs).ledger.search .file, ∀ key, e.id = .file key →
        e.measures.InBounds) ∧
      ∀ e ∈ (s.session defineCatalog defineJobs).ledger.search .project, e.measures.InBounds := by
  have hgrammar : parserOf defineCatalog plainSettings none (.ofText "a.m") =
      .ok ⟨.grammar, .objc⟩ := by cbv
  have hlexer : parserOf defineCatalog plainSettings none (.ofText "b.c") = .ok ⟨.lexer, .c⟩ := by
    have hextension : (Path.ofText "b.c").extension = ".c" := by cbv
    rw [parserOf, languageFor, if_neg (by decide +kernel), Language.ofPath, hextension]
    rfl
  have hdefine : GrammarFits defineCatalog plainSettings none defineStore (.ofText "a.m") := by
    intro parser text root hparser _ htext hroot
    obtain rfl := Except.ok.inj (hgrammar.symm.trans hparser)
    have hread : readText plainSettings defineStore (.ofText "a.m") = .ok defineText := by cbv
    obtain rfl := Except.ok.inj (hread.symm.trans htext)
    obtain rfl : defineRoot = root := Option.some.inj hroot
    decide +kernel
  have hempty : GrammarFits defineCatalog plainSettings none brokenStore (.ofText "a.m") := by
    intro parser text root hparser _ htext hroot
    obtain rfl := Except.ok.inj (hgrammar.symm.trans hparser)
    have hread : readText plainSettings brokenStore (.ofText "a.m") = .ok [] := by cbv
    obtain rfl := Except.ok.inj (hread.symm.trans htext)
    cases hroot
  have hfits : ∀ job ∈ defineJobs, ∀ path ∈ job.paths,
      GrammarFits defineCatalog plainSettings none job.files path := by
    have hcomment : ∀ files, GrammarFits defineCatalog plainSettings none files (.ofText "b.c") :=
      fun _ => grammarFits_of_lexer hlexer rfl
    simp only [defineJobs, Job.files, Job.paths, List.forall_mem_cons]
    exact ⟨⟨hdefine, List.forall_mem_nil _⟩, ⟨hcomment _, List.forall_mem_nil _⟩,
      ⟨hcomment _, hempty, List.forall_mem_nil _⟩, ⟨hdefine, hcomment _, List.forall_mem_nil _⟩,
      List.forall_mem_nil _⟩
  obtain ⟨s, hcreate⟩ : ∃ s, create plainSettings none none = .ok s := ⟨_, by cbv⟩
  obtain ⟨hfiles, hproject⟩ := session_inBounds hcreate defineCatalog defineJobs
  exact ⟨s, hcreate, hfits, fun e he key hid => hfiles e he key hid fun job hjob path hpath _ =>
    hfits job hjob path hpath, hproject hfits⟩

set_option maxRecDepth 20000 in
/-- The macro's first line is a line of code and a comment line; the line behind its break is
neither. -/
example : ∃ visitors annotations, defaultVisitors plainSettings = .ok visitors ∧
    examine plainSettings visitors defineStore defineCatalog true ⟨.grammar, .objc⟩
      (.ofText "a.m") "/w/a.m" = .ok (.sheet ⟨"/w/a.m", .ofList [(.lines, 2), (.linesOfCode, 1),
        (.commentLines, 1), (.commentBlankLines, 0)], annotations⟩) :=
  ⟨_, _, by cbv, by cbv⟩

end Scanner
end LineMetrics

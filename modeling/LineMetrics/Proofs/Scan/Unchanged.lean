import LineMetrics.Proofs.Scan.Invariant

/-!
# A fault leaves the ledger

Whatever ends a scan, of what it was about to enter nothing is in the ledger: a call that is refused
is not made, a file that raises a fault has not been entered, a batch that must not start has not
begun, and a batch that a file ends has entered the files in front of it (`faults_leave_ledger`;
specification, section 7).  This needs that measures can be told.  A file whose measures have too
many digits is entered first and raises the fault after that (`ledger_of_scanFile_fault`), and so it
stays in the ledger: `tooLongSum_is_entered`.
-/

namespace LineMetrics
namespace Scanner

variable {s s' : Scanner} {files : FileStore} {catalog : Catalog}

/-- A finding that the ledger takes but that cannot be delivered is a sheet that cannot be told. -/
theorem Finding.unshowable_of_delivery {finding : Finding} {key : String} {fault : Fault}
    {l l' : Ledger} (hcall : l.call (finding.call key) = .ok l')
    (h : finding.delivery key = .error fault) :
    fault = .badValue Numeral.unshowable ∧
      ∃ written, finding = .sheet written ∧ written.measures.isShowable = false := by
  cases finding with
  | failure cause => cases h
  | sheet written =>
    have hpublishable : Ledger.publishFault? written.path written.measures = none :=
      Ledger.publishFault?_eq_none_iff.2 (Ledger.call_cases hcall).publishable
    simp only [delivery, check, hpublishable] at h
    split at h
    · cases h
    · rename_i hshow
      exact ⟨(Except.error.inj h).symm, written, rfl, by simpa using hshow⟩

/-- **A fault in scanning a file** leaves the ledger as it was, unless the file has been entered
and its measures cannot be told. -/
theorem ledger_of_scanFile_fault {path : Path} {strict : Bool} {fault : Fault}
    (h : s.run (scanFile files catalog path strict) = (.error fault, s')) :
    s'.ledger = s.ledger ∨ fault = .badValue Numeral.unshowable ∧
      ∃ key parser written, examine s.settings s.visitors files catalog strict parser path key =
          .ok (.sheet written) ∧ written.measures.isShowable = false ∧
        s.ledger.call (.commit written.path written.measures written.annotations) =
          .ok s'.ledger := by
  rcases (run_scanFile_cases h).2 with
    ⟨-, -, hledger⟩ | ⟨key, parser, s₁, finding, -, -, hfinding, hcall, hresult⟩
  · exact .inl hledger
  · cases hdelivery : finding.delivery key with
    | ok call =>
      rw [hdelivery] at hresult
      exact nomatch hresult
    | error fault' =>
      rw [hdelivery] at hresult
      obtain rfl := Except.error.inj hresult
      obtain ⟨rfl, written, rfl, hshow⟩ := Finding.unshowable_of_delivery hcall hdelivery
      exact .inr ⟨rfl, key, parser, written, hfinding, hshow, hcall⟩

/-- Whatever the scanner finds measures of, the measures can be told. -/
def Tellable (files : FileStore) (catalog : Catalog) (s : Scanner) : Prop :=
  ∀ path strict parser key written,
    examine s.settings s.visitors files catalog strict parser path key = .ok (.sheet written) →
      written.measures.isShowable = true

/-- A scan of one file that can be told of leaves the ledger alone when it raises. -/
theorem Tellable.ledger_of_fault (htell : s.Tellable files catalog) {path : Path} {strict : Bool}
    {fault : Fault} (h : s.run (scanFile files catalog path strict) = (.error fault, s')) :
    s'.ledger = s.ledger := by
  rcases ledger_of_scanFile_fault h with hledger | ⟨-, key, parser, written, hfinding, hshow, -⟩
  · exact hledger
  · exact nomatch hshow.symm.trans (htell path strict parser key written hfinding)

/-- **A batch that must not start** does nothing: it is empty, or one of its paths, wherever it
stands, is not that of a regular file. -/
theorem run_scanFiles_of_rejected {paths : List Path}
    (h : paths = [] ∨ ∃ p ∈ paths, requireRegular files p ≠ .ok ()) :
    ∃ fault, s.run (scanFiles files catalog paths) = (.error fault, s) ∧
      (paths = [] → fault = .failure (.precondition "<none>" "no files to scan")) ∧
      (paths ≠ [] → ∃ p ∈ paths, requireRegular files p = .error fault) := by
  rw [scanFiles]
  by_cases hempty : paths = []
  · subst hempty
    exact ⟨_, rfl, fun _ => rfl, fun hne => absurd rfl hne⟩
  · have hcheck : ¬paths.forM (requireRegular files) = .ok () := by
      rw [forM_eq_ok_iff]
      obtain ⟨p, hp, hfault⟩ := h.resolve_left hempty
      exact fun hall => hfault (hall p hp)
    rw [if_neg (by simpa using hempty), run_bind, run_orFault]
    cases hresult : paths.forM (requireRegular files) with
    | ok => exact absurd hresult hcheck
    | error fault =>
      exact ⟨fault, rfl, fun hnil => absurd hnil hempty, fun _ => exists_of_forM_error hresult⟩

/-- **A batch in turn that a fault ends** has scanned the files in front of one, and that one raised
the fault. -/
theorem exists_of_scanFiles_fault {paths : List Path} {fault : Fault}
    (hturn : s.settings.isParallel paths.length = false) (hne : paths ≠ [])
    (hregular : ∀ p ∈ paths, requireRegular files p = .ok ())
    (h : s.run (scanFiles files catalog paths) = (.error fault, s')) :
    ∃ before p after entities s₁, paths = before ++ p :: after ∧
      s.run (scanInTurn files catalog before) = (.ok entities, s₁) ∧
      s₁.run (scanFile files catalog p false) = (.error fault, s') := by
  rw [scanFiles, if_neg (by simpa using hne), run_bind, run_orFault,
    forM_eq_ok_iff.2 hregular] at h
  dsimp only at h
  rw [run_bind, run_get] at h
  dsimp only at h
  rw [hturn, if_neg Bool.false_ne_true, run_bind] at h
  rcases hrun : s.run (scanInTurn files catalog paths) with ⟨fault' | entities, s₁⟩
  · rw [hrun] at h
    obtain ⟨heq, rfl⟩ := Prod.mk.inj h
    obtain rfl := Except.error.inj heq
    exact Scan.exists_of_mapM_error hrun
  · rw [hrun] at h
    exact nomatch congrArg Prod.fst h

/-- What can be told is found with settings and visitors alone. -/
theorem Tellable.of_sameSession (htell : s.Tellable files catalog) (h : SameSession s s') :
    s'.Tellable files catalog := by
  rw [Tellable, h.settings_eq, h.visitors_eq]
  exact htell

/-- A batch in turn stays within its session. -/
theorem sameSession_scanInTurn {paths : List Path} {result : Except Fault (List (Option Entity))}
    (h : s.run (scanInTurn files catalog paths) = (result, s')) : SameSession s s' := by
  have hkept : Scan.Keeps (SameSession s) (scanInTurn files catalog paths) := by
    refine Scan.keeps_mapM fun path _ s₁ hs₁ => ?_
    rcases hscan : s₁.run (scanFile files catalog path false) with ⟨entity, s₂⟩
    obtain ⟨hsettings, hvisitors, hparser⟩ := (run_scanFile_cases hscan).1
    exact ⟨hsettings.trans hs₁.settings_eq, hvisitors.trans hs₁.visitors_eq,
      hparser.trans hs₁.parser_eq⟩
  have hs := hkept s ⟨rfl, rfl, rfl⟩
  rwa [h] at hs

/-- **Faults leave the ledger.**  Of every scanner whose measures can be told: publishing that is
refused leaves the scanner; a fault in scanning a file leaves the ledger; a batch that is empty or
has a path that is not that of a regular file leaves the scanner; and a batch in turn that another
fault ends leaves the ledger that the files in front of one file have led to. -/
theorem faults_leave_ledger (htell : s.Tellable files catalog) :
    (∀ path sheet fault, s.ledger.commit sheet.path sheet.measures sheet.annotations =
        .error fault → s.run (publish path sheet) = (.error fault.toFault, s)) ∧
    (∀ path strict fault s', s.run (scanFile files catalog path strict) = (.error fault, s') →
      s'.ledger = s.ledger) ∧
    (∀ paths, paths = [] ∨ (∃ p ∈ paths, requireRegular files p ≠ .ok ()) →
      ∃ fault, s.run (scanFiles files catalog paths) = (.error fault, s) ∧
        (paths = [] → fault = .failure (.precondition "<none>" "no files to scan")) ∧
        (paths ≠ [] → ∃ p ∈ paths, requireRegular files p = .error fault)) ∧
    ∀ paths fault s', s.settings.isParallel paths.length = false → paths ≠ [] →
      (∀ p ∈ paths, requireRegular files p = .ok ()) →
      s.run (scanFiles files catalog paths) = (.error fault, s') →
      ∃ before p after entities s₁, paths = before ++ p :: after ∧
        s.run (scanInTurn files catalog before) = (.ok entities, s₁) ∧
        s₁.run (scanFile files catalog p false) = (.error fault, s') ∧
        s'.ledger = s₁.ledger := by
  refine ⟨fun path sheet fault h => ?_, fun path strict fault s' => htell.ledger_of_fault,
    fun paths => run_scanFiles_of_rejected, fun paths fault s' hturn hne hregular h => ?_⟩
  · rw [publish, run_bind, run_get]
    dsimp only
    rw [h]
    rfl
  · obtain ⟨before, p, after, entities, s₁, hpaths, hbefore, hp⟩ :=
      exists_of_scanFiles_fault hturn hne hregular h
    exact ⟨before, p, after, entities, s₁, hpaths, hbefore, hp,
      (htell.of_sameSession (sameSession_scanInTurn hbefore)).ledger_of_fault hp⟩

/-- A store with a file of one line and one of two lines. -/
def pickyStore : FileStore where
  workingDirectory := ["w"]
  entries := .ofList [(["w", "a.m"], .file ⟨#[97]⟩), (["w", "b.m"], .file ⟨#[97, 10]⟩)]

/-- A visitor that annotates every file, and writes a metric that it does not own unless the file is
of one line. -/
def pickyVisitor : Visitor where
  name := "Picky"
  metrics := [.lines]
  observe t := ⟨.annotate "kind" (.text "plain") ::
    if t.lineCount = 1 then [] else [.add .linesOfCode 1], none⟩

/-- Settings that set a largest file size only. -/
def plainSettings : Settings :=
  ⟨fun f => match f with
    | .maxFileSize => .int 1
    | f => f.default⟩

/-- A scanner with one visitor. -/
def plainScanner (visitor : Visitor) : Scanner where
  settings := plainSettings
  parser := none
  visitors := [visitor]
  ledger := .ofProject (.text "Objective-C Project")
  parsers := .empty
  events := [.ready "auto" [visitor.toText]]

/-- A scanner with plain settings and one visitor is created. -/
theorem create_plainScanner (visitor : Visitor) :
    create plainSettings (some [visitor]) none = .ok (plainScanner visitor) := rfl

set_option maxRecDepth 16000 in
/-- The file of one line, the file of two lines, which ends the batch, and the first again. -/
theorem faults_leave_ledger_pickyVisitor :
    create plainSettings (some [pickyVisitor]) none = .ok (plainScanner pickyVisitor) ∧
      (plainScanner pickyVisitor).Tellable pickyStore .empty ∧
      ∃ fault s', (plainScanner pickyVisitor).run (scanFiles pickyStore .empty
          (["a.m", "b.m", "a.m"].map .ofText)) = (.error fault, s') ∧
        s'.ledger.files.keys = ["/w/a.m"] ∧
        ∃ before p after entities s₁, ["a.m", "b.m", "a.m"].map Path.ofText = before ++ p :: after ∧
          (plainScanner pickyVisitor).run (scanInTurn pickyStore .empty before) =
            (.ok entities, s₁) ∧
          s₁.run (scanFile pickyStore .empty p false) = (.error fault, s') ∧
          s'.ledger = s₁.ledger := by
  have htell : (plainScanner pickyVisitor).Tellable pickyStore .empty := by
    intro path strict parser key written h
    obtain ⟨tree, -, hsheet⟩ := exists_tree_of_examine h
    obtain ⟨sheet, hmeasured, hwritten⟩ := bind_eq_ok_iff.1 hsheet
    obtain rfl := Except.ok.inj hwritten
    rw [plainScanner, measure_singleton, Visitor.run_eq_ok_iff] at hmeasured
    have hwrites := hmeasured.1
    by_cases hline : tree.lineCount = 1
    · simp only [pickyVisitor, if_pos hline] at hwrites
      obtain rfl := Except.ok.inj hwrites
      rfl
    · simp only [pickyVisitor, if_neg hline] at hwrites
      exact nomatch hwrites
  obtain ⟨fault, s', hrun⟩ : ∃ fault s', (plainScanner pickyVisitor).run
      (scanFiles pickyStore .empty (["a.m", "b.m", "a.m"].map .ofText)) = (.error fault, s') :=
    ⟨_, _, by cbv⟩
  have hkeys : ((plainScanner pickyVisitor).run (scanFiles pickyStore .empty
      (["a.m", "b.m", "a.m"].map .ofText))).2.ledger.files.keys = ["/w/a.m"] := by cbv
  rw [hrun] at hkeys
  have hregular : ∀ p ∈ ["a.m", "b.m", "a.m"].map Path.ofText,
      requireRegular pickyStore p = .ok () := by
    simp only [List.map_cons, List.forall_mem_cons]
    exact ⟨by cbv, by cbv, by cbv, List.forall_mem_nil _⟩
  exact ⟨create_plainScanner pickyVisitor, htell, fault, s', hrun, hkeys,
    (faults_leave_ledger htell).2.2.2 _ fault s' (by cbv) (by simp) hregular hrun⟩

/-- The greatest integer that can be told. -/
def allNines : Int := (Nat.pow 10 Numeral.maxDigits : Nat) - 1

/-- `allNines` is the largest number of its width that has decimal digits to show; its double has
none. -/
theorem isShowable_allNines :
    Numeral.isShowable allNines = true ∧ Numeral.isShowable (allNines + allNines) = false ∧
      0 ≤ allNines := by
  have hpow : ∀ {d}, 1 ≤ d → 2 ≤ Nat.pow 10 d := fun hd =>
    Nat.le_trans (by decide) (Nat.pow_le_pow_right (by decide) hd)
  have hbound : 2 ≤ Nat.pow 10 Numeral.maxDigits := hpow (by decide)
  rw [allNines, Numeral.isShowable, Numeral.isShowable]
  generalize Nat.pow 10 Numeral.maxDigits = bound at hbound ⊢
  refine ⟨decide_eq_true ?_, decide_eq_false ?_, ?_⟩ <;> omega

/-- A visitor that adds an integer that can be told twice, so that the sum cannot. -/
def addsNines : Visitor :=
  .fixed "CustomVisitor" [.lines] ⟨[.add .lines allNines, .add .lines allNines], none⟩

/-- The measures that the visitor writes. -/
def sumOfNines : Measures := .put .empty .lines (allNines + allNines)

/-- The visitor adds the number twice. -/
theorem run_addsNines (tree : SyntaxTree) (path : String) : addsNines.run tree (.blank path) =
    .ok { Sheet.blank path with measures := sumOfNines } := by
  have hadd : ∀ sheet : Sheet, sheet.writeOwned [.lines] (.add .lines allNines) =
      .ok { sheet with measures := sheet.measures.bump .lines allNines } := fun sheet => by
    rw [Sheet.writeOwned, Write.metric?]
    dsimp only
    rw [if_pos List.mem_cons_self, Sheet.write, if_neg (Int.not_lt.2 isShowable_allNines.2.2)]
  have htwice : ∀ n : Int, (Measures.bump .empty .lines n).bump .lines n =
      .put .empty .lines (n + n) := fun n =>
    Listing.ext (congrArg (fun first => [(Metric.lines, first + n)]) (Int.zero_add n))
  refine Visitor.run_eq_ok_iff.2 ⟨?_, rfl⟩
  rw [sumOfNines, ← htwice]
  exact bind_eq_ok_iff.2 ⟨_, hadd _, bind_eq_ok_iff.2 ⟨_, hadd _, rfl⟩⟩

/-- The ledger takes the measures. -/
theorem refusal?_sumOfNines (path : String) (annotations : Annotations) :
    (Finding.sheet ⟨path, sumOfNines, annotations⟩).refusal? = none := by
  obtain ⟨-, -, hpos⟩ := isShowable_allNines
  refine Ledger.publishFault?_eq_none_iff.2 fun m v hv => ?_
  rw [sumOfNines, Listing.get?_put] at hv
  split at hv
  · rename_i hm
    obtain rfl := Option.some.inj hv
    exact ⟨hm ▸ rfl, Int.add_nonneg hpos hpos⟩
  · cases hv

/-- The measures cannot be told. -/
theorem delivery_sumOfNines (path key : String) (annotations : Annotations) :
    (Finding.sheet ⟨path, sumOfNines, annotations⟩).delivery key =
      .error (.badValue Numeral.unshowable) := by
  have hshow : sumOfNines.isShowable = false :=
    List.all_eq_false.2 ⟨_, List.mem_singleton_self _, by simp [isShowable_allNines.2.1]⟩
  have hrefusal : Ledger.publishFault? path sumOfNines = none :=
    refusal?_sumOfNines path annotations
  rw [Finding.delivery, Finding.check, hrefusal]
  dsimp only
  rw [hshow, if_neg Bool.false_ne_true]
  rfl

/-- A store with an empty file. -/
def emptyFileStore : FileStore where
  workingDirectory := ["ROOT"]
  entries := .ofList [(["ROOT", "A.m"], .file ⟨#[]⟩)]

set_option maxRecDepth 4000 in
/-- **A sum that cannot be told** raises a fault after its file has been entered. -/
theorem tooLongSum_is_entered :
    create plainSettings (some [addsNines]) none = .ok (plainScanner addsNines) ∧
      ∃ s', (plainScanner addsNines).run (scanFile emptyFileStore .empty (.ofText "A.m") true) =
          (.error (.badValue Numeral.unshowable), s') ∧
        s'.ledger.files.keys = ["/ROOT/A.m"] ∧ (plainScanner addsNines).ledger.files.keys = [] := by
  have hkey : keyOf emptyFileStore (.ofText "A.m") = .ok "/ROOT/A.m" := by cbv
  have hparser : ∀ visitor, ∃ s₁, (plainScanner visitor).run
      (parserFor .empty (.ofText "A.m")) = (.ok ⟨.lexer, .fallback⟩, s₁) := fun _ => ⟨_, by cbv⟩
  obtain ⟨s₁, hparser⟩ := hparser addsNines
  obtain ⟨tree, htree⟩ : ∃ tree, parseFile plainSettings emptyFileStore .empty
      ⟨.lexer, .fallback⟩ (.ofText "A.m") "/ROOT/A.m" = .ok tree := ⟨_, by cbv⟩
  obtain ⟨annotations, hfinding⟩ : ∃ annotations, examine (plainScanner addsNines).settings
      (plainScanner addsNines).visitors emptyFileStore .empty true ⟨.lexer, .fallback⟩
      (.ofText "A.m") "/ROOT/A.m" = .ok (.sheet ⟨"/ROOT/A.m", sumOfNines, annotations⟩) := by
    refine ⟨Listing.empty.put languageKey (.text tree.language), ?_⟩
    refine (examine_of_tree htree true).trans ?_
    rw [plainScanner, finishedSheet, measure_singleton, run_addsNines]
    rfl
  have hscan := run_scanFile_eq hkey hparser true
  rw [hfinding] at hscan
  dsimp only at hscan
  obtain ⟨s', hdeliver, -, hcases⟩ := run_deliver_cases s₁ (.ofText "A.m") "/ROOT/A.m"
    (.sheet ⟨"/ROOT/A.m", sumOfNines, annotations⟩)
  rw [delivery_sumOfNines] at hdeliver
  refine ⟨create_plainScanner addsNines, s', hscan.trans hdeliver, ?_, rfl⟩
  rcases hcases with ⟨-, fault, hrefusal, -⟩ | hcall
  · cases (refusal?_sumOfNines _ _).symm.trans hrefusal
  · rw [(Ledger.call_cases hcall).files, (sameSession_parserFor hparser).2]
    rfl

end Scanner
end LineMetrics

import LineMetrics.Proofs.Encoding.Decoding
import LineMetrics.Proofs.Measure.Bounds
import LineMetrics.Proofs.Scan.Single

/-!
# What becomes of a file

Settings that scan by lexemes and can be used at all (`Settings.ScansByLexer`) leave three outcomes
for a file that is there: it is measured, it fails for a reason, or its encoding refuses it
(`Scanner.Becomes`).  What the operating system has of the file decides which
(`Scanner.exists_becomes`), and a batch's verdict on the file is that outcome: what is measured is
published (`Scanner.verdict_of_measured`), what fails is recorded (`Scanner.verdict_of_failed`), and
what is refused is a fault (`Scanner.verdict_of_refused`; specification, sections 4.1 and 7).

The encoding is any that the host knows, one of `Encoding` or another.  Of the others nothing is
assumed but that they decode bytes to a text or refuse them.
-/

namespace LineMetrics

/-- The most bytes of a file: the operating system gives its size in 64 bits, one of them a sign. -/
def FileStore.maxBytes : Nat := maxTextLength

/-- Settings by which files are scanned by lexemes: a backend that uses no grammar, a language that
there is or none, an encoding that the host knows, with what it decodes by, and a greatest size.
The marker can be looked for and the project's name can be a key, as every text can. -/
structure Settings.ScansByLexer (settings : Settings) (catalog : Catalog) (host : Host)
    (decode : List UInt8 → Except Fault (List Char)) (limit : Int) : Prop where
  backend : settings.get .backend = .text "lexer" ∨
    settings.get .backend = .text "auto" ∧ catalog.installed = []
  language : ∃ language, Parser.languageOf (settings.get .language) = .ok language
  encoding : Scanner.encodingName settings >>= host.decoder = .ok decode
  limit : settings.maxFileBytes = .ok limit
  marker : Marker.ofValue (settings.get .marker) ≠ .unusable
  project : (settings.get .projectName).isKey = true

/-- What becomes of a file. -/
inductive FileOutcome
  | measured (sheet : Sheet)
  | failed (reason : String)
  /-- The encoding refuses the bytes as a whole. -/
  | refused

/-- Every language has its name. -/
theorem Language.ofValue_name {l : Language} (h : l ∈ all) : ofValue (.text l.name) = .ok l := by
  rcases List.mem_cons.1 h with rfl | h
  · rfl
  · obtain rfl := List.mem_singleton.1 h
    rfl

/-- **Whatever decodes bytes** refuses them, or reads them as a text of a length that there is. -/
theorem Host.decode_cases {host : Host} {name : String}
    {decode : List UInt8 → Except Fault (List Char)} (h : host.decoder name = .ok decode)
    {bytes : List UInt8} (hlength : bytes.length ≤ FileStore.maxBytes) :
    decode bytes = .error .undecodable ∨
      ∃ s, decode bytes = .ok s ∧ s.length ≤ FileStore.maxBytes := by
  unfold decoder at h
  split at h
  · rename_i encoding _
    obtain rfl := Except.ok.inj h
    rcases encoding.decode_cases bytes with ⟨-, hrefused⟩ | ⟨-, s, htext, hshort⟩
    · exact .inl hrefused
    · exact .inr ⟨s, htext, hshort.trans hlength⟩
  · split at h
    · rename_i codec _
      obtain rfl := Except.ok.inj h
      unfold Codec.text
      cases htext : codec.decode bytes with
      | none => exact .inl rfl
      | some s =>
        exact .inr ⟨_, rfl, (Text.length_unifyBreaks_le s).trans (codec.length_le htext)⟩
    · cases h

/-- An entry whose bytes can be read was opened, and one that is refused is refused in the same
words before or after. -/
theorem FileEntry.opened_of_bytes (entry : FileEntry) :
    (∃ bytes, entry.bytes = .ok bytes ∧ entry.opened = .ok ()) ∨
      ∃ fault, entry.bytes = .error fault ∧
        (entry.opened = .ok () ∨ entry.opened = .error fault) := by
  cases entry with
  | file bytes => exact .inl ⟨bytes, rfl, rfl⟩
  | directory => exact .inr ⟨_, rfl, .inr rfl⟩
  | sealed size refusal =>
    refine .inr ⟨_, rfl, ?_⟩
    rw [opened]
    split_ifs
    · exact .inr rfl
    · exact .inl rfl

/-- The measures of a tally, as they are published. -/
theorem Tally.entries_sheet (t : Tally) (path : String) (marker : Marker) :
    (t.sheet path marker).measures.entries = [(.lines, t.lines), (.linesOfCode, t.linesOfCode),
      (.commentLines, t.commentLines), (.commentBlankLines, t.commentBlankLines)] := rfl

/-- What is no more than the lines of a file can be shown. -/
theorem Numeral.isShowable_of_le {n : Int} (hn : 0 ≤ n) (h : n ≤ FileStore.maxBytes + 1) :
    isShowable n = true := by
  have hmax : FileStore.maxBytes + 1 < Nat.pow 10 maxDigits := by decide +kernel
  exact decide_eq_true (by omega)

namespace Scanner

variable {files : FileStore} {catalog : Catalog} {settings : Settings} {visitors : List Visitor}
  {decode : List UInt8 → Except Fault (List Char)} {limit : Int} {p : Path} {entry : FileEntry}
  {key : String} {language : Language}

/-- **What becomes of an entry** that a path leads to, in a language: one that is too large is not
read, and one that cannot be opened or read fails in the words of the operating system.  Of the
others those that the encoding refuses are refused; a text with an opener that is never closed
fails, and any other is measured by the visitors of the scan. -/
inductive Becomes (settings : Settings) (decode : List UInt8 → Except Fault (List Char))
    (limit : Int) (language : Language) (p : Path) (key : String) (entry : FileEntry) :
    FileOutcome → Prop
  | tooLarge (hlarge : limit < entry.size) :
    Becomes settings decode limit language p key entry
      (.failed s!"file too large ({entry.size} bytes > {limit})")
  | unread {fault : AccessFault} (hsize : entry.size ≤ limit)
      (hbytes : entry.bytes = .error fault) :
    Becomes settings decode limit language p key entry (.failed (fault.reason p.toText))
  | refused {bytes : ByteArray} (hsize : entry.size ≤ limit) (hbytes : entry.bytes = .ok bytes)
      (hrefused : decode bytes.toList = .error .undecodable) :
    Becomes settings decode limit language p key entry .refused
  | unclosed {bytes : ByteArray} {s : List Char} {u : Unclosed} (hsize : entry.size ≤ limit)
      (hbytes : entry.bytes = .ok bytes) (htext : decode bytes.toList = .ok s)
      (htree : Syntax.flatTree key language.name s = .error u) :
    Becomes settings decode limit language p key entry (.failed u.reason)
  | measured {bytes : ByteArray} {s : List Char} {tree : SyntaxTree} {visitors : List Visitor}
      {sheet : Sheet} (hsize : entry.size ≤ limit) (hbytes : entry.bytes = .ok bytes)
      (htext : decode bytes.toList = .ok s) (htree : Syntax.flatTree key language.name s = .ok tree)
      (hvisitors : defaultVisitors settings = .ok visitors)
      (hsheet : finishedSheet visitors tree key = .ok sheet) :
    Becomes settings decode limit language p key entry (.measured sheet)

/-- The bytes of an entry are as many as its size says. -/
theorem length_le_of_bytes {bytes : ByteArray} {n : Nat} (hbytes : entry.bytes = .ok bytes)
    (h : entry.size ≤ n) : bytes.toList.length ≤ n := by
  cases entry with
  | file content =>
    obtain rfl := Except.ok.inj hbytes
    exact (Encoding.length_toList content).trans_le h
  | directory => cases hbytes
  | sealed => cases hbytes

/-- A parser by lexemes needs no room. -/
theorem parseWithin_of_flatTree {room : Nat} {s : List Char} {tree : SyntaxTree}
    (h : Syntax.flatTree key language.name s = .ok tree) :
    Parser.parseWithin ⟨.lexer, language⟩ room catalog key s = .ok tree := by
  rw [Parser.parseWithin, Syntax.parse_of_flatTree h]
  rfl

/-- A parser by lexemes fails at an opener that is never closed. -/
theorem parseWithin_of_fault {room : Nat} {s : List Char} {u : Unclosed}
    (h : Syntax.flatTree key language.name s = .error u) :
    Parser.parseWithin ⟨.lexer, language⟩ room catalog key s =
      .error (.failure (.parse key language.name u.reason)) := by
  rw [Parser.parseWithin, Syntax.parse_of_fault h]

/-- **What the default visitors write** on the tree of a text is its tally. -/
theorem measure_of_lexer (hvisitors : defaultVisitors settings = .ok visitors)
    (hmarker : Marker.ofValue (settings.get .marker) ≠ .unusable) {path name : String}
    {s : List Char} {tree : SyntaxTree} (h : Syntax.flatTree path name s = .ok tree)
    (key : String) :
    ∃ c : CommentCount, measure visitors tree key =
      .ok ((Tally.ofTree c tree).sheet key c.marker) := by
  obtain ⟨c, hmetric, hblank, hfamilies, -, hc, rfl⟩ := defaultVisitors_eq_ok hvisitors
  exact ⟨c, Syntax.measure_of_flatTree h (hc ▸ hmarker) hmetric hblank hfamilies key⟩

/-- The finished sheet is the one that was measured, with the language noted on it. -/
theorem finishedSheet_of_measure {tree : SyntaxTree} {sheet : Sheet}
    (h : measure visitors tree key = .ok sheet) :
    finishedSheet visitors tree key = .ok
      { sheet with annotations := sheet.annotations.put languageKey (.text tree.language) } := by
  rw [finishedSheet, h]
  rfl

/-- The sheet of a text that a file can hold may be published, and its measures can be told. -/
theorem check_of_lexer (hvisitors : defaultVisitors settings = .ok visitors)
    (hmarker : Marker.ofValue (settings.get .marker) ≠ .unusable) {path name : String}
    {s : List Char} {tree : SyntaxTree} (h : Syntax.flatTree path name s = .ok tree)
    (hlength : s.length ≤ FileStore.maxBytes) {sheet : Sheet}
    (hsheet : finishedSheet visitors tree key = .ok sheet) :
    (Finding.sheet sheet).check = .ok () := by
  have hbounds := inBounds_of_finishedSheet hvisitors (Syntax.fits_of_flatTree h) hsheet
  obtain ⟨c, hmeasure⟩ := measure_of_lexer hvisitors hmarker h key
  obtain rfl := Except.ok.inj ((finishedSheet_of_measure hmeasure).symm.trans hsheet)
  obtain ⟨hcode, hblank, hcomment⟩ := hbounds
  simp only [Measures.total, Tally.sheet, Listing.get?_put, reduceCtorEq, if_true, if_false,
    Option.getD_some] at hcode hblank hcomment
  have hlines : (Tally.ofTree c tree).lines ≤ FileStore.maxBytes + 1 := by
    have hcount : (Tally.ofTree c tree).lines = Text.lineCount s := (Syntax.flatTree_eq_ok h).2.2.2
    have hbreaks := Text.breakCount_le_length s
    rw [hcount, Text.lineCount]
    split_ifs <;> omega
  have hnonneg : 0 ≤ (Tally.ofTree c tree).linesOfCode ∧ 0 ≤ (Tally.ofTree c tree).commentLines ∧
      0 ≤ (Tally.ofTree c tree).commentBlankLines :=
    ⟨Int.natCast_nonneg _, Int.natCast_nonneg _, Int.natCast_nonneg _⟩
  have hentries : ∀ e ∈ ((Tally.ofTree c tree).sheet key c.marker).measures.entries,
      e.1.scope = .file ∧ 0 ≤ e.2 ∧ e.2 ≤ FileStore.maxBytes + 1 := by
    rw [Tally.entries_sheet]
    simp only [List.forall_mem_cons, List.not_mem_nil, false_implies, implies_true, and_true]
    refine ⟨⟨rfl, ?_⟩, ⟨rfl, ?_⟩, ⟨rfl, ?_⟩, rfl, ?_⟩ <;> omega
  have hpublish : ((Tally.ofTree c tree).sheet key c.marker).measures.Publishable := by
    intro m v hv
    obtain ⟨hscope, hpos, -⟩ := hentries _ (Listing.mem_entries_iff.2 hv)
    exact ⟨hscope, hpos⟩
  have hshow : ((Tally.ofTree c tree).sheet key c.marker).measures.isShowable = true :=
    List.all_eq_true.2 fun e he => Numeral.isShowable_of_le (hentries e he).2.1 (hentries e he).2.2
  rw [Finding.check, Ledger.publishFault?_eq_none_iff.2 hpublish]
  exact if_pos hshow

section Outcome

variable (hsettings : settings.ScansByLexer catalog files.host decode limit)

include hsettings

/-- There is a language for every path. -/
theorem exists_language (p : Path) :
    ∃ language, Parser.languageOf (languageFor settings p) = .ok language := by
  rw [languageFor]
  split_ifs
  · exact hsettings.language
  · have hmem := Language.ofPath_mem p
    have hset : ∀ l ∈ Language.all, (Value.text l.name).isSet = true := by decide
    exact ⟨_, by rw [Parser.languageOf, if_pos (hset _ hmem), Language.ofValue_name hmem]⟩

/-- The parser of a file goes by lexemes. -/
theorem create_eq_lexer (hlanguage : Parser.languageOf (languageFor settings p) = .ok language) :
    (Parser.create catalog settings (languageFor settings p)).2 = .ok ⟨.lexer, language⟩ := by
  have hchoose : (Parser.choose catalog settings language).2 = .ok ⟨.lexer, language⟩ := by
    rcases hsettings.backend with hlexer | ⟨hauto, hinstalled⟩
    · simp only [Parser.choose, hlexer]
    · simp [Parser.choose, hauto, hinstalled]
  rw [Parser.create, if_pos (isSet_languageFor settings p), hlanguage]
  dsimp only
  rw [hchoose]

/-- The default visitors can be used, and a scanner can be made. -/
theorem exists_create : ∃ scanner, create settings none none = .ok scanner := by
  obtain ⟨language, hlanguage⟩ := hsettings.language
  have hproject : ¬((!(settings.get .projectName).isKey) = true) := by simp [hsettings.project]
  simp only [create, defaultVisitors, hlanguage, bind, Except.bind, pure, Except.pure, hproject]
  exact ⟨_, rfl⟩

/-- **Every entry becomes something,** whatever its bytes are: a text of a length that there is, is
measured, and its measures can be told. -/
theorem exists_becomes (language : Language) (p : Path) (key : String)
    (hmax : entry.size ≤ FileStore.maxBytes) :
    ∃ outcome, Becomes settings decode limit language p key entry outcome := by
  rcases lt_or_ge limit entry.size with hlarge | hsize
  · exact ⟨_, .tooLarge hlarge⟩
  cases hbytes : entry.bytes with
  | error fault => exact ⟨_, .unread hsize hbytes⟩
  | ok bytes =>
    obtain ⟨name, -, hdecoder⟩ := bind_eq_ok_iff.1 hsettings.encoding
    rcases Host.decode_cases hdecoder (length_le_of_bytes hbytes hmax) with
      hrefused | ⟨s, htext, -⟩
    · exact ⟨_, .refused hsize hbytes hrefused⟩
    cases htree : Syntax.flatTree key language.name s with
    | error u => exact ⟨_, .unclosed hsize hbytes htext htree⟩
    | ok tree =>
      obtain ⟨scanner, hcreate⟩ := exists_create hsettings
      have hvisitors : defaultVisitors settings = .ok scanner.visitors :=
        (created_of_create hcreate).visitors_eq
      obtain ⟨c, hmeasure⟩ := measure_of_lexer hvisitors hsettings.marker htree key
      exact ⟨_, .measured hsize hbytes htext htree hvisitors (finishedSheet_of_measure hmeasure)⟩

variable (hp : files.stat p.toText = .ok entry)

include hp

/-- A file that is too large is not read. -/
theorem readText_of_large (hlarge : limit < entry.size) :
    readText settings files p = .error (.failure
      (.fileAccess p.toText s!"file too large ({entry.size} bytes > {limit})")) := by
  simp only [readText, hp, textOf, hsettings.limit, Except.mapError, bind, Except.bind, hlarge,
    if_true]
  rfl

/-- A file that cannot be opened or read fails in the words of the operating system. -/
theorem readText_of_unread (hsize : entry.size ≤ limit) {fault : AccessFault}
    (hbytes : entry.bytes = .error fault) :
    readText settings files p = .error (accessFault p fault) := by
  obtain ⟨name, hname, hdecoder⟩ := bind_eq_ok_iff.1 hsettings.encoding
  rw [readText_of_stat hp]
  rcases entry.opened_of_bytes with ⟨bytes, hread, -⟩ | ⟨fault', hfault, hopened | hopened⟩
  · cases hread.symm.trans hbytes
  · rw [textOf_of_opened hsettings.limit hname hdecoder hopened, if_neg (Int.not_lt.2 hsize),
      hbytes]
    rfl
  · obtain rfl := Except.error.inj (hfault.symm.trans hbytes)
    exact textOf_of_unopened hsettings.limit hname (Int.not_lt.2 hsize) hopened

/-- Reading any other file is decoding its bytes. -/
theorem readText_of_bytes (hsize : entry.size ≤ limit) {bytes : ByteArray}
    (hbytes : entry.bytes = .ok bytes) :
    readText settings files p = decode bytes.toList := by
  obtain ⟨name, hname, hdecoder⟩ := bind_eq_ok_iff.1 hsettings.encoding
  rw [readText_of_stat hp]
  rcases entry.opened_of_bytes with ⟨_, -, hopened⟩ | ⟨fault, hfault, -⟩
  · rw [textOf_of_opened hsettings.limit hname hdecoder hopened, if_neg (Int.not_lt.2 hsize),
      hbytes]
    rfl
  · cases hfault.symm.trans hbytes

variable (hkey : keyOf files p = .ok key)
  (hlanguage : Parser.languageOf (languageFor settings p) = .ok language)

include hkey hlanguage

omit hp in
/-- A verdict goes by what examining the file with its parser finds. -/
theorem verdict_of_examine (strict : Bool) :
    verdict files catalog settings visitors strict p =
      (examine settings visitors files catalog strict ⟨.lexer, language⟩ p key >>=
        Finding.delivery key) := by
  simp only [verdict, hkey, create_eq_lexer hsettings hlanguage, bind, Except.bind]

/-- **A measured file** is published, strict or not. -/
theorem verdict_of_measured (hvisitors : defaultVisitors settings = .ok visitors) {sheet : Sheet}
    (hmax : entry.size ≤ FileStore.maxBytes)
    (h : Becomes settings decode limit language p key entry (.measured sheet)) (strict : Bool) :
    verdict files catalog settings visitors strict p =
      .ok (.commit key sheet.measures sheet.annotations) := by
  cases h with
  | @measured bytes s tree used _ hsize hbytes htext htree hused hsheet =>
    obtain rfl := Except.ok.inj (hvisitors.symm.trans hused)
    have hparse : parseFile settings files catalog ⟨.lexer, language⟩ p key = .ok tree := by
      rw [parseFile, readText_of_bytes hsettings hp hsize hbytes, htext]
      exact parseWithin_of_flatTree htree
    have hlength : s.length ≤ FileStore.maxBytes := by
      obtain ⟨name, -, hdecoder⟩ := bind_eq_ok_iff.1 hsettings.encoding
      rcases Host.decode_cases hdecoder (length_le_of_bytes hbytes hmax) with
        hrefused | ⟨s', htext', hshort⟩
      · cases htext.symm.trans hrefused
      · obtain rfl := Except.ok.inj (htext.symm.trans htext')
        exact hshort
    have hcheck := check_of_lexer hvisitors hsettings.marker htree hlength hsheet
    rw [verdict_of_examine hsettings hkey hlanguage, examine_of_tree hparse, hsheet]
    simp only [bind, Except.bind, Except.map, Finding.delivery, hcheck, Finding.call,
      path_of_finishedSheet hsheet]

/-- **A file that fails** ends a strict scan; in a batch its failure is recorded with the reason. -/
theorem verdict_of_failed (visitors : List Visitor) {reason : String}
    (h : Becomes settings decode limit language p key entry (.failed reason)) :
    ∃ f, f.isOfFile = true ∧ f.reason? = some (.text reason) ∧
      verdict files catalog settings visitors true p = .error (.failure f) ∧
      verdict files catalog settings visitors false p = .ok (.recordFailure key reason f) := by
  obtain ⟨f, hf, hreason, hparse⟩ : ∃ f : Failure, f.isOfFile = true ∧
      f.reason? = some (.text reason) ∧
      parseFile settings files catalog ⟨.lexer, language⟩ p key = .error (.failure f) := by
    cases h with
    | tooLarge hlarge =>
      refine ⟨.fileAccess p.toText _, rfl, rfl, ?_⟩
      rw [parseFile, readText_of_large hsettings hp hlarge]
      rfl
    | @unread fault hsize hbytes =>
      refine ⟨.fileAccess p.toText _, rfl, rfl, ?_⟩
      rw [parseFile, readText_of_unread hsettings hp hsize hbytes]
      rfl
    | @unclosed bytes s u hsize hbytes htext htree =>
      refine ⟨.parse key language.name _, rfl, rfl, ?_⟩
      rw [parseFile, readText_of_bytes hsettings hp hsize hbytes, htext]
      exact parseWithin_of_fault htree
  refine ⟨f, hf, hreason, ?_, ?_⟩
  · rw [verdict_of_examine hsettings hkey hlanguage, examine_strict, hparse]
    rfl
  · rw [verdict_of_examine hsettings hkey hlanguage, examine_of_failure hf hparse]
    simp only [bind, Except.bind, Finding.delivery, Finding.check, Except.map, Finding.call,
      hreason]
    rfl

/-- **A file that is refused** ends every scan. -/
theorem verdict_of_refused (h : Becomes settings decode limit language p key entry .refused)
    (strict : Bool) :
    verdict files catalog settings visitors strict p = .error .undecodable := by
  cases h with
  | @refused bytes hsize hbytes hrefused =>
    have hparse : parseFile settings files catalog ⟨.lexer, language⟩ p key =
        .error .undecodable := by
      rw [parseFile, readText_of_bytes hsettings hp hsize hbytes, hrefused]
      rfl
    rw [verdict_of_examine hsettings hkey hlanguage, examine, hparse]
    rfl

end Outcome

end Scanner
end LineMetrics

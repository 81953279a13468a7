import LineMetrics.Proofs.Settings.Types

/-!
# What loading settings ends with

Loading reads up to three files, the environment and the overrides, and merges them (specification,
section 7).  Whatever is wrong with a file's place, its syntax, the environment or a checked value
is told as a configuration failure.  What is left are properties of the contents of a single file
that no part of loading accounts for (`Escapes`): bytes that are no UTF-8, integers that are too
long, values that are too deep, values that cannot be compared with a number, and unknown keys with
values that cannot be shown.  `load_outcome` says that there is nothing else.
-/

namespace LineMetrics
namespace Settings

/-- **What escapes** from a settings file: a fault that is told as no configuration failure. -/
inductive Escapes (host : Host) (bytes : ByteArray) : Fault → Prop
  | notUtf8 : Encoding.strictUtf8? bytes.toList = none → Escapes host bytes .malformedUtf8
  | tooLong {text : List Char} {digits : Nat} : Encoding.strictUtf8? bytes.toList = some text →
      Toml.document host.readRoom text = .error (.tooLong digits) →
      Escapes host bytes (.badValue (Numeral.tooLongReason digits))
  | tooDeep {text : List Char} : Encoding.strictUtf8? bytes.toList = some text →
      Toml.document host.readRoom text = .error .tooDeep →
      Escapes host bytes (.tooDeep Value.tooDeepToRead)
  | notNumber {text : List Char} {entries : Toml.Entries} {f : Field} {v : Value} :
      Encoding.strictUtf8? bytes.toList = some text →
      Toml.document host.readRoom text = .ok entries →
      f ∈ [Field.workers, .maxFileSize] → (f.key, v) ∈ ofDocument entries →
      FieldType.real.admits v = false → Escapes host bytes .wrongType
  | unshown {text : List Char} {entries : Toml.Entries} {k : String} {v : Value} {fault : Fault} :
      Encoding.strictUtf8? bytes.toList = some text →
      Toml.document host.readRoom text = .ok entries →
      Field.ofKey? k = none → (k, v) ∈ ofDocument entries → v.shown host.showRoom = .error fault →
      Escapes host bytes fault

/-- The settings files of a run: in the home directory, in the working directory, and by name. -/
def settingsFiles (files : FileStore) (home : Path) (file : Option Path) : List Path :=
  home.join (.ofText homeFile) :: files.base.join (.ofText projectFile) :: file.toList

/-- An entry of the settings of one of the files. -/
def FromFile (files : FileStore) (paths : List Path) (e : String × Value) : Prop :=
  ∃ path ∈ paths, ∃ bytes text entries, files.read path.toText = .ok bytes ∧
    Encoding.strictUtf8? bytes.toList = some text ∧
    Toml.document files.host.readRoom text = .ok entries ∧ e ∈ ofDocument entries

/-- **How a step of loading ends:** with a result that has the property, with a configuration
failure, or with what escapes from one of the files. -/
def Ends (files : FileStore) (paths : List Path) {α : Type} (P : α → Prop) :
    Except Fault α → Prop
  | .ok a => P a
  | .error fault => (∃ f : Failure, fault = .failure f ∧ f.isConfiguration = true) ∨
      ∃ path ∈ paths, ∃ bytes, files.read path.toText = .ok bytes ∧ Escapes files.host bytes fault

section

variable {files : FileStore} {paths : List Path} {α β : Type}

/-- Steps in a row end as each of them does. -/
theorem Ends.bind {P : α → Prop} {Q : β → Prop} {x : Except Fault α} {f : α → Except Fault β}
    (hx : Ends files paths P x) (hf : ∀ a, P a → Ends files paths Q (f a)) :
    Ends files paths Q (x >>= f) := by
  cases x with
  | error fault => exact hx
  | ok a => exact hf a hx

/-- A configuration failure is an end, whatever the step was to give. -/
theorem Ends.told (P : α → Prop) {f : Failure} (h : f.isConfiguration = true) :
    Ends files paths P (.error (.failure f)) :=
  .inl ⟨f, rfl, h⟩

/-! ### Files -/

/-- A file that is read ends as its contents do. -/
theorem ends_ofFile {path : Path} (hpath : path ∈ paths) :
    Ends files paths (∀ e ∈ ·, FromFile files paths e) (ofFile files path.toText) := by
  have hescapes : ∀ {bytes fault}, files.read path.toText = .ok bytes →
      Escapes files.host bytes fault → Ends files paths (∀ e ∈ ·, FromFile files paths e)
        (.error fault : Except Fault Toml.Entries) :=
    fun hread h => .inr ⟨path, hpath, _, hread, h⟩
  rw [ofFile]
  cases hread : files.read path.toText with
  | error fault => exact .told _ rfl
  | ok bytes =>
    dsimp only
    cases htext : Encoding.strictUtf8? bytes.toList with
    | none => exact hescapes hread (.notUtf8 htext)
    | some text =>
      dsimp only
      cases hdocument : Toml.document files.host.readRoom text with
      | ok entries =>
        exact fun e he => ⟨path, hpath, bytes, text, entries, hread, htext, hdocument, he⟩
      | error fault =>
        cases fault with
        | malformed => exact .told _ rfl
        | tooLong digits => exact hescapes hread (.tooLong htext hdocument)
        | tooDeep => exact hescapes hread (.tooDeep htext hdocument)

/-- A file that may be missing ends as its contents do, if the look-up of its path does not fail. -/
theorem ends_optionalFile {path : Path} (hpath : path ∈ paths)
    (hprobe : ∃ entry, files.probe path.toText = .ok entry) :
    Ends files paths (∀ e ∈ ·, FromFile files paths e) (optionalFile files path) := by
  obtain ⟨entry, hentry⟩ := hprobe
  rw [optionalFile, hentry]
  cases entry with
  | none => exact List.forall_mem_nil _
  | some entry => exact ends_ofFile hpath

/-- A file that is asked for ends as its contents do, if the look-up of its path does not fail. -/
theorem ends_requestedFile {file : Option Path} (hpaths : ∀ path ∈ file, path ∈ paths)
    (hprobe : ∀ path ∈ file, ∃ entry, files.probe path.toText = .ok entry) :
    Ends files paths (∀ e ∈ ·, FromFile files paths e) (requestedFile files file) := by
  cases file with
  | none => exact List.forall_mem_nil _
  | some path =>
    obtain ⟨entry, hentry⟩ := hprobe path rfl
    rw [requestedFile, hentry]
    cases entry with
    | none => exact .told _ rfl
    | some entry => exact ends_ofFile (hpaths path rfl)

/-! ### Layers -/

/-- The environment gives typed values or refuses a variable. -/
theorem ends_environmentLayer (env : Environment) :
    Ends files paths (∀ e ∈ ·, IsTyped e) (environmentLayer env) := by
  rw [environmentLayer]
  cases hsettings : env.settings with
  | ok entries => exact env.settings_typed hsettings
  | error failure => exact .told _ (env.isConfiguration_of_settings hsettings)

/-- **Every entry of a layer** is of its declared type, or it comes from a file. -/
theorem ends_layers {env : Environment} {home : Path} {file : Option Path}
    {overrides : List (String × Value)} (hhome : homeDirectory files.host env = .ok home)
    (hprobe : ∀ path ∈ settingsFiles files home file, ∃ entry, files.probe path.toText = .ok entry)
    (hoverrides : ∀ e ∈ overrides, e.2 = .null ∨ IsTyped e) :
    Ends files (settingsFiles files home file)
      (∀ layer ∈ ·, ∀ e ∈ layer, IsTyped e ∨ FromFile files (settingsFiles files home file) e)
      (layers files env file overrides) := by
  have hgiven : ∀ e ∈ givenOverrides overrides, IsTyped e := by
    intro e he
    obtain ⟨hmem, hset⟩ := List.mem_filter.1 he
    refine (hoverrides e hmem).resolve_left fun hnull => ?_
    rw [hnull] at hset
    cases hset
  have hhomeFile : home.join (.ofText homeFile) ∈ settingsFiles files home file :=
    List.mem_cons_self
  have hprojectFile : files.base.join (.ofText projectFile) ∈ settingsFiles files home file :=
    List.mem_cons_of_mem _ List.mem_cons_self
  have hfile : ∀ path ∈ file, path ∈ settingsFiles files home file := fun path hpath =>
    List.mem_cons_of_mem _ (List.mem_cons_of_mem _ (Option.mem_toList.2 hpath))
  rw [layers, hhome]
  refine (ends_optionalFile hhomeFile (hprobe _ hhomeFile)).bind fun homeLayer hhomeLayer => ?_
  refine (ends_optionalFile hprojectFile (hprobe _ hprojectFile)).bind
    fun projectLayer hprojectLayer => ?_
  refine (ends_requestedFile hfile fun path hpath => hprobe path (hfile path hpath)).bind
    fun fileLayer hfileLayer => ?_
  refine (ends_environmentLayer env).bind fun environment henvironment => ?_
  simp only [Ends, pure, Except.pure, List.forall_mem_cons]
  exact ⟨fun e he => .inr (hhomeLayer e he), fun e he => .inr (hprojectLayer e he),
    fun e he => .inr (hfileLayer e he), fun e he => .inl (henvironment e he),
    fun e he => .inl (hgiven e he), List.forall_mem_nil _⟩

end

/-! ### Merging -/

/-- What is merged comes from one of the layers. -/
theorem mem_foldl_update {layers : List (List (String × Value))} {merged : Listing String Value}
    {e : String × Value} (h : e ∈ (layers.foldl (fun merged layer =>
      merged.update (.ofList layer)) merged).entries) :
    e ∈ merged.entries ∨ ∃ layer ∈ layers, e ∈ layer := by
  induction layers generalizing merged with
  | nil => exact .inl h
  | cons layer layers ih =>
    rcases ih h with h | ⟨later, hlater, he⟩
    · rcases Listing.mem_entries_update h with h | h
      · exact .inl h
      · exact .inr ⟨layer, List.mem_cons_self, Listing.mem_of_mem_ofList h⟩
    · exact .inr ⟨later, List.mem_cons_of_mem layer hlater, he⟩

/-- **A merged entry** was in a layer. -/
theorem mem_of_mem_merge {layers : List (List (String × Value))} {e : String × Value}
    (h : e ∈ (merge layers).entries) : ∃ layer ∈ layers, e ∈ layer :=
  (mem_foldl_update h).resolve_left List.not_mem_nil

/-- The lesser of two keys, the first of which may be absent. -/
def lesser (known : Option String) (k : String) : Option String :=
  match known with
  | none => some k
  | some l => if k < l then some k else some l

/-- The smaller of two keys is one of them. -/
theorem lesser_cases (known : Option String) (k : String) :
    ∃ next, lesser known k = some next ∧ (known = some next ∨ next = k) := by
  cases known with
  | none => exact ⟨k, rfl, .inr rfl⟩
  | some l =>
    by_cases hlt : k < l
    · exact ⟨k, if_pos hlt, .inr rfl⟩
    · exact ⟨l, if_neg hlt, .inl rfl⟩

/-- The least of some keys is one of them, and there is none only if there are no keys. -/
theorem foldl_lesser_cases (ks : List String) (known : Option String) :
    (known = none ∧ ks = []) ∨ ∃ k, ks.foldl lesser known = some k ∧ (known = some k ∨ k ∈ ks) := by
  induction ks generalizing known with
  | nil =>
    cases known with
    | none => exact .inl ⟨rfl, rfl⟩
    | some k => exact .inr ⟨k, rfl, .inl rfl⟩
  | cons k ks ih =>
    obtain ⟨next, hnext, hfrom⟩ := lesser_cases known k
    obtain ⟨hnone, -⟩ | ⟨least, hleast, hmem⟩ := ih (some next)
    · cases hnone
    · refine .inr ⟨least, by rw [List.foldl_cons, hnext, hleast], ?_⟩
      rcases hmem with hmem | hmem
      · obtain rfl := Option.some.inj hmem
        exact hfrom.imp id fun heq => List.mem_cons.2 (.inl heq)
      · exact .inr (List.mem_cons_of_mem k hmem)

/-- Every key is a field's, or the least one that is not is found. -/
theorem unknownKey?_cases (merged : Listing String Value) :
    (unknownKey? merged = none ∧ ∀ k ∈ merged.keys, (Field.ofKey? k).isSome = true) ∨
      ∃ k, unknownKey? merged = some k ∧ k ∈ merged.keys ∧ Field.ofKey? k = none := by
  have hleast : unknownKey? merged =
      (merged.keys.filter fun k => (Field.ofKey? k).isNone).foldl lesser none := rfl
  rw [hleast]
  obtain ⟨-, hall⟩ | ⟨k, hk, hmem⟩ :=
    foldl_lesser_cases (merged.keys.filter fun k => (Field.ofKey? k).isNone) none
  · refine .inl ⟨by rw [hall]; rfl, fun k hk => ?_⟩
    rw [List.filter_eq_nil_iff] at hall
    simpa [Option.isSome_iff_ne_none] using hall k hk
  · obtain ⟨hkey, hunknown⟩ := List.mem_filter.1 (hmem.resolve_left nofun)
    exact .inr ⟨k, hk, hkey, by simpa using hunknown⟩

/-- The settings that entries give. -/
def givenBy (entries : List (String × Value)) : Settings :=
  ⟨fun f => ((entries.find? fun e => e.1 = f.key).map Prod.snd).getD f.default⟩

/-- A field is given by an entry, or it is as it is by default. -/
theorem get_givenBy (entries : List (String × Value)) (f : Field) :
    (givenBy entries).get f = f.default ∨ (f.key, (givenBy entries).get f) ∈ entries := by
  rw [givenBy]
  cases hfind : entries.find? fun e => e.1 = f.key with
  | none =>
    simp only [hfind]
    exact .inl rfl
  | some e =>
    have hkey : e.1 = f.key := by simpa using List.find?_some hfind
    simp only [hfind]
    exact .inr (hkey ▸ List.mem_of_find?_eq_some hfind)

variable {files : FileStore} {paths : List Path}

/-- **What merged entries end with**, if each is of its declared type or comes from a file. -/
theorem ends_ofMerged {merged : Listing String Value}
    (h : ∀ e ∈ merged.entries, IsTyped e ∨ FromFile files paths e) :
    Ends files paths (fun _ => True)
      (ofMerged files.host.showRoom merged) := by
  rw [ofMerged]
  obtain ⟨hnone, hknown⟩ | ⟨k, hk, hkey, hunknown⟩ := unknownKey?_cases merged
  · rw [hnone]
    dsimp only
    have hall : merged.entries.all (fun e => (Field.ofKey? e.1).isSome) = true :=
      List.all_eq_true.2 fun e he => hknown e.1 (List.mem_map_of_mem he)
    have hgiven : ofEntries merged.entries = (givenBy merged.entries).check := if_pos hall
    rw [hgiven]
    obtain hok | ⟨message, hbad⟩ | ⟨htype, hrule⟩ := check_cases (givenBy merged.entries)
    · rw [hok]
      trivial
    · rw [hbad]
      exact .told _ rfl
    · rw [htype]
      obtain ⟨f, hf, hset, hnumber⟩ := exists_of_inapplicable hrule
      rcases h _ ((get_givenBy merged.entries f).resolve_left hset) with ⟨g, hg, hadmits⟩ | hfile
      · -- A number is declared, so a value of the declared type could have been compared.
        obtain rfl : f = g := Field.key_injective hg
        have hreal : FieldType.real.admits ((givenBy merged.entries).get f) = true := by
          simp only [List.mem_cons, List.not_mem_nil, or_false] at hf
          rcases hf with rfl | rfl
          · exact FieldType.real_admits_of_int hadmits
          · exact hadmits
        exact nomatch hnumber.symm.trans hreal
      · obtain ⟨path, hpath, bytes, text, entries, hread, htext, hdocument, hmem⟩ := hfile
        exact .inr ⟨path, hpath, bytes, hread, .notNumber htext hdocument hf hmem hnumber⟩
  · rw [hk]
    obtain ⟨⟨k, v⟩, hentry, rfl⟩ := List.mem_map.1 hkey
    dsimp only at hunknown ⊢
    rw [Listing.mem_entries_iff.1 hentry, Option.getD_some]
    cases hshown : v.shown files.host.showRoom with
    | ok shown => exact .told _ rfl
    | error fault =>
      rcases h _ hentry with ⟨f, hf, -⟩ | hfile
      · dsimp only at hf
        rw [hf, Field.ofKey?_key] at hunknown
        cases hunknown
      · obtain ⟨path, hpath, bytes, text, entries, hread, htext, hdocument, hmem⟩ := hfile
        exact .inr ⟨path, hpath, bytes, hread, .unshown htext hdocument hunknown hmem hshown⟩

/-! ### Loading -/

/-- **What loading ends with.**  Let the home directory be known, let the places of the settings
files be looked up without refusal, and let the overrides be of their declared types.  Whatever the
files hold and the environment sets, loading gives settings, or it ends with a configuration
failure, or with what escapes from one of the files. -/
theorem load_outcome {files : FileStore} {env : Environment} {home : Path} {file : Option Path}
    {overrides : List (String × Value)} (hhome : homeDirectory files.host env = .ok home)
    (hprobe : ∀ path ∈ settingsFiles files home file, ∃ entry, files.probe path.toText = .ok entry)
    (hoverrides : ∀ e ∈ overrides, e.2 = .null ∨ IsTyped e) :
    (∃ s, load files env file overrides = .ok s) ∨
    (∃ f : Failure, load files env file overrides = .error (.failure f) ∧
      f.isConfiguration = true) ∨
    ∃ path ∈ settingsFiles files home file, ∃ bytes fault, files.read path.toText = .ok bytes ∧
      load files env file overrides = .error fault ∧ Escapes files.host bytes fault := by
  have hends : Ends files (settingsFiles files home file) (fun _ => True)
      (load files env file overrides) :=
    (ends_layers hhome hprobe hoverrides).bind fun layers hlayers => ends_ofMerged fun e he =>
      have ⟨layer, hlayer, hmem⟩ := mem_of_mem_merge he
      hlayers layer hlayer e hmem
  cases hload : load files env file overrides with
  | ok s => exact .inl ⟨s, rfl⟩
  | error fault =>
    rw [hload] at hends
    obtain ⟨f, rfl, hf⟩ | ⟨path, hpath, bytes, hread, hescapes⟩ := hends
    · exact .inr (.inl ⟨f, rfl, hf⟩)
    · exact .inr (.inr ⟨path, hpath, bytes, fault, hread, rfl, hescapes⟩)

/-! ### A settings file that gives text for a number -/

/-- A store with one settings file, in the working directory `/w`. -/
def oneFile (bytes : ByteArray) : FileStore where
  workingDirectory := ["w"]
  entries := Listing.empty.put ["w", "codetally.toml"] (.file bytes)

/-- A store with a settings file in the working directory `/w`. -/
def textForNumber : FileStore := oneFile "workers='two'".toUTF8

/-- A home that is set and absolute is the home directory, whatever the host. -/
theorem homeDirectory_h (host : Host) :
    homeDirectory host [("HOME", "/h")] = .ok (.ofText "/h") := by cbv

set_option maxRecDepth 4000 in
/-- The store of one file has no file of the home directory. -/
theorem oneFile_home (bytes : ByteArray) :
    (oneFile bytes).probe (Path.join (.ofText "/h") (.ofText homeFile)).toText = .ok none := by
  have hpath : (Path.join (.ofText "/h") (.ofText homeFile)).toText = "/h/.codetally.toml" := by
    cbv
  have hstat : (oneFile bytes).stat "/h/.codetally.toml" = .error .missing := by cbv
  rw [hpath, FileStore.probe, hstat]

set_option maxRecDepth 4000 in
/-- The store of one file has its file as that of the project. -/
theorem oneFile_project (bytes : ByteArray) :
    ((oneFile bytes).base.join (.ofText projectFile)).toText = "/w/codetally.toml" ∧
      (oneFile bytes).stat "/w/codetally.toml" = .ok (.file bytes) :=
  ⟨by cbv, by cbv⟩

/-- The store of the mistyped number has no file of the home directory. -/
theorem textForNumber_home :
    textForNumber.probe (Path.join (.ofText "/h") (.ofText homeFile)).toText = .ok none :=
  oneFile_home _

/-- The store of the mistyped number has its file as that of the project. -/
theorem textForNumber_project :
    (textForNumber.base.join (.ofText projectFile)).toText = "/w/codetally.toml" ∧
      textForNumber.stat "/w/codetally.toml" = .ok (.file "workers='two'".toUTF8) :=
  oneFile_project _

/-- The text is overridden by numbers, in the environment and by the caller. -/
theorem load_outcome_overridden :
    let files := textForNumber
    let env := [("HOME", "/h")]
    let overrides := [("workers", .int 4), ("language", .null)]
    (∀ path ∈ settingsFiles files (.ofText "/h") none,
      ∃ entry, files.probe path.toText = .ok entry) ∧
    ((∃ s, load files env none overrides = .ok s) ∨
      (∃ f : Failure, load files env none overrides = .error (.failure f) ∧
        f.isConfiguration = true) ∨
      ∃ path ∈ settingsFiles files (.ofText "/h") none, ∃ bytes fault,
        files.read path.toText = .ok bytes ∧ load files env none overrides = .error fault ∧
        Escapes files.host bytes fault) := by
  intro files env overrides
  obtain ⟨hpath, hstat⟩ := textForNumber_project
  have hprobe : ∀ path ∈ settingsFiles files (.ofText "/h") none,
      ∃ entry, files.probe path.toText = .ok entry := by
    intro path hmem
    simp only [settingsFiles, Option.toList_none, List.mem_cons, List.not_mem_nil, or_false] at hmem
    rcases hmem with rfl | rfl
    · exact ⟨_, textForNumber_home⟩
    · rw [hpath, FileStore.probe, hstat]
      exact ⟨_, rfl⟩
  have hoverrides : ∀ e ∈ overrides, e.2 = .null ∨ IsTyped e := by
    intro e he
    simp only [overrides, List.mem_cons, List.not_mem_nil, or_false] at he
    rcases he with rfl | rfl
    · exact .inr ⟨.workers, rfl, rfl⟩
    · exact .inl rfl
  exact ⟨hprobe, load_outcome (homeDirectory_h _) hprobe hoverrides⟩

/-- Whether a document gives a text under one key and nothing else. -/
def holdsText (key text : String) : Except Toml.TomlFault Toml.Entries → Bool
  | .ok [(k, .text s)] => decide (k = key ∧ s = text)
  | _ => false

/-- The check of a table with one text is right. -/
theorem eq_of_holdsText {key text : String} {r : Except Toml.TomlFault Toml.Entries}
    (h : holdsText key text r = true) : r = .ok [(key, .text text)] := by
  unfold holdsText at h
  split at h
  · obtain ⟨rfl, rfl⟩ := of_decide_eq_true h
    rfl
  · cases h

/-- Whether a result is a type fault. -/
def isTypeFault {α : Type} : Except Fault α → Bool
  | .error .wrongType => true
  | _ => false

/-- The check of a fault of type is right. -/
theorem eq_of_isTypeFault {α : Type} {r : Except Fault α} (h : isTypeFault r = true) :
    r = .error .wrongType := by
  unfold isTypeFault at h
  split at h
  · rfl
  · cases h

/-- The layer of the file. -/
theorem textForNumber_layer :
    optionalFile textForNumber (textForNumber.base.join (.ofText projectFile)) =
      .ok [("workers", .text "two")] := by
  obtain ⟨hpath, hstat⟩ := textForNumber_project
  have htext : Encoding.strictUtf8? "workers='two'".toUTF8.toList =
      some "workers='two'".toList := by decide +kernel
  have hdocument : Toml.document textForNumber.host.readRoom "workers='two'".toList =
      .ok [("workers", .text "two")] := eq_of_holdsText (by decide +kernel)
  have hread : textForNumber.read "/w/codetally.toml" = .ok "workers='two'".toUTF8 := by
    rw [FileStore.read, hstat]
    rfl
  rw [optionalFile, hpath, FileStore.probe, hstat]
  dsimp only
  rw [ofFile, hread]
  dsimp only
  rw [htext]
  dsimp only
  rw [hdocument]
  rfl

/-- Without an override, a type fault ends loading. -/
theorem load_textForNumber : load textForNumber [("HOME", "/h")] none [] = .error .wrongType := by
  have hmerged : ofMerged textForNumber.host.showRoom
      (merge [[], [("workers", .text "two")], [], [], []]) = .error .wrongType :=
    eq_of_isTypeFault (by decide +kernel)
  have hhome : optionalFile textForNumber (Path.join (.ofText "/h") (.ofText homeFile)) =
      .ok [] := by
    rw [optionalFile, textForNumber_home]
  have henvironment : environmentLayer [("HOME", "/h")] = .ok [] := by cbv
  have hlayers : layers textForNumber [("HOME", "/h")] none [] =
      .ok [[], [("workers", .text "two")], [], [], []] := by
    rw [layers, homeDirectory_h]
    refine bind_eq_ok_iff.2 ⟨_, rfl, bind_eq_ok_iff.2 ⟨_, hhome, ?_⟩⟩
    refine bind_eq_ok_iff.2 ⟨_, textForNumber_layer, bind_eq_ok_iff.2 ⟨[], rfl, ?_⟩⟩
    exact bind_eq_ok_iff.2 ⟨_, henvironment, rfl⟩
  rw [load, hlayers]
  exact hmerged

end Settings
end LineMetrics

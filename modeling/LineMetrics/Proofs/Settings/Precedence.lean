import LineMetrics.Proofs.Settings.Outcome

/-!
# Which source a setting comes from

Loading merges five layers, each of which wins over those before it (`get?_merge`), so a key has the
value of the strongest source that gives it one: `Sources.value?` (specification, section 8).  For
sources that can be read, `load_precedence` says what comes of it.  If every key is a field's, the
settings of a run give each field this value, and a field that no source gives is as it is by
default.  Otherwise the least key that is no field's is refused with its value, provided the value
can be shown in words: if not, that is what loading ends with.
-/

namespace LineMetrics

namespace Listing

variable {α β : Type} [DecidableEq α] {k : α} {v : β} {es : List (α × β)}

/-- The value of the last entry under a key. -/
def lastValue? (k : α) (es : List (α × β)) : Option β :=
  (es.reverse.find? fun e => e.1 = k).map Prod.snd

/-- The last value under a key is that of the rest, or else that of the head. -/
theorem lastValue?_cons (k : α) (e : α × β) (es : List (α × β)) :
    lastValue? k (e :: es) = (lastValue? k es).or (if k = e.1 then some e.2 else none) := by
  rw [lastValue?, lastValue?, List.reverse_cons, List.find?_append]
  cases es.reverse.find? fun e => e.1 = k with
  | some d => rfl
  | none =>
    by_cases hk : e.1 = k
    · simp [hk]
    · simp [hk, Ne.symm hk]

/-- The last value under a key is a value of the key. -/
theorem mem_of_lastValue? (h : lastValue? k es = some v) : (k, v) ∈ es := by
  obtain ⟨⟨a, b⟩, hfind, rfl⟩ := Option.map_eq_some_iff.1 h
  obtain rfl : a = k := by simpa using List.find?_some hfind
  exact List.mem_reverse.1 (List.mem_of_find?_eq_some hfind)

/-- A key has no last value if it has none at all. -/
theorem lastValue?_eq_none_iff : lastValue? k es = none ↔ ∀ v, (k, v) ∉ es := by
  rw [lastValue?, Option.map_eq_none_iff, List.find?_eq_none]
  constructor
  · intro h v hmem
    exact h (k, v) (List.mem_reverse.2 hmem) (by simp)
  · rintro h ⟨a, b⟩ hmem hk
    obtain rfl : a = k := by simpa using hk
    exact h b (List.mem_reverse.1 hmem)

/-- A key with only one value has that value. -/
theorem lastValue?_eq_some (hmem : (k, v) ∈ es) (honly : ∀ w, (k, w) ∈ es → w = v) :
    lastValue? k es = some v := by
  cases h : lastValue? k es with
  | none => exact absurd hmem (lastValue?_eq_none_iff.1 h v)
  | some w => rw [honly w (mem_of_lastValue? h)]

/-- In a listing, where each key stands once, the last value is the only one. -/
theorem lastValue?_entries (l : Listing α β) (k : α) : lastValue? k l.entries = l.get? k := by
  cases h : l.get? k with
  | none =>
    refine lastValue?_eq_none_iff.2 fun v hmem => ?_
    exact nomatch h.symm.trans (mem_entries_iff.1 hmem)
  | some v =>
    refine lastValue?_eq_some (mem_entries_iff.2 h) fun w hmem => ?_
    exact Option.some.inj ((mem_entries_iff.1 hmem).symm.trans h)

/-- Entries that are put one after the other leave the last value of each key. -/
theorem get?_foldl_put (es : List (α × β)) (l : Listing α β) (k : α) :
    (es.foldl (fun l e => l.put e.1 e.2) l).get? k = (lastValue? k es).or (l.get? k) := by
  induction es generalizing l with
  | nil => rfl
  | cons e es ih =>
    rw [List.foldl_cons, ih, get?_put, lastValue?_cons, Option.or_assoc]
    by_cases hk : k = e.1
    · simp [hk]
    · simp [hk]

/-- A listing that is made of entries has the last value of each key. -/
theorem get?_ofList (es : List (α × β)) (k : α) : (ofList es).get? k = lastValue? k es := by
  rw [ofList, get?_foldl_put, get?_empty, Option.or_none]

/-- **What is put in wins.** -/
theorem get?_update (l m : Listing α β) (k : α) :
    (l.update m).get? k = (m.get? k).or (l.get? k) := by
  rw [update, get?_foldl_put, lastValue?_entries]

theorem get?_eq_find? (l : Listing α β) (k : α) :
    l.get? k = (l.entries.find? fun e => e.1 = k).map Prod.snd := by
  rw [get?]
  induction l.entries with
  | nil => rfl
  | cons e es ih =>
    by_cases hk : e.1 = k
    · simp [lookup, hk]
    · simp [lookup, hk, ih]

/-- The keys of a listing are those it has a value for. -/
theorem mem_keys_iff {l : Listing α β} : k ∈ l.keys ↔ ∃ v, l.get? k = some v := by
  rw [keys, List.mem_map]
  constructor
  · rintro ⟨⟨_, v⟩, hmem, rfl⟩
    exact ⟨v, mem_entries_iff.1 hmem⟩
  · rintro ⟨v, hv⟩
    exact ⟨(k, v), mem_entries_iff.2 hv, rfl⟩

end Listing

/-- A key is unknown if it is no field's. -/
theorem Field.ofKey?_eq_none_iff {k : String} : ofKey? k = none ↔ ∀ f : Field, f.key ≠ k := by
  rw [ofKey?, List.find?_eq_none]
  simp only [decide_eq_true_eq, mem_all, forall_const, ne_eq]

/-- A known key is the key of its field. -/
theorem Field.key_of_ofKey? {k : String} {f : Field} (h : ofKey? k = some f) : f.key = k := by
  simpa using List.find?_some h

/-- A fold that collects what it picks of each item. -/
theorem foldlM_collect {α β ε : Type} {f : List β → α → Except ε (List β)} {pick : α → Option β}
    (hf : ∀ found a, f found a = .ok (found ++ (pick a).toList)) (as : List α) (found : List β) :
    as.foldlM f found = .ok (found ++ as.filterMap pick) := by
  induction as generalizing found with
  | nil =>
    rw [List.filterMap_nil, List.append_nil]
    rfl
  | cons a as ih =>
    rw [List.foldlM_cons, hf]
    refine (ih _).trans ?_
    rw [List.append_assoc, List.filterMap_cons]
    cases pick a with
    | none => rfl
    | some b => rfl

namespace Environment

open Listing (lastValue?)

/-- The value that the environment sets a field to, if it sets it to one. -/
def value? (env : Environment) (f : Field) : Option Value :=
  (env.get? (nameFor f)).bind fun s => (parse f.type s).toOption

/-- Whether every variable that is set can be read by the type of its field. -/
def IsReadable (env : Environment) : Prop :=
  ∀ f s, env.get? (nameFor f) = some s → ∃ v, parse f.type s = .ok v

variable {env : Environment}

/-- **What a readable environment sets,** in the order of the fields. -/
theorem settings_eq (h : env.IsReadable) :
    env.settings = .ok (Field.all.filterMap fun f => (env.value? f).map (f.key, ·)) := by
  rw [settings, ← List.nil_append (Field.all.filterMap _)]
  refine foldlM_collect (fun found f => ?_) Field.all []
  cases hget : env.get? (nameFor f) with
  | none =>
    have hvalue : env.value? f = none := by rw [value?, hget]; rfl
    rw [hvalue, Option.map_none, Option.toList_none, List.append_nil]
  | some s =>
    obtain ⟨v, hv⟩ := h f s hget
    have hvalue : env.value? f = some v := by rw [value?, hget, Option.bind_some, hv]; rfl
    dsimp only
    rw [hv, hvalue]
    rfl

/-- Each key has the value of its field. -/
theorem lastValue?_settings (env : Environment) (k : String) :
    lastValue? k (Field.all.filterMap fun f => (env.value? f).map (f.key, ·)) =
      (Field.ofKey? k).bind env.value? := by
  have hmem : ∀ {v}, (k, v) ∈ Field.all.filterMap (fun f => (env.value? f).map (f.key, ·)) ↔
      (Field.ofKey? k).bind env.value? = some v := by
    intro v
    simp only [List.mem_filterMap, Option.map_eq_some_iff, Prod.mk.injEq, Option.bind_eq_some_iff]
    constructor
    · rintro ⟨f, -, w, hw, rfl, rfl⟩
      exact ⟨f, Field.ofKey?_key f, hw⟩
    · rintro ⟨f, hf, hv⟩
      exact ⟨f, Field.mem_all f, v, hv, Field.key_of_ofKey? hf, rfl⟩
  cases hvalue : (Field.ofKey? k).bind env.value? with
  | none =>
    refine Listing.lastValue?_eq_none_iff.2 fun v hv => ?_
    exact nomatch hvalue.symm.trans (hmem.1 hv)
  | some v =>
    refine Listing.lastValue?_eq_some (hmem.2 hvalue) fun w hw => ?_
    exact Option.some.inj ((hmem.1 hw).symm.trans hvalue)

end Environment

namespace Settings

open Listing (lastValue?)

/-! ### The sources of a run -/

/-- **What a settings file holds:** the entries of the `codetally` table of its document, or those
of the document if there is no such table. -/
inductive FileHolds (files : FileStore) (path : String) : Toml.Entries → Prop
  | table {bytes : ByteArray} {text : List Char} {document table : Toml.Entries} :
      files.read path = .ok bytes → Encoding.strictUtf8? bytes.toList = some text →
      Toml.document files.host.readRoom text = .ok document →
      Toml.valueAt? tableName document = some (.table table) → FileHolds files path table
  | document {bytes : ByteArray} {text : List Char} {document : Toml.Entries} :
      files.read path = .ok bytes → Encoding.strictUtf8? bytes.toList = some text →
      Toml.document files.host.readRoom text = .ok document →
      (∀ table, Toml.valueAt? tableName document ≠ some (.table table)) →
      FileHolds files path document

/-- What the file at a path holds, nothing if there is none. -/
def OptionalHolds (files : FileStore) (path : Path) (entries : Toml.Entries) : Prop :=
  (files.probe path.toText = .ok none ∧ entries = []) ∨ FileHolds files path.toText entries

/-- What the file that was asked for holds, nothing if none was. -/
def RequestedHolds (files : FileStore) (file : Option Path) (entries : Toml.Entries) : Prop :=
  (file = none ∧ entries = []) ∨ ∃ path, file = some path ∧ FileHolds files path.toText entries

/-- What the sources of a run give. -/
structure Sources where
  /-- The entries of the file in the home directory. -/
  home : Toml.Entries
  /-- The entries of the file in the working directory. -/
  project : Toml.Entries
  /-- The entries of the file that was asked for. -/
  file : Toml.Entries
  /-- The environment variables. -/
  env : Environment
  /-- What the caller gives. -/
  overrides : List (String × Value)

namespace Sources

/-- Whether the sources are those of a run, and each of them can be read. -/
structure AreRead (src : Sources) (files : FileStore) (file : Option Path) : Prop where
  home : ∃ directory, homeDirectory files.host src.env = .ok directory ∧
    OptionalHolds files (directory.join (.ofText homeFile)) src.home
  project : OptionalHolds files (files.base.join (.ofText projectFile)) src.project
  file : RequestedHolds files file src.file
  env : src.env.IsReadable

/-- **The value of a key:** that of the strongest source that gives it one. -/
def value? (src : Sources) (k : String) : Option Value :=
  (lastValue? k (givenOverrides src.overrides)).or <|
    ((Field.ofKey? k).bind src.env.value?).or <|
      (lastValue? k src.file).or <|
        (lastValue? k src.project).or (lastValue? k src.home)

/-- What the environment gives, in the order of the fields. -/
def environment (src : Sources) : List (String × Value) :=
  Field.all.filterMap fun f => (src.env.value? f).map (f.key, ·)

/-- The sources as one listing. -/
def merged (src : Sources) : Listing String Value :=
  merge [src.home, src.project, src.file, src.environment, givenOverrides src.overrides]

end Sources

variable {files : FileStore} {path : Path} {file : Option Path} {entries : Toml.Entries}

/-- A document with a table of the program's own gives that table. -/
theorem ofDocument_of_table {document table : Toml.Entries}
    (h : Toml.valueAt? tableName document = some (.table table)) : ofDocument document = table := by
  rw [ofDocument, h]

/-- A document without one gives all of its entries. -/
theorem ofDocument_of_no_table {document : Toml.Entries}
    (h : ∀ table, Toml.valueAt? tableName document ≠ some (.table table)) :
    ofDocument document = document := by
  unfold ofDocument
  split
  · rename_i table hvalue
    exact absurd hvalue (h table)
  · rfl

/-- A file is read if its bytes are UTF-8 and its text is a document. -/
theorem ofFile_of_document {path : String} {bytes : ByteArray} {text : List Char}
    {document : Toml.Entries} (hread : files.read path = .ok bytes)
    (htext : Encoding.strictUtf8? bytes.toList = some text)
    (hdocument : Toml.document files.host.readRoom text = .ok document) :
    ofFile files path = .ok (ofDocument document) := by
  rw [ofFile, hread]
  dsimp only
  rw [htext]
  dsimp only
  rw [hdocument]

/-- **What a file gives is what it holds**, and it gives it only then. -/
theorem ofFile_eq_ok_iff {path : String} :
    ofFile files path = .ok entries ↔ FileHolds files path entries := by
  constructor
  · intro h
    rw [ofFile] at h
    cases hread : files.read path with
    | error fault => rw [hread] at h; cases h
    | ok bytes =>
      rw [hread] at h
      dsimp only at h
      cases htext : Encoding.strictUtf8? bytes.toList with
      | none => rw [htext] at h; cases h
      | some text =>
        rw [htext] at h
        dsimp only at h
        cases hdocument : Toml.document files.host.readRoom text with
        | error fault => rw [hdocument] at h; cases fault <;> cases h
        | ok document =>
          rw [hdocument] at h
          obtain rfl := Except.ok.inj h
          unfold ofDocument
          split
          · rename_i table hvalue
            exact .table hread htext hdocument hvalue
          · rename_i hnone
            exact .document hread htext hdocument fun table h => hnone table h
  · rintro (⟨hread, htext, hdocument, hvalue⟩ | ⟨hread, htext, hdocument, hnone⟩)
    · rw [ofFile_of_document hread htext hdocument, ofDocument_of_table hvalue]
    · rw [ofFile_of_document hread htext hdocument, ofDocument_of_no_table hnone]

/-- A file that is held is found. -/
theorem probe_of_fileHolds {path : String} (h : FileHolds files path entries) :
    ∃ entry, files.probe path = .ok (some entry) := by
  have hread : ∃ bytes, files.read path = .ok bytes := by
    cases h with
    | table hread => exact ⟨_, hread⟩
    | document hread => exact ⟨_, hread⟩
  obtain ⟨bytes, hread⟩ := hread
  obtain ⟨entry, hstat, -⟩ := bind_eq_ok_iff.1 hread
  exact ⟨entry, by rw [FileStore.probe, hstat]⟩

/-- A file that may be missing gives what it holds, or nothing. -/
theorem optionalFile_of_holds (h : OptionalHolds files path entries) :
    optionalFile files path = .ok entries := by
  rcases h with ⟨hprobe, rfl⟩ | hholds
  · rw [optionalFile, hprobe]
  · obtain ⟨entry, hprobe⟩ := probe_of_fileHolds hholds
    rw [optionalFile, hprobe]
    exact ofFile_eq_ok_iff.2 hholds

/-- A file that is asked for gives what it holds. -/
theorem requestedFile_of_holds (h : RequestedHolds files file entries) :
    requestedFile files file = .ok entries := by
  rcases h with ⟨rfl, rfl⟩ | ⟨path, rfl, hholds⟩
  · rfl
  · obtain ⟨entry, hprobe⟩ := probe_of_fileHolds hholds
    rw [requestedFile, hprobe]
    exact ofFile_eq_ok_iff.2 hholds

/-- Sources that can be read are merged. -/
theorem load_of_areRead {src : Sources} (h : src.AreRead files file) :
    load files src.env file src.overrides = ofMerged files.host.showRoom src.merged := by
  obtain ⟨directory, hdirectory, hhome⟩ := h.home
  have henvironment : environmentLayer src.env = .ok src.environment := by
    rw [environmentLayer, Environment.settings_eq h.env]
    rfl
  have hlayers : layers files src.env file src.overrides =
      .ok [src.home, src.project, src.file, src.environment, givenOverrides src.overrides] := by
    rw [layers, hdirectory]
    refine bind_eq_ok_iff.2 ⟨_, rfl, bind_eq_ok_iff.2 ⟨_, optionalFile_of_holds hhome, ?_⟩⟩
    refine bind_eq_ok_iff.2 ⟨_, optionalFile_of_holds h.project, ?_⟩
    refine bind_eq_ok_iff.2 ⟨_, requestedFile_of_holds h.file, ?_⟩
    exact bind_eq_ok_iff.2 ⟨_, henvironment, rfl⟩
  rw [load, hlayers]
  rfl

/-! ### Merging -/

/-- **The strongest layer wins:** merged sources show for each key the value that they give it. -/
theorem Sources.get?_merged (src : Sources) (k : String) : src.merged.get? k = src.value? k := by
  simp only [merged, environment, merge, List.foldl_cons, List.foldl_nil, Listing.get?_update,
    Listing.get?_ofList, Listing.get?_empty, Option.or_none, Environment.lastValue?_settings]
  rfl

/-- A key is merged if one of the sources has it. -/
theorem Sources.mem_keys_merged {src : Sources} {k : String} :
    k ∈ src.merged.keys ↔ ∃ v, src.value? k = some v := by
  rw [Listing.mem_keys_iff, src.get?_merged]

/-! ### Unknown keys -/

/-- The smallest key is no larger than those that were known or come after. -/
theorem foldl_lesser_le {ks : List String} {known : Option String} {k : String}
    (h : ks.foldl lesser known = some k) : (∀ l ∈ known, k ≤ l) ∧ ∀ l ∈ ks, k ≤ l := by
  induction ks generalizing known with
  | nil =>
    obtain rfl : known = some k := h
    exact ⟨fun l hl => Option.some.inj hl ▸ le_refl k, fun _ hl => (List.not_mem_nil hl).elim⟩
  | cons first ks ih =>
    rw [List.foldl_cons] at h
    obtain ⟨hnext, hks⟩ := ih h
    -- What is kept so far is at most what was known and at most the first key.
    have hkept : ∀ next ∈ lesser known first, (∀ l ∈ known, next ≤ l) ∧ next ≤ first := by
      intro next hmem
      cases known with
      | none =>
        obtain rfl : first = next := Option.some.inj hmem
        exact ⟨nofun, le_refl first⟩
      | some l =>
        by_cases hlt : first < l
        · obtain rfl : first = next := Option.some.inj ((if_pos hlt).symm.trans hmem)
          exact ⟨fun l' hl' => Option.some.inj hl' ▸ le_of_lt hlt, le_refl first⟩
        · obtain rfl : l = next := Option.some.inj ((if_neg hlt).symm.trans hmem)
          exact ⟨fun l' hl' => Option.some.inj hl' ▸ le_refl l, not_lt.1 hlt⟩
    obtain ⟨next, hmem, -⟩ := lesser_cases known first
    have hk : k ≤ next := hnext next hmem
    obtain ⟨hknown, hfirst⟩ := hkept next hmem
    exact ⟨fun l hl => hk.trans (hknown l hl),
      List.forall_mem_cons.2 ⟨hk.trans hfirst, hks⟩⟩

/-- **The least key that is no field's** is at most every other one. -/
theorem le_of_unknownKey? {merged : Listing String Value} {k : String}
    (h : unknownKey? merged = some k) {k' : String} (hmem : k' ∈ merged.keys)
    (hunknown : Field.ofKey? k' = none) : k ≤ k' := by
  have hleast : (merged.keys.filter fun k => (Field.ofKey? k).isNone).foldl lesser none =
      some k := h
  exact (foldl_lesser_le hleast).2 k' (List.mem_filter.2 ⟨hmem, by simp [hunknown]⟩)

/-- Merged entries of known keys are checked as the settings that they give. -/
theorem ofMerged_eq_ok_iff {room : Nat} {merged : Listing String Value}
    (hknown : ∀ k ∈ merged.keys, (Field.ofKey? k).isSome = true) {s : Settings} :
    ofMerged room merged = .ok s ↔
      s.check = .ok s ∧ ∀ f, s.get f = (merged.get? f.key).getD f.default := by
  have hnone : unknownKey? merged = none := by
    obtain ⟨hnone, -⟩ | ⟨k, -, hk, hunknown⟩ := unknownKey?_cases merged
    · exact hnone
    · exact absurd (hknown k hk) (by simp [hunknown])
  have hgiven : ofEntries merged.entries = (givenBy merged.entries).check :=
    if_pos (List.all_eq_true.2 fun e he => hknown e.1 (List.mem_map_of_mem he))
  have hget : ∀ f, (givenBy merged.entries).get f = (merged.get? f.key).getD f.default := by
    intro f
    rw [Listing.get?_eq_find?]
    rfl
  have hsame : (∀ f, s.get f = (merged.get? f.key).getD f.default) ↔
      givenBy merged.entries = s := by
    constructor
    · intro h
      have hfields : (givenBy merged.entries).get = s.get := funext fun f => by rw [hget, h]
      cases s
      exact congrArg Settings.mk hfields
    · rintro rfl
      exact hget
  rw [ofMerged, hnone, hsame]
  dsimp only
  rw [hgiven]
  constructor
  · intro h
    obtain hok | ⟨message, hbad⟩ | ⟨htype, -⟩ := check_cases (givenBy merged.entries)
    · rw [hok] at h
      obtain rfl := Except.ok.inj h
      exact ⟨hok, rfl⟩
    · rw [hbad] at h
      cases h
    · rw [htype] at h
      cases h
  · rintro ⟨hok, rfl⟩
    rw [hok]

/-- **What the merged entries of an unknown key end with:** the least one is refused with its value,
if that can be shown. -/
theorem ofMerged_of_unknown {room : Nat} {merged : Listing String Value} {k : String} {v : Value}
    (hk : unknownKey? merged = some k) (hv : merged.get? k = some v) :
    (v.shown room = .ok v → ofMerged room merged =
      .error (.failure (.invalidSetting k v "unknown configuration key"))) ∧
    ∀ fault, v.shown room = .error fault → ofMerged room merged = .error fault := by
  have hmerged : ofMerged room merged = (do
      let value ← v.shown room
      throw (.failure (.invalidSetting k value "unknown configuration key"))) := by
    rw [ofMerged, hk]
    dsimp only
    rw [hv, Option.getD_some]
  constructor
  · intro hshown
    rw [hmerged, hshown]
    rfl
  · intro fault hshown
    rw [hmerged, hshown]
    rfl

/-! ### Loading -/

/-- **Precedence, field by field.**  For sources that can each be read: if every key that they give
is a field's, loading gives the settings that pass the check and have for each field the value of
the strongest source that gives it one, and its default if none does.  Otherwise the least key that
is no field's is refused with the value of the strongest source that gives it, provided this value
can be shown; else loading ends with what showing it ends with. -/
theorem load_precedence {src : Sources} (h : src.AreRead files file) :
    let result := load files src.env file src.overrides
    ((∀ k v, src.value? k = some v → ∃ f : Field, f.key = k) →
      ∀ s, result = .ok s ↔
        s.check = .ok s ∧ ∀ f, s.get f = (src.value? f.key).getD f.default) ∧
    ((∃ k v, src.value? k = some v ∧ ∀ f : Field, f.key ≠ k) →
      ∃ k v, src.value? k = some v ∧ (∀ f : Field, f.key ≠ k) ∧
        (∀ k' v', src.value? k' = some v' → (∀ f : Field, f.key ≠ k') → k ≤ k') ∧
        (v.shown files.host.showRoom = .ok v →
          result = .error (.failure (.invalidSetting k v "unknown configuration key"))) ∧
        ∀ fault, v.shown files.host.showRoom = .error fault → result = .error fault) := by
  intro result
  have hresult : result = ofMerged files.host.showRoom src.merged := load_of_areRead h
  rw [hresult]
  constructor
  · intro hknown s
    have hkeys : ∀ k ∈ src.merged.keys, (Field.ofKey? k).isSome = true := by
      intro k hk
      obtain ⟨v, hv⟩ := Sources.mem_keys_merged.1 hk
      obtain ⟨f, rfl⟩ := hknown k v hv
      rw [Field.ofKey?_key]
      rfl
    rw [ofMerged_eq_ok_iff hkeys]
    simp only [src.get?_merged]
  · rintro ⟨k₀, v₀, hv₀, hunknown₀⟩
    obtain ⟨-, hknown⟩ | ⟨k, hk, hmem, hunknown⟩ := unknownKey?_cases src.merged
    · have hfield := hknown k₀ (Sources.mem_keys_merged.2 ⟨v₀, hv₀⟩)
      rw [Field.ofKey?_eq_none_iff.2 hunknown₀] at hfield
      cases hfield
    · obtain ⟨v, hv⟩ := Sources.mem_keys_merged.1 hmem
      obtain ⟨hshown, hhidden⟩ := ofMerged_of_unknown hk ((src.get?_merged k).trans hv)
      refine ⟨k, v, hv, Field.ofKey?_eq_none_iff.1 hunknown, ?_, hshown, hhidden⟩
      intro k' v' hv' hunknown'
      exact le_of_unknownKey? hk (Sources.mem_keys_merged.2 ⟨v', hv'⟩)
        (Field.ofKey?_eq_none_iff.2 hunknown')

/-! ### Sources that overlap, and a key whose value cannot be shown -/

/-- A value that the sources give a key stands in one of them. -/
theorem Sources.value?_cases {src : Sources} {k : String} {v : Value} (h : src.value? k = some v) :
    (k, v) ∈ src.overrides ∨ (∃ f : Field, f.key = k) ∨ (k, v) ∈ src.file ∨ (k, v) ∈ src.project ∨
      (k, v) ∈ src.home := by
  simp only [Sources.value?, Option.or_eq_some_iff] at h
  rcases h with h | ⟨-, h | ⟨-, h | ⟨-, h | ⟨-, h⟩⟩⟩⟩
  · exact .inl (List.mem_filter.1 (Listing.mem_of_lastValue? h)).1
  · obtain ⟨f, hf, -⟩ := Option.bind_eq_some_iff.1 h
    exact .inr (.inl ⟨f, Field.key_of_ofKey? hf⟩)
  · exact .inr (.inr (.inl (Listing.mem_of_lastValue? h)))
  · exact .inr (.inr (.inr (.inl (Listing.mem_of_lastValue? h))))
  · exact .inr (.inr (.inr (.inr (Listing.mem_of_lastValue? h))))

/-- A settings file with a table, in which one entry is for the workers. -/
def tabledText : String := "x=1\n[codetally]\nencoding='ascii'\nworkers=2"

/-- Reading the file of such a store. -/
theorem oneFile_read (bytes : ByteArray) :
    (oneFile bytes).read ((oneFile bytes).base.join (.ofText projectFile)).toText = .ok bytes := by
  obtain ⟨hpath, hstat⟩ := oneFile_project bytes
  rw [hpath, FileStore.read, hstat]
  rfl

/-- The file, the environment and the caller; the encoding is overridden by nothing but null. -/
def tabledSources : Sources where
  home := []
  project := [("encoding", .text "ascii"), ("workers", .int 2)]
  file := []
  env := [("HOME", "/h"), ("CODETALLY_WORKERS", "3")]
  overrides := [("encoding", .null), ("language", .text "c")]

/-- Whether a document gives a number, and a table of a text and a number. -/
def holdsTable : Except Toml.TomlFault Toml.Entries → Bool
  | .ok [(x, .int n), (t, .table [(k, .text s), (l, .int m)])] =>
    decide (x = "x" ∧ n = 1 ∧ t = tableName ∧ k = "encoding" ∧ s = "ascii" ∧ l = "workers" ∧ m = 2)
  | _ => false

/-- The check of a table within a table is right. -/
theorem eq_of_holdsTable {r : Except Toml.TomlFault Toml.Entries} (h : holdsTable r = true) :
    r = .ok [("x", .int 1), (tableName, .table tabledSources.project)] := by
  unfold holdsTable at h
  split at h
  · obtain ⟨rfl, rfl, rfl, rfl, rfl, rfl, rfl⟩ := of_decide_eq_true h
    rfl
  · cases h

/-- The environment sets the workers. -/
theorem tabledSources_get? (f : Field) :
    tabledSources.env.get? (Environment.nameFor f) = if f = .workers then some "3" else none := by
  have hall : ∀ f ∈ Field.all, tabledSources.env.get? (Environment.nameFor f) =
      if f = .workers then some "3" else none := by
    decide +kernel
  exact hall f f.mem_all

/-- A number in a variable is read as one. -/
theorem parse_three : Environment.parse Field.workers.type "3" = .ok (.int 3) := by cbv

/-- The sources of the tabled project can all be read. -/
theorem tabledSources_areRead : tabledSources.AreRead (oneFile tabledText.toUTF8) none where
  home := ⟨.ofText "/h", by cbv, .inl ⟨oneFile_home _, rfl⟩⟩
  project := by
    have htext : Encoding.strictUtf8? tabledText.toUTF8.toList = some tabledText.toList := by
      decide +kernel
    have hdocument : Toml.document Host.plain.readRoom tabledText.toList =
        .ok [("x", .int 1), (tableName, .table tabledSources.project)] :=
      eq_of_holdsTable (by decide +kernel)
    exact .inr (.table (oneFile_read _) htext hdocument (by cbv))
  file := .inl ⟨rfl, rfl⟩
  env := by
    intro f s h
    rw [tabledSources_get?, Option.ite_none_right_eq_some] at h
    obtain ⟨rfl, hs⟩ := h
    obtain rfl := Option.some.inj hs
    exact ⟨_, parse_three⟩

/-- The caller, the environment and the table each give a value that is not overridden. -/
theorem tabledSources_value? :
    tabledSources.value? Field.language.key = some (.text "c") ∧
    tabledSources.value? Field.workers.key = some (.int 3) ∧
    tabledSources.value? Field.encoding.key = some (.text "ascii") := by
  have hlanguage : lastValue? Field.language.key (givenOverrides tabledSources.overrides) =
      some (.text "c") := by cbv
  have hworkers : lastValue? Field.workers.key (givenOverrides tabledSources.overrides) =
      none := by cbv
  have hencoding : lastValue? Field.encoding.key (givenOverrides tabledSources.overrides) =
      none := by cbv
  have htable : lastValue? Field.encoding.key tabledSources.project = some (.text "ascii") := by
    cbv
  have hset : tabledSources.env.value? .workers = some (.int 3) := by
    rw [Environment.value?, tabledSources_get?, if_pos rfl, Option.bind_some, parse_three]
    rfl
  have hunset : tabledSources.env.value? .encoding = none := by
    rw [Environment.value?, tabledSources_get?]
    rfl
  refine ⟨?_, ?_, ?_⟩
  · rw [Sources.value?, hlanguage, Option.some_or]
  · rw [Sources.value?, hworkers, Option.none_or, Field.ofKey?_key, Option.bind_some, hset,
      Option.some_or]
  · rw [Sources.value?, hencoding, Option.none_or, Field.ofKey?_key, Option.bind_some, hunset,
      htable]
    rfl

/-- A key is given by the caller, or it is a field's. -/
theorem tabledSources_cases {overrides : List (String × Value)} {k : String} {v : Value}
    (h : { tabledSources with overrides := overrides }.value? k = some v) :
    (k, v) ∈ overrides ∨ ∃ f : Field, f.key = k := by
  obtain h | h | h | h | h := Sources.value?_cases h
  · exact .inl h
  · exact .inr h
  · exact absurd h List.not_mem_nil
  · simp only [tabledSources, List.mem_cons, List.not_mem_nil, Prod.mk.injEq, or_false] at h
    rcases h with ⟨rfl, -⟩ | ⟨rfl, -⟩
    · exact .inr ⟨.encoding, rfl⟩
    · exact .inr ⟨.workers, rfl⟩
  · exact absurd h List.not_mem_nil

/-- The settings of the run. -/
theorem load_precedence_tabled :
    let files := oneFile tabledText.toUTF8
    tabledSources.AreRead files none ∧
    (∀ k v, tabledSources.value? k = some v → ∃ f : Field, f.key = k) ∧
    ∃ s, load files tabledSources.env none tabledSources.overrides = .ok s ∧
      s.get .language = .text "c" ∧ s.get .workers = .int 3 ∧
      s.get .encoding = .text "ascii" := by
  have hknown : ∀ k v, tabledSources.value? k = some v → ∃ f : Field, f.key = k := by
    intro k v h
    refine (tabledSources_cases h).elim (fun hgiven => ?_) id
    simp only [List.mem_cons, List.not_mem_nil, Prod.mk.injEq, or_false] at hgiven
    rcases hgiven with ⟨rfl, -⟩ | ⟨rfl, -⟩
    · exact ⟨.encoding, rfl⟩
    · exact ⟨.language, rfl⟩
  let s : Settings := ⟨fun f => (tabledSources.value? f.key).getD f.default⟩
  have hvalid : s.verdicts.find? (fun v => v ≠ .valid) = none := by decide +kernel
  have hcheck : s.check = .ok s := by
    rw [check, hvalid]
  obtain ⟨hlanguage, hworkers, hencoding⟩ := tabledSources_value?
  refine ⟨tabledSources_areRead, hknown, s, ?_, ?_, ?_, ?_⟩
  · exact ((load_precedence tabledSources_areRead).1 hknown s).2 ⟨hcheck, fun _ => rfl⟩
  · exact congrArg (Option.getD · Field.language.default) hlanguage
  · exact congrArg (Option.getD · Field.workers.default) hworkers
  · exact congrArg (Option.getD · Field.encoding.default) hencoding

/-- The same sources, but that the caller gives an integer of 4301 digits under a key that is no
field's. -/
def unshownSources : Sources :=
  { tabledSources with overrides := [("x", .int (Int.pow 10 4300))] }

/-- The integer is refused in no configuration failure: it cannot be shown. -/
theorem load_unshown_key :
    let files := oneFile tabledText.toUTF8
    let src := unshownSources
    src.AreRead files none ∧ src.value? "x" = some (.int (Int.pow 10 4300)) ∧
    (∀ f : Field, f.key ≠ "x") ∧
    (∀ k v, src.value? k = some v → (∀ f : Field, f.key ≠ k) → k = "x") ∧
    load files src.env none src.overrides = .error (.badValue Numeral.unshowable) := by
  have hread : unshownSources.AreRead (oneFile tabledText.toUTF8) none :=
    { tabledSources_areRead with }
  have hvalue : unshownSources.value? "x" = some (.int (Int.pow 10 4300)) := by
    have hgiven : lastValue? "x" (givenOverrides unshownSources.overrides) =
        some (.int (Int.pow 10 4300)) := rfl
    rw [Sources.value?, hgiven, Option.some_or]
  have hx : ∀ f : Field, f.key ≠ "x" := by
    intro f
    cases f <;> decide
  have honly : ∀ k v, unshownSources.value? k = some v → (∀ f : Field, f.key ≠ k) → k = "x" := by
    intro k v h hunknown
    obtain hgiven | ⟨f, hf⟩ := tabledSources_cases h
    · exact (Prod.mk.inj (List.mem_singleton.1 hgiven)).1
    · exact absurd hf (hunknown f)
  have hkey : unknownKey? unshownSources.merged = some "x" := by
    obtain ⟨-, hknown⟩ | ⟨k, hk, hmem, hunknown⟩ := unknownKey?_cases unshownSources.merged
    · have hfield := hknown "x" (Sources.mem_keys_merged.2 ⟨_, hvalue⟩)
      rw [Field.ofKey?_eq_none_iff.2 hx] at hfield
      cases hfield
    · obtain ⟨v, hv⟩ := Sources.mem_keys_merged.1 hmem
      rw [hk, honly k v hv (Field.ofKey?_eq_none_iff.1 hunknown)]
  have hshown : (Value.int (Int.pow 10 4300)).shown Host.plain.showRoom =
      .error (.badValue Numeral.unshowable) := by
    have hlong : Value.isShowable (.int (Int.pow 10 4300)) = false := by decide +kernel
    rw [Value.shown, hlong]
    rfl
  refine ⟨hread, hvalue, hx, honly, ?_⟩
  have hload := load_of_areRead hread
  rw [hload]
  exact (ofMerged_of_unknown hkey ((unshownSources.get?_merged "x").trans hvalue)).2 _ hshown

end Settings
end LineMetrics

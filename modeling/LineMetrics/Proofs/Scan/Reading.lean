import LineMetrics.Proofs.Listing
import LineMetrics.Scanner

/-!
# Reading a file

This module is about the first half of scanning a file: reading its text and parsing it
(specification, section 4.1).  What can go wrong with the file alone is that it is too large, that
the operating system does not let it be opened or read, or that it is not well-formed; each is a
failure that tells why in words (`failure_of_parseFile`).

What is read depends on the entry that a path leads to, and not on the path, except that the words
of the operating system, when it does not let a file be opened, hold the path as it was given.  So
two paths of one entry are parsed alike up to that (`parseFile_respelled`).  Whatever visitors write
on the tree, the sheet is that of the file's resolved path (`path_of_finishedSheet`).
-/

namespace LineMetrics

section Steps

variable {ε α β : Type}

/-- Two steps give what the second makes of what the first gives. -/
theorem bind_eq_ok_iff {x : Except ε α} {f : α → Except ε β} {b : β} :
    x >>= f = .ok b ↔ ∃ a, x = .ok a ∧ f a = .ok b := by
  cases x with
  | error e => exact ⟨nofun, nofun⟩
  | ok a => exact ⟨fun h => ⟨a, rfl, h⟩, fun ⟨a', ha, h⟩ => Except.ok.inj ha ▸ h⟩

theorem map_eq_ok_iff {x : Except ε α} {f : α → β} {b : β} :
    x.map f = .ok b ↔ ∃ a, x = .ok a ∧ f a = b := by
  cases x with
  | error e => exact ⟨nofun, nofun⟩
  | ok a =>
    exact ⟨fun h => ⟨a, rfl, Except.ok.inj h⟩, fun ⟨a', ha, h⟩ => Except.ok.inj ha ▸ h ▸ rfl⟩

/-- What each step keeps, a fold keeps. -/
theorem foldlM_invariant {P : α → Prop} {f : α → β → Except ε α} {is : List β}
    (hstep : ∀ i ∈ is, ∀ a a', P a → f a i = .ok a' → P a') {a a' : α} (ha : P a)
    (h : is.foldlM f a = .ok a') : P a' := by
  induction is generalizing a with
  | nil => exact Except.ok.inj h ▸ ha
  | cons i is ih =>
    rw [List.foldlM_cons] at h
    obtain ⟨b, hb, h⟩ := bind_eq_ok_iff.1 h
    obtain ⟨hi, his⟩ := List.forall_mem_cons.1 hstep
    exact ih his (hi a b ha hb) h

/-- The fault of a fold is that of one of its steps. -/
theorem error_of_foldlM {P : ε → Prop} {f : α → β → Except ε α} {is : List β}
    (hstep : ∀ i ∈ is, ∀ a e, f a i = .error e → P e) {a : α} {e : ε}
    (h : is.foldlM f a = .error e) : P e := by
  induction is generalizing a with
  | nil => cases h
  | cons i is ih =>
    obtain ⟨hi, his⟩ := List.forall_mem_cons.1 hstep
    rw [List.foldlM_cons] at h
    cases hfirst : f a i with
    | error e' =>
      rw [hfirst] at h
      exact hi a e (hfirst.trans h)
    | ok b =>
      rw [hfirst] at h
      exact ih his h

/-- A sequence of checks passes if each check does. -/
theorem forM_eq_ok_iff {f : α → Except ε Unit} {as : List α} :
    as.forM f = .ok () ↔ ∀ a ∈ as, f a = .ok () := by
  induction as with
  | nil => exact iff_of_true rfl (List.forall_mem_nil _)
  | cons a as ih =>
    rw [List.forM, bind_eq_ok_iff, List.forall_mem_cons, ← ih]
    exact ⟨fun ⟨_, ha, has⟩ => ⟨ha, has⟩, fun ⟨ha, has⟩ => ⟨(), ha, has⟩⟩

/-- The fault of a sequence of checks is that of one of them. -/
theorem exists_of_forM_error {f : α → Except ε Unit} {as : List α} {e : ε}
    (h : as.forM f = .error e) : ∃ a ∈ as, f a = .error e := by
  induction as with
  | nil => exact nomatch h
  | cons a as ih =>
    rw [List.forM] at h
    cases ha : f a with
    | error e' =>
      rw [ha] at h
      obtain rfl := Except.error.inj h
      exact ⟨a, List.mem_cons_self, ha⟩
    | ok =>
      rw [ha] at h
      obtain ⟨b, hb, hfault⟩ := ih h
      exact ⟨b, List.mem_cons_of_mem _ hb, hfault⟩

/-- Two steps end with a fault only if one of them does. -/
theorem bind_ne_error {x : Except ε α} {f : α → Except ε β} {e : ε} (hx : x ≠ .error e)
    (hf : ∀ a, f a ≠ .error e) : x >>= f ≠ .error e := by
  cases x with
  | ok a => exact hf a
  | error e' => exact fun h => hx (congrArg Except.error (Except.error.inj h))

/-- The fault of two steps is that of one of them. -/
theorem bind_eq_error_iff {x : Except ε α} {f : α → Except ε β} {e : ε} :
    x >>= f = .error e ↔ x = .error e ∨ ∃ a, x = .ok a ∧ f a = .error e := by
  cases x with
  | error e' =>
    exact ⟨fun h => .inl (congrArg Except.error (Except.error.inj h)),
      fun h => h.elim (fun h => congrArg Except.error (Except.error.inj h)) nofun⟩
  | ok a => exact ⟨fun h => .inr ⟨a, rfl, h⟩, fun h => h.elim nofun fun ⟨_, ha, h⟩ =>
      Except.ok.inj ha ▸ h⟩

/-- A fault that is told in other words is the fault of the step, in those words. -/
theorem mapError_eq_error_iff {ε' : Type} {tell : ε → ε'} {x : Except ε α} {e : ε'} :
    x.mapError tell = .error e ↔ ∃ fault, x = .error fault ∧ tell fault = e := by
  cases x with
  | ok a => exact ⟨nofun, nofun⟩
  | error fault => exact ⟨fun h => ⟨fault, rfl, Except.error.inj h⟩,
      fun ⟨_, hfault, h⟩ => Except.error.inj hfault ▸ h ▸ rfl⟩

end Steps

/-- Whether the failure is that of a file that cannot be read or parsed. -/
def Failure.isOfFile : Failure → Bool
  | .fileAccess .. | .parse .. => true
  | _ => false

/-- The failures that are recorded for a file are among those of an analysis. -/
theorem Failure.isAnalysis_of_isOfFile {f : Failure} (h : f.isOfFile = true) :
    f.isAnalysis = true := by
  unfold isOfFile at h
  split at h
  · rfl
  · rfl
  · exact nomatch h

/-- A limit that there is not is no failure of a file. -/
theorem Settings.maxFileBytes_ne_failure (settings : Settings) (f : Failure) :
    settings.maxFileBytes ≠ .error (.failure f) := by
  unfold maxFileBytes
  split
  · exact nofun
  · exact nofun
  · dsimp only
    split <;> exact nofun
  · exact nofun

/-- A name that no encoding has is no failure of a file. -/
theorem Encoding.named_ne_failure (name : String) (f : Failure) :
    named name ≠ .error (.failure f) := by
  unfold named
  dsimp only
  split
  · exact nofun
  · split <;> exact nofun

/-- Decoding to units raises no failure of the scanner's own. -/
theorem Encoding.decodeUnits_ne_failure (encoding : Encoding) (bytes : List UInt8) (f : Failure) :
    encoding.decodeUnits bytes ≠ .error (.failure f) := by
  intro h
  unfold decodeUnits decodeMarked at h
  split at h <;> try contradiction
  -- Only an encoding that leaves the byte order to a mark refuses anything.
  all_goals
    split at h
    · contradiction
    · split at h
      · contradiction
      · cases Except.error.inj h

/-- Decoding raises no failure of the scanner's own: what it may raise is an error of its library.
-/
theorem Encoding.decode_ne_failure (encoding : Encoding) (bytes : List UInt8) (f : Failure) :
    encoding.decode bytes ≠ .error (.failure f) :=
  bind_ne_error (encoding.decodeUnits_ne_failure bytes f) fun _ => nofun

/-- A name that nothing decodes is no failure of a file. -/
theorem Host.decoder_ne_failure (host : Host) (name : String) (f : Failure) :
    host.decoder name ≠ .error (.failure f) := by
  unfold decoder
  split
  · exact nofun
  · rename_i fault hnamed
    split
    · exact nofun
    · intro h
      exact Encoding.named_ne_failure name f (hnamed.trans (congrArg _ (Except.error.inj h)))

/-- Bytes that an encoding refuses, defined by the library or not, are no failure of a file: an
encoding raises its fault. -/
theorem Host.decode_ne_failure {host : Host} {name : String}
    {decode : List UInt8 → Except Fault (List Char)} (h : host.decoder name = .ok decode)
    (bytes : List UInt8) (f : Failure) : decode bytes ≠ .error (.failure f) := by
  unfold decoder at h
  split at h
  · rename_i encoding _
    exact Except.ok.inj h ▸ encoding.decode_ne_failure bytes f
  · split at h
    · rename_i codec _
      obtain rfl := Except.ok.inj h
      unfold Codec.text
      intro hfailure
      split at hfailure <;> cases hfailure
    · cases h

/-- A parser's failures say why in words. -/
theorem Parser.failure_of_parse {parser : Parser} {catalog : Catalog} {key : String}
    {s : List Char} {f : Failure} (h : parser.parse catalog key s = .error f) :
    ∃ reason : String, f = .parse key parser.language.name reason := by
  unfold parse at h
  split at h
  all_goals
    split at h
    · exact nomatch h
    · exact ⟨_, (Except.error.inj h).symm⟩

/-- A parser's failures are the same in any room, and a tree that is too deep is none. -/
theorem Parser.parse_of_parseWithin_failure {parser : Parser} {room : Nat} {catalog : Catalog}
    {key : String} {s : List Char} {f : Failure}
    (h : parser.parseWithin room catalog key s = .error (.failure f)) :
    parser.parse catalog key s = .error f := by
  unfold parseWithin at h
  split at h
  · rename_i failure hparse
    exact hparse.trans (congrArg Except.error (Fault.failure.inj (Except.error.inj h)))
  · split at h
    · exact nomatch h
    · exact nomatch Except.error.inj h

/-- A tree that there is room for is the one that is parsed. -/
theorem Parser.parse_of_parseWithin {parser : Parser} {room : Nat} {catalog : Catalog}
    {key : String} {s : List Char} {tree : SyntaxTree}
    (h : parser.parseWithin room catalog key s = .ok tree) :
    parser.parse catalog key s = .ok tree := by
  unfold parseWithin at h
  split at h
  · exact nomatch h
  · rename_i hparse
    split at h
    · exact hparse.trans (congrArg Except.ok (Except.ok.inj h))
    · exact nomatch h

namespace Sheet

/-- Writing by steps that keep the path keeps the path. -/
theorem path_of_foldlM {α ε : Type} {f : Sheet → α → Except ε Sheet}
    (hf : ∀ {s a s'}, f s a = .ok s' → s'.path = s.path) {steps : List α} {s s' : Sheet}
    (h : steps.foldlM f s = .ok s') : s'.path = s.path :=
  foldlM_invariant (P := fun written : Sheet => written.path = s.path)
    (fun _ _ _ _ hpath hstep => (hf hstep).trans hpath) rfl h

/-- A write leaves the path of a sheet alone. -/
theorem path_of_write {s s' : Sheet} {w : Write} (h : s.write w = .ok s') : s'.path = s.path := by
  unfold write at h
  split at h
  · split_ifs at h
    exact Except.ok.inj h ▸ rfl
  · split_ifs at h
    exact Except.ok.inj h ▸ rfl
  · exact Except.ok.inj h ▸ rfl

/-- A write through a view leaves the path of the sheet alone. -/
theorem path_of_writeOwned {owned : List Metric} {s s' : Sheet} {w : Write}
    (h : s.writeOwned owned w = .ok s') : s'.path = s.path := by
  unfold writeOwned at h
  split at h
  · split_ifs at h
    exact path_of_write h
  · exact path_of_write h

end Sheet

/-- A visitor goes through if it has no fault and none of its writes is refused. -/
theorem Visitor.run_eq_ok_iff {v : Visitor} {tree : SyntaxTree} {s s' : Sheet} :
    v.run tree s = .ok s' ↔
      s.writeAll v.metrics (v.observe tree).writes = .ok s' ∧ (v.observe tree).fault = none := by
  rw [run]
  cases s.writeAll v.metrics (v.observe tree).writes with
  | error refused => exact ⟨nofun, nofun⟩
  | ok written =>
    cases (v.observe tree).fault with
    | some fault => exact ⟨nofun, nofun⟩
    | none =>
      exact ⟨fun h => ⟨congrArg Except.ok (Except.ok.inj h), rfl⟩,
        fun h => congrArg Except.ok (Except.ok.inj h.1)⟩

/-- A visitor leaves the path of the sheet alone. -/
theorem Visitor.path_of_run {v : Visitor} {tree : SyntaxTree} {s s' : Sheet}
    (h : v.run tree s = .ok s') : s'.path = s.path :=
  Sheet.path_of_foldlM Sheet.path_of_writeOwned (run_eq_ok_iff.1 h).1

/-- One visitor writes on a blank sheet. -/
theorem measure_singleton (v : Visitor) (tree : SyntaxTree) (path : String) :
    measure [v] tree path = v.run tree (.blank path) := by
  rw [measure, List.foldlM_cons]
  cases v.run tree (.blank path) <;> rfl

namespace Scanner

/-- Looking up the name of the encoding raises no failure of the scanner's own. -/
theorem encodingName_ne_failure (settings : Settings) (f : Failure) :
    encodingName settings ≠ .error (.failure f) := by
  unfold encodingName
  split
  · exact nofun
  · split <;> exact nofun
  · exact nofun

/-- A scan can start from the paths of regular files. -/
theorem requireRegular_eq_ok_iff {files : FileStore} {path : Path} :
    requireRegular files path = .ok () ↔
      ∃ entry, files.stat path.toText = .ok entry ∧ entry.isRegular = true := by
  unfold requireRegular FileStore.probe
  cases files.stat path.toText with
  | error fault => cases fault <;> simp [bind, Except.bind, throw, throwThe, MonadExceptOf.throw]
  | ok entry =>
    cases hregular : entry.isRegular <;>
      simp [bind, Except.bind, pure, Except.pure, throw, throwThe, MonadExceptOf.throw, hregular]

/-- A path that a scan cannot start from is not a matter of its file. -/
theorem isOfFile_of_requireRegular {files : FileStore} {path : Path} {f : Failure}
    (h : requireRegular files path = .error (.failure f)) : f.isOfFile = false := by
  unfold requireRegular FileStore.probe at h
  cases hstat : files.stat path.toText with
  | error fault =>
    rw [hstat] at h
    cases fault with
    | nameTooLong => exact nomatch Except.error.inj h
    | missing | notDirectory | isDirectory | tooManyLinks | refused refusal =>
      exact Fault.failure.inj (Except.error.inj h) ▸ rfl
  | ok entry =>
    rw [hstat] at h
    simp only [bind, Except.bind] at h
    split at h
    · exact nomatch h
    · exact Fault.failure.inj (Except.error.inj h) ▸ rfl

/-- The key of a file is the text of its resolved path. -/
theorem keyOf_eq_ok_iff {files : FileStore} {path : Path} {key : String} :
    keyOf files path = .ok key ↔
      path.hasNul = false ∧ ∃ resolved, files.resolve path = some resolved ∧
        resolved.toText = key := by
  unfold keyOf
  by_cases hnul : path.hasNul
  · simp [hnul]
  · cases hresolve : files.resolve path <;> simp [hnul]

section Reading

variable {files : FileStore} {catalog : Catalog} {settings : Settings} {visitors : List Visitor}
  {p q : Path} {entry : FileEntry} {key : String}

/-- What comes of one entry under two paths: the same, or faults that differ in the path alone.  The
reasons differ only if the operating system does not let the entry be opened. -/
inductive Respelled {α : Type} (entry : FileEntry) (p q : Path) :
    Except Fault α → Except Fault α → Prop
  | same (result : Except Fault α) : Respelled entry p q result result
  | access (reason : Value) : Respelled entry p q (.error (.failure (.fileAccess p.toText reason)))
      (.error (.failure (.fileAccess q.toText reason)))
  | unopened {fault : AccessFault} (h : entry.opened = .error fault) :
      Respelled entry p q (.error (accessFault p fault)) (.error (accessFault q fault))

/-- What differs in the path alone goes on alike. -/
theorem Respelled.bind {α β : Type} {x y : Except Fault α} (h : Respelled entry p q x y)
    (f : α → Except Fault β) : Respelled entry p q (x >>= f) (y >>= f) := by
  cases h with
  | same => exact .same _
  | access reason => exact .access reason
  | unopened hopened => exact .unopened hopened

/-- **The text of an entry** under two paths. -/
theorem textOf_respelled (settings : Settings) (host : Host) (entry : FileEntry) (p q : Path) :
    Respelled entry p q (textOf settings host p entry) (textOf settings host q entry) := by
  unfold textOf
  cases settings.maxFileBytes with
  | error fault => exact .same _
  | ok limit =>
    simp only [bind, Except.bind]
    split_ifs
    · exact .access _
    · cases encodingName settings with
      | error fault => exact .same _
      | ok name =>
        cases hopened : entry.opened with
        | error fault => exact .unopened hopened
        | ok _ =>
          dsimp only [Except.mapError]
          cases host.decoder name with
          | error fault => exact .same _
          | ok decode =>
            cases entry with
            | file bytes => exact .same _
            | directory => exact nomatch hopened
            | sealed size refusal =>
              -- What was opened is refused without its path.
              obtain ⟨number, words, atOpening⟩ := refusal
              cases atOpening with
              | true => exact nomatch hopened
              | false => exact .access _

section Acceptable

variable {host : Host} {limit : Int} {name : String}
  {decode : List UInt8 → Except Fault (List Char)}
  (hlimit : settings.maxFileBytes = .ok limit) (hname : encodingName settings = .ok name)

include hlimit hname

/-- An entry of acceptable size that cannot be opened is not decoded. -/
theorem textOf_of_unopened {fault : AccessFault} (hsize : ¬limit < entry.size)
    (hopened : entry.opened = .error fault) :
    textOf settings host p entry = .error (accessFault p fault) := by
  simp only [textOf, hlimit, bind, Except.bind, if_neg hsize, hname, hopened, Except.mapError]

/-- An entry that is opened is decoded as a whole. -/
theorem textOf_of_opened (hdecoder : host.decoder name = .ok decode)
    (hopened : entry.opened = .ok ()) :
    textOf settings host p entry =
      if limit < entry.size then
        .error (.failure
          (.fileAccess p.toText s!"file too large ({entry.size} bytes > {limit})"))
      else entry.bytes.mapError (accessFault p) >>= fun bytes => decode bytes.toList := by
  simp only [textOf, hlimit, bind, Except.bind, hname, hopened, hdecoder, Except.mapError]
  split_ifs <;> rfl

end Acceptable

/-- Reading a file is reading the entry that its path leads to. -/
theorem readText_of_stat (hp : files.stat p.toText = .ok entry) :
    readText settings files p = textOf settings files.host p entry := by
  rw [readText, hp]
  rfl

/-- **Two paths of one entry** are parsed alike. -/
theorem parseFile_respelled (hp : files.stat p.toText = .ok entry)
    (hq : files.stat q.toText = .ok entry) (parser : Parser) :
    Respelled entry p q (parseFile settings files catalog parser p key)
      (parseFile settings files catalog parser q key) := by
  rw [parseFile, parseFile, readText_of_stat hp, readText_of_stat hq]
  exact (textOf_respelled settings files.host entry p q).bind _

/-- A file that cannot be read fails for a reason in words. -/
theorem failure_of_textOf {host : Host} {f : Failure}
    (h : textOf settings host p entry = .error (.failure f)) :
    f.isOfFile = true ∧ ∃ reason, f.reason? = some (.text reason) := by
  have haccess : ∀ {α} {x : Except AccessFault α},
      x.mapError (accessFault p) = .error (.failure f) →
        f.isOfFile = true ∧ ∃ reason, f.reason? = some (.text reason) := by
    intro α x hx
    obtain ⟨fault, -, htold⟩ := mapError_eq_error_iff.1 hx
    obtain rfl := Fault.failure.inj htold
    exact ⟨rfl, _, rfl⟩
  unfold textOf at h
  rcases bind_eq_error_iff.1 h with h | ⟨limit, -, h⟩
  · exact absurd h (settings.maxFileBytes_ne_failure f)
  dsimp only at h
  split_ifs at h
  · obtain rfl := Fault.failure.inj (Except.error.inj h)
    exact ⟨rfl, _, rfl⟩
  rcases bind_eq_error_iff.1 h with h | ⟨name, -, h⟩
  · exact absurd h (encodingName_ne_failure settings f)
  rcases bind_eq_error_iff.1 h with h | ⟨_, -, h⟩
  · exact haccess h
  rcases bind_eq_error_iff.1 h with h | ⟨decode, hdecoder, h⟩
  · exact absurd h (host.decoder_ne_failure name f)
  rcases bind_eq_error_iff.1 h with h | ⟨bytes, -, h⟩
  · exact haccess h
  · exact absurd h (Host.decode_ne_failure hdecoder bytes.toList f)

/-- **A file's failures** tell why in words, and a scan may record them. -/
theorem failure_of_parseFile {parser : Parser} {f : Failure}
    (h : parseFile settings files catalog parser p key = .error (.failure f)) :
    f.isOfFile = true ∧ ∃ reason, f.reason? = some (.text reason) := by
  rcases bind_eq_error_iff.1 h with h | ⟨text, -, h⟩
  · rcases bind_eq_error_iff.1 h with h | ⟨entry, -, h⟩
    · obtain ⟨fault, -, htold⟩ := mapError_eq_error_iff.1 h
      obtain rfl := Fault.failure.inj htold
      exact ⟨rfl, _, rfl⟩
    · exact failure_of_textOf h
  · obtain ⟨reason, rfl⟩ :=
      Parser.failure_of_parse (Parser.parse_of_parseWithin_failure h)
    exact ⟨rfl, reason, rfl⟩

/-- The sheet that visitors write is that of their file. -/
theorem path_of_measure {tree : SyntaxTree} {written : Sheet}
    (h : measure visitors tree key = .ok written) : written.path = key :=
  Sheet.path_of_foldlM Visitor.path_of_run h

/-- The finished sheet of a file is the sheet of its key. -/
theorem path_of_finishedSheet {tree : SyntaxTree} {written : Sheet}
    (h : finishedSheet visitors tree key = .ok written) : written.path = key := by
  obtain ⟨sheet, hsheet, hfinished⟩ := bind_eq_ok_iff.1 h
  have hpath : sheet.path = key := path_of_measure hsheet
  exact Except.ok.inj hfinished ▸ hpath

/-- A strict examination lets every failure through. -/
theorem examine_strict (parser : Parser) :
    examine settings visitors files catalog true parser p key = (do
      let tree ← parseFile settings files catalog parser p key
      (finishedSheet visitors tree key).map .sheet) := by
  rw [examine]
  cases parseFile settings files catalog parser p key with
  | ok tree => rfl
  | error fault => cases fault <;> rfl

/-- A file that is parsed is examined the same way, strictly or not. -/
theorem examine_of_tree {parser : Parser} {tree : SyntaxTree}
    (h : parseFile settings files catalog parser p key = .ok tree) (strict : Bool) :
    examine settings visitors files catalog strict parser p key =
      (finishedSheet visitors tree key).map .sheet := by
  rw [examine, h]

/-- A sheet that is found is that of a tree. -/
theorem exists_tree_of_examine {strict : Bool} {parser : Parser} {written : Sheet}
    (h : examine settings visitors files catalog strict parser p key = .ok (.sheet written)) :
    ∃ tree, parseFile settings files catalog parser p key = .ok tree ∧
      finishedSheet visitors tree key = .ok written := by
  rw [examine] at h
  split at h
  · rename_i tree hparse
    obtain ⟨sheet, hsheet, heq⟩ := map_eq_ok_iff.1 h
    obtain rfl := Finding.sheet.inj heq
    exact ⟨tree, hparse, hsheet⟩
  · split at h
    · exact nomatch h
    · exact nomatch h
  · exact nomatch h

/-- A failure of its file ends an examination as the file's record. -/
theorem examine_of_failure {parser : Parser} {f : Failure} (hf : f.isOfFile = true)
    (h : parseFile settings files catalog parser p key = .error (.failure f)) :
    examine settings visitors files catalog false parser p key = .ok (.failure f) := by
  rw [examine, h]
  simp [Failure.isAnalysis_of_isOfFile hf]

end Reading

end Scanner
end LineMetrics

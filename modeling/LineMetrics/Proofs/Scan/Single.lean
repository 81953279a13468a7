import LineMetrics.Proofs.Scan.Run
import LineMetrics.Proofs.Storage.Spelling

/-!
# Scanning a single file

Scanning a single file gives the entity that its strict verdict publishes, or ends with the fault of
that verdict (`scanSingle_eq_verdict`; specification, section 4.1).  A scan that is not strict comes
to the same call, or it records as a failure what ends the strict scan (`verdict_cases`), so a batch
enters what the single scan of the same path says (`scanSingle_of_verdict`).

The verdict depends on the entry, its resolved path and the language, which is picked by the path as
it is spelled.  Where the language is the same, another spelling shows only in what is told about a
file that the operating system does not let be opened (`verdict_respelled`).
-/

namespace LineMetrics
namespace Scanner

section Verdict

variable {files : FileStore} {catalog : Catalog} {settings : Settings} {visitors : List Visitor}
  {p q : Path} {entry : FileEntry} {key : String}

/-- **A batch's verdict on a file** is the strict one, or it records the failure that ends the
strict scan. -/
theorem verdict_cases {c : Ledger.Call}
    (h : verdict files catalog settings visitors false p = .ok c) :
    keyOf files p = .ok c.path ∧
      (c.failure? = none ∧ verdict files catalog settings visitors true p = .ok c ∨
      ∃ f reason, c = .recordFailure c.path reason f ∧
        verdict files catalog settings visitors true p = .error (.failure f) ∧
        f.isOfFile = true ∧ f.reason? = some (.text reason)) := by
  obtain ⟨key, hkey, parser, hcreate, finding, hfinding, hdelivery⟩ := verdict_eq_ok_iff.1 h
  cases hparse : parseFile settings files catalog parser p key with
  | ok tree =>
    -- What was parsed is examined alike, strict or not.
    have hstrict := hfinding
    rw [examine_of_tree hparse, ← examine_of_tree hparse true] at hstrict
    rw [examine_of_tree hparse, map_eq_ok_iff] at hfinding
    obtain ⟨written, hwritten, rfl⟩ := hfinding
    obtain rfl := Finding.delivery_eq_ok hdelivery
    refine ⟨hkey.trans (congrArg _ (path_of_finishedSheet hwritten).symm), .inl ⟨rfl, ?_⟩⟩
    exact verdict_eq_ok_iff.2 ⟨key, hkey, parser, hcreate, _, hstrict, hdelivery⟩
  | error fault =>
    cases fault with
    | failure f =>
      obtain ⟨hf, reason, hreason⟩ := failure_of_parseFile hparse
      rw [examine_of_failure hf hparse] at hfinding
      obtain rfl := Except.ok.inj hfinding
      obtain rfl := Finding.delivery_eq_ok hdelivery
      refine ⟨hkey, .inr ⟨f, reason, ?_, ?_, hf, hreason⟩⟩
      · rw [Finding.call, hreason]
        rfl
      · simp only [verdict, hkey, hcreate, examine_strict, hparse, bind, Except.bind]
    | _ =>
      rw [examine, hparse] at hfinding
      cases hfinding

/-- A strict scan publishes or ends with a fault. -/
theorem failure?_of_verdict_strict {c : Ledger.Call}
    (h : verdict files catalog settings visitors true p = .ok c) : c.failure? = none := by
  obtain ⟨key, -, parser, -, finding, hfinding, hdelivery⟩ := verdict_eq_ok_iff.1 h
  rw [examine_strict, bind_eq_ok_iff] at hfinding
  obtain ⟨tree, -, hfinding⟩ := hfinding
  obtain ⟨written, -, rfl⟩ := map_eq_ok_iff.1 hfinding
  rw [Finding.delivery_eq_ok hdelivery]
  rfl

/-- **Two spellings of one file** that ask for one language have one strict verdict, but for the
path in the reason of a file that cannot be opened. -/
theorem verdict_respelled (hp : files.stat p.toText = .ok entry)
    (hq : files.stat q.toText = .ok entry) (hkey : keyOf files p = keyOf files q)
    (hlanguage : languageFor settings p = languageFor settings q) :
    Respelled entry p q (verdict files catalog settings visitors true p)
      (verdict files catalog settings visitors true q) := by
  rw [verdict, verdict, hkey, hlanguage]
  cases keyOf files q with
  | error fault => exact .same _
  | ok key =>
    cases (Parser.create catalog settings (languageFor settings q)).2 with
    | error fault => exact .same _
    | ok parser =>
      simp only [bind, Except.bind]
      rw [examine_strict, examine_strict]
      exact ((parseFile_respelled hp hq parser).bind _).bind _

/-- A new scanner has a blank ledger and nothing that an earlier scan could have left. -/
theorem create_spec (catalog : Catalog) {given : Option (List Visitor)} {s : Scanner}
    (h : create settings given none = .ok s) :
    s.Steady catalog settings s.visitors ∧ s.ledger = .ofProject (settings.get .projectName) := by
  obtain ⟨hsettings, -, hparser, hparsers, hledger⟩ := created_of_create h
  exact ⟨⟨hsettings, rfl, hparser, fun _ _ hkept => by rw [hparsers] at hkept; exact nomatch hkept⟩,
    hledger⟩

/-- A ledger with one call that publishes has one entity. -/
theorem fileEntities_of_call {project : Value} {c : Ledger.Call} {next : Ledger}
    (hc : c.failure? = none) (h : (Ledger.ofProject project).call c = .ok next) :
    ∃ entity, c.entity? project = some entity ∧ next.fileEntities = [entity] := by
  cases c with
  | recordFailure => exact nomatch hc
  | commit path measures annotations =>
    have hnext := Ledger.call_cases h
    refine ⟨_, rfl, ?_⟩
    simp only [Ledger.fileEntities, Ledger.fileEntity, hnext.files, hnext.project]
    rfl

/-- **A single file's scan** gives what the strict verdict publishes, or ends with its fault. -/
theorem scanSingle_eq_verdict (files : FileStore) (catalog : Catalog) (p : Path)
    {given : Option (List Visitor)} {s : Scanner} (h : create settings given none = .ok s) :
    (scanSingle files catalog p settings given).map some = (do
      requireRegular files p
      (verdict files catalog settings s.visitors true p).map
        (Ledger.Call.entity? (settings.get .projectName))) := by
  obtain ⟨hs, hledger⟩ := create_spec catalog h
  obtain ⟨s', hrun, -, hcall⟩ := run_scanFile hs files p true
  rw [hledger] at hrun hcall
  rw [scanSingle, h]
  cases requireRegular files p with
  | error fault => rfl
  | ok _ =>
    simp only [bind, Except.bind, hrun]
    cases hverdict : verdict files catalog settings s.visitors true p with
    | error fault => rfl
    | ok c =>
      obtain ⟨entity, hentity, hentities⟩ :=
        fileEntities_of_call (failure?_of_verdict_strict hverdict) (hcall c hverdict)
      simp only [Except.map, hentities, hentity]
      rfl

/-- What a single scan gives is what the strict verdict publishes. -/
theorem verdict_of_scanSingle {given : Option (List Visitor)} {s : Scanner} {entity : Entity}
    (hcreate : create settings given none = .ok s)
    (h : scanSingle files catalog p settings given = .ok entity) :
    requireRegular files p = .ok () ∧
      ∃ c, verdict files catalog settings s.visitors true p = .ok c ∧
        c.entity? (settings.get .projectName) = some entity := by
  have hsingle := scanSingle_eq_verdict files catalog p hcreate
  rw [h] at hsingle
  obtain ⟨_, hregular, hverdict⟩ := bind_eq_ok_iff.1 hsingle.symm
  exact ⟨hregular, map_eq_ok_iff.1 hverdict⟩

/-- A file's failure that ends a single scan is that of the strict verdict. -/
theorem verdict_of_scanSingle_error {given : Option (List Visitor)} {s : Scanner} {f : Failure}
    (hcreate : create settings given none = .ok s) (hf : f.isOfFile = true)
    (h : scanSingle files catalog p settings given = .error (.failure f)) :
    requireRegular files p = .ok () ∧
      verdict files catalog settings s.visitors true p = .error (.failure f) := by
  have hsingle := scanSingle_eq_verdict files catalog p hcreate
  rw [h] at hsingle
  cases hregular : requireRegular files p with
  | error fault =>
    rw [hregular] at hsingle
    obtain rfl : .failure f = fault := Except.error.inj hsingle
    exact absurd hf (Bool.eq_false_iff.1 (isOfFile_of_requireRegular hregular))
  | ok _ =>
    rw [hregular] at hsingle
    refine ⟨rfl, ?_⟩
    cases hc : verdict files catalog settings s.visitors true p with
    | error fault => rw [hc] at hsingle; exact congrArg Except.error (Except.error.inj hsingle).symm
    | ok c => rw [hc] at hsingle; exact nomatch hsingle

section Batched

variable {given : Option (List Visitor)} {s : Scanner} {c : Ledger.Call}

/-- **What a batch enters for a path** is what the single scan of the path says: its entity, or a
failure that cannot be read or parsed, with its reason. -/
theorem scanSingle_of_verdict (hcreate : create settings given none = .ok s)
    (hregular : requireRegular files p = .ok ())
    (h : verdict files catalog settings s.visitors false p = .ok c) :
    (∃ entity, scanSingle files catalog p settings given = .ok entity ∧
      c.entity? (settings.get .projectName) = some entity) ∨
    ∃ f reason, scanSingle files catalog p settings given = .error (.failure f) ∧
      f.isOfFile = true ∧ f.reason? = some (.text reason) ∧
      c = .recordFailure c.path reason f := by
  have hsingle := scanSingle_eq_verdict files catalog p hcreate
  rw [hregular] at hsingle
  obtain ⟨-, ⟨-, hstrict⟩ | ⟨f, reason, hrecord, hstrict, hf, hreason⟩⟩ := verdict_cases h
  · rw [hstrict] at hsingle
    obtain ⟨entity, hentity, heq⟩ := map_eq_ok_iff.1 hsingle
    exact .inl ⟨entity, hentity, heq.symm⟩
  · rw [hstrict] at hsingle
    refine .inr ⟨f, reason, ?_, hf, hreason, hrecord⟩
    cases hresult : scanSingle files catalog p settings given with
    | ok entity => rw [hresult] at hsingle; exact nomatch hsingle
    | error fault =>
      rw [hresult] at hsingle
      exact congrArg Except.error (Except.error.inj hsingle)

/-- What is told of one entry under two paths is the same, or the operating system does not let the
entry be opened and each time its words hold the path. -/
def SameReason (entry : FileEntry) (p q : Path) (reason reason' : String) : Prop :=
  reason = reason' ∨ ∃ fault, entry.opened = .error fault ∧ reason = fault.reason p.toText ∧
    reason' = fault.reason q.toText

variable (hcreate : create settings given none = .ok s)
  (hp : files.stat p.toText = .ok entry) (hq : files.stat q.toText = .ok entry)
  (hkey : keyOf files p = keyOf files q)
  (hlanguage : languageFor settings p = languageFor settings q)
  (hverdict : verdict files catalog settings s.visitors false p = .ok c)

include hcreate hp hq hkey hlanguage hverdict

/-- **Under another spelling** the entity of a single scan is the one that the batch enters. -/
theorem entity_of_scanSingle {entity : Entity}
    (h : scanSingle files catalog q settings given = .ok entity) :
    c.entity? (settings.get .projectName) = some entity := by
  obtain ⟨-, d, hd, hentity⟩ := verdict_of_scanSingle hcreate h
  have hsame : Respelled entry p q (verdict files catalog settings s.visitors true p)
      (verdict files catalog settings s.visitors true q) := verdict_respelled hp hq hkey hlanguage
  rw [hd] at hsame
  obtain ⟨-, ⟨-, hstrict⟩ | ⟨f, reason, -, hstrict, -⟩⟩ := verdict_cases hverdict
  · rw [hstrict] at hsame
    cases hsame
    exact hentity
  · rw [hstrict] at hsame
    cases hsame

/-- **Under another spelling** a single scan fails for the reason that the batch records. -/
theorem failure_of_scanSingle {f : Failure} (hf : f.isOfFile = true)
    (h : scanSingle files catalog q settings given = .error (.failure f)) :
    ∃ reason reason' cause, c = .recordFailure c.path reason cause ∧
      f.reason? = some (.text reason') ∧ SameReason entry p q reason reason' := by
  obtain ⟨-, hd⟩ := verdict_of_scanSingle_error hcreate hf h
  have hsame : Respelled entry p q (verdict files catalog settings s.visitors true p)
      (verdict files catalog settings s.visitors true q) := verdict_respelled hp hq hkey hlanguage
  rw [hd] at hsame
  obtain ⟨-, ⟨-, hstrict⟩ | ⟨cause, reason, hrecord, hstrict, -, hreason⟩⟩ :=
    verdict_cases hverdict
  · rw [hstrict] at hsame
    cases hsame
  · rw [hstrict] at hsame
    refine ⟨reason, ?_⟩
    cases hsame with
    | same => exact ⟨reason, _, hrecord, hreason, .inl rfl⟩
    | access told =>
      obtain rfl := Option.some.inj hreason
      exact ⟨reason, _, hrecord, rfl, .inl rfl⟩
    | @unopened fault hopened =>
      obtain rfl := Value.text.inj (Option.some.inj hreason)
      exact ⟨_, _, hrecord, rfl, .inr ⟨fault, hopened, rfl, rfl⟩⟩

end Batched

end Verdict

end Scanner
end LineMetrics

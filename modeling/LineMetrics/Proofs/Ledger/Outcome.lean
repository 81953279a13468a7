import LineMetrics.Proofs.Ledger.History

/-!
# Each path stands for its last outcome

A ledger keeps its measured files and its failures in two places (specification, section 4.4).
Together they are no more than the last accepted call about each path (`lastCalls`): the published
ones are the files, and the failed ones, in the order of these calls, are the failures.  The
invariant `Reflects` says so, and a further call takes the place of what was last said about its
path on both sides (`lastCalls_append_singleton`).
-/

namespace LineMetrics

/-- The id of the entity of a kind under a key. -/
def EntityId.ofKey : EntityKind → String → EntityId
  | .project, key => .project (.text key)
  | .file, key => .file key

namespace Ledger

namespace Call

/-- The record that a call publishes, under its path. -/
def record? : Call → Option (String × FileRecord)
  | .commit path measures annotations => some (path, ⟨measures, annotations⟩)
  | .recordFailure .. => none

/-- The failure that a call records. -/
def failure? : Call → Option FailureRecord
  | .commit .. => none
  | .recordFailure path reason cause => some ⟨path, reason, cause⟩

/-- The entity that a call publishes in a project. -/
def entity? (project : Value) : Call → Option Entity
  | .commit path measures annotations =>
    some ⟨.file path, some (.project project), measures, annotations⟩
  | .recordFailure .. => none

/-- The record that a call leaves is under its path. -/
theorem path_of_record? {c : Call} {e : String × FileRecord} (h : c.record? = some e) :
    e.1 = c.path := by
  cases c with
  | commit => exact Option.some.inj h ▸ rfl
  | recordFailure => exact nomatch h

/-- The failure that a call leaves is under its path. -/
theorem path_of_failure? {c : Call} {f : FailureRecord} (h : c.failure? = some f) :
    f.path = c.path := by
  cases c with
  | commit => exact nomatch h
  | recordFailure => exact Option.some.inj h ▸ rfl

end Call

/-- The calls with no later call about the same path, in order. -/
def lastCalls : List Call → List Call
  | [] => []
  | c :: rest => if c.path ∈ rest.map Call.path then lastCalls rest else c :: lastCalls rest

/-- The last calls are some of the calls, in their order. -/
theorem lastCalls_sublist : ∀ calls : List Call, (lastCalls calls).Sublist calls
  | [] => .slnil
  | c :: rest => by
    rw [lastCalls]
    split
    · exact (lastCalls_sublist rest).cons c
    · exact (lastCalls_sublist rest).cons_cons c

/-- Every path that is called about has a last call. -/
theorem mem_paths_lastCalls {path : String} : ∀ {calls : List Call},
    path ∈ (lastCalls calls).map Call.path ↔ path ∈ calls.map Call.path
  | [] => .rfl
  | c :: rest => by
    rw [lastCalls]
    split
    · rename_i hc
      rw [mem_paths_lastCalls, List.map_cons, List.mem_cons]
      exact ⟨.inr, fun h => h.elim (fun heq => heq ▸ hc) id⟩
    · rw [List.map_cons, List.map_cons, List.mem_cons, List.mem_cons, mem_paths_lastCalls]

/-- No two of the last calls are about one path. -/
theorem nodup_paths_lastCalls : ∀ calls : List Call, ((lastCalls calls).map Call.path).Nodup
  | [] => .nil
  | c :: rest => by
    rw [lastCalls]
    split
    · exact nodup_paths_lastCalls rest
    · rename_i hc
      rw [List.map_cons, List.nodup_cons, mem_paths_lastCalls]
      exact ⟨hc, nodup_paths_lastCalls rest⟩

/-- **A further call** takes the place of what was last said about its path. -/
theorem lastCalls_append_singleton (c : Call) : ∀ calls : List Call,
    lastCalls (calls ++ [c]) = (lastCalls calls).filter (fun d => d.path ≠ c.path) ++ [c]
  | [] => rfl
  | d :: rest => by
    have ih := lastCalls_append_singleton c rest
    simp only [List.cons_append, lastCalls, List.map_append, List.mem_append, List.map_singleton,
      List.mem_singleton, ih]
    by_cases hlater : d.path ∈ rest.map Call.path
    · rw [if_pos (.inl hlater), if_pos hlater]
    · by_cases hsame : d.path = c.path
      · rw [if_pos (.inr hsame), if_neg hlater, List.filter_cons_of_neg (by simpa using hsame)]
      · rw [if_neg (not_or.2 ⟨hlater, hsame⟩), if_neg hlater,
          List.filter_cons_of_pos (by simpa using hsame), List.cons_append]

/-- What calls leave behind for other paths is what the calls about other paths leave behind. -/
theorem filter_filterMap_path {β : Type} {f : Call → Option β} {key : β → String}
    (hf : ∀ {c b}, f c = some b → key b = c.path) (path : String) : ∀ calls : List Call,
    (calls.filterMap f).filter (fun b => key b ≠ path) =
      (calls.filter fun c => c.path ≠ path).filterMap f
  | [] => rfl
  | c :: rest => by
    have ih := filter_filterMap_path hf path rest
    cases hc : f c with
    | none =>
      rw [List.filterMap_cons_none hc, ih]
      by_cases hpath : c.path = path
      · rw [List.filter_cons_of_neg (by simpa using hpath)]
      · rw [List.filter_cons_of_pos (by simpa using hpath), List.filterMap_cons_none hc]
    | some b =>
      rw [List.filterMap_cons_some hc]
      by_cases hpath : c.path = path
      · rw [List.filter_cons_of_neg (by simpa [hf hc] using hpath), ih,
          List.filter_cons_of_neg (by simpa using hpath)]
      · rw [List.filter_cons_of_pos (by simpa [hf hc] using hpath), ih,
          List.filter_cons_of_pos (by simpa using hpath), List.filterMap_cons_some hc]

/-- The ledger holds the last outcome of each path that the calls are about, and nothing else. -/
structure Reflects (l : Ledger) (calls : List Call) : Prop where
  files : l.files.entries.Perm ((lastCalls calls).filterMap Call.record?)
  failures : l.failures = (lastCalls calls).filterMap Call.failure?

/-- A new ledger reflects that nothing was called. -/
theorem reflects_ofProject (name : Value) : (ofProject name).Reflects [] := ⟨.refl _, rfl⟩

namespace Reflects

variable {l next : Ledger} {calls : List Call}

/-- The files other than a path's are those of the last calls about other paths. -/
theorem files_elsewhere (hl : l.Reflects calls) (path : String) :
    (l.files.erase path).entries.Perm
      (((lastCalls calls).filter fun c => c.path ≠ path).filterMap Call.record?) := by
  rw [← filter_filterMap_path Call.path_of_record?]
  exact hl.files.filter _

/-- The failures other than a path's are those of the last calls about other paths. -/
theorem failures_elsewhere (hl : l.Reflects calls) (path : String) :
    l.failuresElsewhere path =
      ((lastCalls calls).filter fun c => c.path ≠ path).filterMap Call.failure? := by
  rw [← filter_filterMap_path Call.path_of_failure?, ← hl.failures, failuresElsewhere]

/-- **A call that is taken** leaves a ledger that reflects it too. -/
theorem call {c : Call} (hl : l.Reflects calls) (h : l.call c = .ok next) :
    next.Reflects (calls ++ [c]) := by
  have hnext := call_cases h
  cases c with
  | commit path measures annotations =>
    refine ⟨?_, ?_⟩
    · rw [hnext.files, lastCalls_append_singleton, List.filterMap_append]
      exact (Listing.put_entries_perm ..).trans ((hl.files_elsewhere path).append_right _)
    · rw [hnext.failures, lastCalls_append_singleton, List.filterMap_append, hl.failures_elsewhere]
      exact (List.append_nil _).symm
  | recordFailure path reason cause =>
    refine ⟨?_, ?_⟩
    · rw [hnext.files, lastCalls_append_singleton, List.filterMap_append]
      exact (hl.files_elsewhere path).trans (.of_eq (List.append_nil _).symm)
    · rw [hnext.failures, lastCalls_append_singleton, List.filterMap_append, hl.failures_elsewhere]
      rfl

/-- Refused calls are not reflected, because they leave the ledger as it is. -/
theorem run (hl : l.Reflects calls) (more : List Call) :
    (l.run more).Reflects (calls ++ l.accepted more) :=
  accepted_induction hl Reflects.call more

/-- The paths of the files and the failures are those that were called about, each once. -/
theorem paths (hl : l.Reflects calls) :
    (l.files.keys ++ l.failures.map FailureRecord.path).Perm ((lastCalls calls).map Call.path) := by
  rw [hl.failures]
  refine ((hl.files.map Prod.fst).append_right _).trans ?_
  induction lastCalls calls with
  | nil => exact .refl _
  | cons c rest ih =>
    cases c with
    | commit => exact ih.cons _
    | recordFailure path =>
      exact List.perm_middle.trans (ih.cons path)

end Reflects

/-- A history does not change the project's name. -/
theorem project_run (name : Value) (calls : List Call) :
    ((ofProject name).run calls).project = name := by
  refine run_induction (P := fun l => l.project = name) rfl (fun {l next c} hl h => ?_) calls
  have hnext := call_cases h
  cases c with
  | commit => exact hnext.project.trans hl
  | recordFailure => exact hnext.project.trans hl

/-- A file's entity is that of the record under its path. -/
theorem mem_fileEntities_iff {l : Ledger} {e : Entity} : e ∈ l.fileEntities ↔
    ∃ path r, l.files.get? path = some r ∧ e = l.fileEntity path r := by
  rw [fileEntities, List.mem_map]
  constructor
  · rintro ⟨⟨path, r⟩, hm, rfl⟩
    exact ⟨path, r, Listing.mem_entries_iff.1 hm, rfl⟩
  · rintro ⟨path, r, hr, rfl⟩
    exact ⟨(path, r), Listing.mem_entries_iff.2 hr, rfl⟩

/-- The entities of files are known by the paths of the files. -/
theorem map_id_search (l : Ledger) :
    (l.search .file).map Entity.id = l.files.keys.map EntityId.file := by
  rw [search, fileEntities, Listing.keys, List.map_map, List.map_map]
  rfl

/-- Looking an entity up finds what searching for it finds. -/
theorem find?_eq_some_iff {l : Ledger} {kind : EntityKind} {key : String} {e : Entity} :
    l.find? kind key = some e ↔ e ∈ l.search kind ∧ e.id = .ofKey kind key := by
  cases kind with
  | project =>
    rw [find?, search, List.mem_singleton, EntityId.ofKey]
    constructor
    · intro h
      split at h
      · rename_i name hname
        split_ifs at h with hkey
        obtain rfl := Option.some.inj h
        exact ⟨rfl, by rw [projectEntity, hname, hkey]⟩
      · exact nomatch h
    · rintro ⟨rfl, hid⟩
      have hname : l.project = .text key := EntityId.project.inj hid
      simp [hname]
  | file =>
    rw [find?, search, mem_fileEntities_iff, EntityId.ofKey, Option.map_eq_some_iff]
    constructor
    · rintro ⟨r, hr, rfl⟩
      exact ⟨⟨key, r, hr, rfl⟩, rfl⟩
    · rintro ⟨⟨path, r, hr, rfl⟩, hid⟩
      obtain rfl := EntityId.file.inj hid
      exact ⟨r, hr, rfl⟩

/-- **The ledger is the map from each path to its last outcome.**  After every history, of the calls
that were not refused: the file entities are those of the paths whose last call published them, as
it published them; the failures are those of the paths whose last call recorded them, in the order
of these calls; no path is listed twice, nor in both places.  The project is the one entity of its
kind, whatever it is called, and looking an entity up agrees with searching for it. -/
theorem run_eq_last_outcomes (name : Value) (calls : List Call) :
    let l := (ofProject name).run calls
    let last := lastCalls ((ofProject name).accepted calls)
    (l.search .file).Perm (last.filterMap (Call.entity? name)) ∧
    l.failures = last.filterMap Call.failure? ∧
    ((l.search .file).map Entity.id ++ l.failures.map fun f => EntityId.file f.path).Nodup ∧
    l.search .project = [⟨.project name, none, l.totals, .empty⟩] ∧
    ∀ kind key e, l.find? kind key = some e ↔ e ∈ l.search kind ∧ e.id = .ofKey kind key := by
  intro l last
  have hl : l.Reflects ((ofProject name).accepted calls) := (reflects_ofProject name).run calls
  have hname : l.project = name := project_run name calls
  refine ⟨?_, hl.failures, ?_, ?_, fun _ _ _ => find?_eq_some_iff⟩
  · have hentity : ∀ c : Call,
        c.record?.map (fun e => l.fileEntity e.1 e.2) = c.entity? name := by
      intro c
      cases c with
      | commit => rw [Call.record?, Option.map_some, fileEntity, hname, Call.entity?]
      | recordFailure => rfl
    have := hl.files.map fun e => l.fileEntity e.1 e.2
    rw [List.map_filterMap, funext hentity] at this
    exact this
  · have hids : (l.search .file).map Entity.id ++ l.failures.map (fun f => EntityId.file f.path) =
        (l.files.keys ++ l.failures.map FailureRecord.path).map EntityId.file := by
      rw [map_id_search, List.map_append, List.map_map]
      rfl
    rw [hids]
    have hpaths := hl.paths.nodup_iff.2 (nodup_paths_lastCalls _)
    exact List.Nodup.map (fun _ _ h => EntityId.file.inj h) hpaths
  · rw [search, projectEntity, hname]

end Ledger
end LineMetrics

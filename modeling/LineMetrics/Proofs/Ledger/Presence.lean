import LineMetrics.Proofs.Ledger.Conservation
import LineMetrics.Proofs.Ledger.Outcome

/-!
# Which metrics the totals hold

A total is entered when a file with its metric is published, and nothing takes it out again: taking
a file's measures back brings a total down to 0 at most (specification, section 4.1).  So the totals
hold the metrics that some accepted call has published (`Entered.totals`), while the files hold
those that the last call about some path has published (`Reflects.exists_file_iff`).  The two are
the same unless a metric has outlived the files that had it.
-/

namespace LineMetrics

namespace Listing

variable {α β : Type} [DecidableEq α]

/-- A listing contains the keys under which it has a value. -/
theorem contains_iff {l : Listing α β} {k : α} : l.contains k = true ↔ ∃ v, l.get? k = some v := by
  rw [contains, Option.isSome_iff_exists]

/-- An entry adds its key to a listing. -/
theorem contains_put (l : Listing α β) (k a : α) (v : β) :
    (l.put k v).contains a = (decide (a = k) || l.contains a) := by
  rw [contains, contains, get?_put]
  by_cases h : a = k <;> simp [h]

end Listing

namespace Measures

/-- Adding to a measure makes it present. -/
theorem contains_bump (ms : Measures) (k m : Metric) (amount : Int) :
    (ms.bump k amount).contains m = (decide (m = k) || ms.contains m) :=
  ms.contains_put k m _

/-- Bumping along entries enters the metrics that they have. -/
theorem contains_foldl_bump (sign : Int → Int) (m : Metric) (es : List (Metric × Int))
    (ts : Measures) :
    (es.foldl (fun ts e => ts.bump e.1 (sign e.2)) ts).contains m =
      (ts.contains m || (Listing.lookup m es).isSome) := by
  induction es generalizing ts with
  | nil => simp [Listing.lookup]
  | cons e rest ih =>
    obtain ⟨k, v⟩ := e
    rw [List.foldl_cons, ih, contains_bump, Listing.lookup]
    by_cases h : k = m
    · simp [h]
    · simp [h, Ne.symm h]

end Measures

namespace Ledger

/-- Crediting measures adds their metrics to the totals. -/
theorem contains_credit (ts ms : Measures) (m : Metric) :
    (credit ts ms).contains m = (ts.contains m || ms.contains m) :=
  Measures.contains_foldl_bump id m ms.entries ts

/-- Taking measures back takes no metric out. -/
theorem contains_withdraw (ts ms : Measures) (m : Metric) :
    (withdraw ts ms).contains m = (ts.contains m || ms.contains m) :=
  Measures.contains_foldl_bump Neg.neg m ms.entries ts

/-- Whether a call publishes a measure of a metric. -/
def Call.publishes (m : Metric) : Call → Bool
  | .commit _ measures _ => measures.contains m
  | .recordFailure .. => false

/-- A call publishes the metrics of the record that it leaves. -/
theorem Call.publishes_iff {m : Metric} {c : Call} :
    c.publishes m = true ↔ ∃ e, c.record? = some e ∧ e.2.measures.contains m = true := by
  cases c with
  | commit path measures annotations => simp [publishes, record?]
  | recordFailure => simp [publishes, record?]

section Step

variable {l next : Ledger} {m : Metric}

/-- **What a call leaves among the totals**: what was there, what it publishes, and what was
published for its path before. -/
theorem contains_of_call {c : Call} (h : l.call c = .ok next) (hm : m.scope = .file) :
    next.totals.contains m = true ↔ l.totals.contains m = true ∨ c.publishes m = true ∨
      ∃ earlier, l.files.get? c.path = some earlier ∧ earlier.measures.contains m = true := by
  have hne : m ≠ .files := fun heq => absurd (heq ▸ hm) (by decide)
  cases c with
  | commit path measures annotations =>
    rw [call, commit] at h
    cases hfault : publishFault? path measures with
    | some fault => rw [hfault] at h; cases h
    | none =>
      rw [hfault] at h
      obtain rfl := Except.ok.inj h
      cases hearlier : l.files.get? path <;>
        simp [contains_credit, contains_withdraw, Measures.contains_bump, Call.publishes,
          Call.path, hearlier, hne, or_assoc, or_comm]
  | recordFailure path reason cause =>
    rw [call, recordFailure] at h
    obtain rfl := Except.ok.inj h
    cases hearlier : l.files.get? path <;>
      simp [contains_withdraw, Measures.contains_bump, Call.publishes, Call.path, hearlier, hne]

end Step

/-- The totals hold the metrics that the calls have published. -/
structure Entered (l : Ledger) (calls : List Call) : Prop where
  totals : ∀ {m}, m.scope = .file →
    (l.totals.contains m = true ↔ ∃ c ∈ calls, c.publishes m = true)

/-- A new ledger has no totals. -/
theorem entered_ofProject (name : Value) : (ofProject name).Entered [] where
  totals _ := by simp [ofProject, Listing.contains]

namespace Reflects

variable {l : Ledger} {calls : List Call}

/-- A file's record is that of the last call about it. -/
theorem get?_iff (hl : l.Reflects calls) {path : String} {r : FileRecord} :
    l.files.get? path = some r ↔ ∃ c ∈ lastCalls calls, c.record? = some (path, r) := by
  rw [← Listing.mem_entries_iff, hl.files.mem_iff, List.mem_filterMap]

/-- **The files hold what the last calls publish.** -/
theorem exists_file_iff (hl : l.Reflects calls) {m : Metric} :
    (∃ e ∈ l.search .file, e.measures.contains m = true) ↔
      ∃ c ∈ lastCalls calls, c.publishes m = true := by
  constructor
  · rintro ⟨e, he, hm⟩
    obtain ⟨path, r, hr, rfl⟩ := mem_fileEntities_iff.1 he
    obtain ⟨c, hc, hrecord⟩ := hl.get?_iff.1 hr
    exact ⟨c, hc, Call.publishes_iff.2 ⟨_, hrecord, hm⟩⟩
  · rintro ⟨c, hc, hm⟩
    obtain ⟨⟨path, r⟩, hrecord, hr⟩ := Call.publishes_iff.1 hm
    exact ⟨_, mem_fileEntities_iff.2 ⟨path, r, hl.get?_iff.2 ⟨c, hc, hrecord⟩, rfl⟩, hr⟩

end Reflects

namespace Entered

variable {l next : Ledger} {calls : List Call}

/-- **A call that is taken** enters the metrics that it publishes, and no metric leaves the totals.
-/
theorem call {c : Call} (hl : l.Entered calls) (hfiles : l.Reflects calls)
    (h : l.call c = .ok next) : next.Entered (calls ++ [c]) where
  totals {m} hm := by
    have hearlier : (∃ earlier, l.files.get? c.path = some earlier ∧
        earlier.measures.contains m = true) → ∃ d ∈ calls, d.publishes m = true := by
      rintro ⟨earlier, hget, hcontains⟩
      obtain ⟨d, hd, hrecord⟩ := hfiles.get?_iff.1 hget
      exact ⟨d, (lastCalls_sublist calls).subset hd,
        Call.publishes_iff.2 ⟨_, hrecord, hcontains⟩⟩
    rw [contains_of_call h hm, hl.totals hm]
    constructor
    · rintro (⟨d, hd, hdm⟩ | hcm | hold)
      · exact ⟨d, List.mem_append_left _ hd, hdm⟩
      · exact ⟨c, List.mem_append_right _ List.mem_cons_self, hcm⟩
      · obtain ⟨d, hd, hdm⟩ := hearlier hold
        exact ⟨d, List.mem_append_left _ hd, hdm⟩
    · rintro ⟨d, hd, hdm⟩
      rcases List.mem_append.1 hd with hd | hd
      · exact .inl ⟨d, hd, hdm⟩
      · exact .inr (.inl (List.mem_singleton.1 hd ▸ hdm))

/-- After a history the totals hold what its accepted calls have published. -/
theorem run (hl : l.Entered calls) (hfiles : l.Reflects calls) (more : List Call) :
    (l.run more).Entered (calls ++ l.accepted more) := by
  have hboth := accepted_induction (P := fun l calls => l.Entered calls ∧ l.Reflects calls)
    ⟨hl, hfiles⟩ (fun h hcall => ⟨h.1.call h.2 hcall, h.2.call hcall⟩) more
  exact hboth.1

end Entered

/-- The metric has been published, and no last call about a path publishes it. -/
def Outlived (calls : List Call) (m : Metric) : Prop :=
  (∃ c ∈ calls, c.publishes m = true) ∧ ¬ ∃ c ∈ lastCalls calls, c.publishes m = true

/-- A total that no file has a share in stands at 0. -/
theorem Balanced.get?_of_no_file {l : Ledger} (hl : l.Balanced) {m : Metric} (hm : m.scope = .file)
    (hcontains : l.totals.contains m = true)
    (hnone : ¬ ∃ e ∈ l.search .file, e.measures.contains m = true) : l.totals.get? m = some 0 := by
  obtain ⟨v, hv⟩ := Listing.contains_iff.1 hcontains
  have hzero : ∀ e ∈ l.search .file, e.measures.total m = 0 := by
    intro e he
    have hget : e.measures.get? m = none := by
      cases hget : e.measures.get? m with
      | none => rfl
      | some w => exact absurd ⟨e, he, Listing.contains_iff.2 ⟨w, hget⟩⟩ hnone
    rw [Measures.total, hget, Option.getD_none]
  have hsum := hl.total_of_file hm
  rw [List.map_congr_left hzero, Measures.total, hv, Option.getD_some] at hsum
  rw [hv, hsum]
  simp

/-- **Totals hold what was ever published, files what was published last.**  After every history, of
the calls that were not refused: a metric of file scope is among the project's measures if and only
if some call published it, and among those of some file if and only if a last call about a path
published it.  The project's measures are therefore those that some file has exactly when no metric
has outlived the files that had it, and one that has stands at 0 among them. -/
theorem projectEntity_run_contains (name : Value) (calls : List Call) (m : Metric)
    (hm : m.scope = .file) :
    let l := (ofProject name).run calls
    let taken := (ofProject name).accepted calls
    (l.projectEntity.measures.contains m = true ↔ ∃ c ∈ taken, c.publishes m = true) ∧
    ((∃ e ∈ l.search .file, e.measures.contains m = true) ↔
      ∃ c ∈ lastCalls taken, c.publishes m = true) ∧
    ((l.projectEntity.measures.contains m = true ↔
        ∃ e ∈ l.search .file, e.measures.contains m = true) ↔ ¬ Outlived taken m) ∧
    (Outlived taken m → l.projectEntity.measures.get? m = some 0) := by
  intro l taken
  have hfiles : l.Reflects taken := (reflects_ofProject name).run calls
  have htotals : l.projectEntity.measures.contains m = true ↔
      ∃ c ∈ taken, c.publishes m = true :=
    ((entered_ofProject name).run (reflects_ofProject name) calls).totals hm
  have hfile := hfiles.exists_file_iff (m := m)
  refine ⟨htotals, hfile, ?_, fun houtlived => ?_⟩
  · have hlast : (∃ c ∈ lastCalls taken, c.publishes m = true) →
        ∃ c ∈ taken, c.publishes m = true :=
      fun ⟨c, hc, hcm⟩ => ⟨c, (lastCalls_sublist taken).subset hc, hcm⟩
    rw [htotals, hfile]
    exact ⟨fun h houtlived => houtlived.2 (h.1 houtlived.1),
      fun h => ⟨fun hm => not_not.1 fun hnone => h ⟨hm, hnone⟩, hlast⟩⟩
  · exact (balanced_run name calls).get?_of_no_file hm (htotals.2 houtlived.1)
      (hfile.not.2 houtlived.2)

/-- The totals of a history in which a metric has outlived its file. -/
theorem projectEntity_mixedHistory_contains :
    Metric.linesOfCode.scope = .file ∧
      let l := (ofProject "P").run mixedHistory
      (l.projectEntity.measures.contains .linesOfCode = true ↔
        ∃ e ∈ l.search .file, e.measures.contains .linesOfCode = true) ∧
      l.projectEntity.measures.get? .commentLines = some 0 :=
  ⟨rfl, (projectEntity_run_contains "P" mixedHistory .linesOfCode rfl).2.2.1.2
      (by unfold Outlived; decide),
    (projectEntity_run_contains "P" mixedHistory .commentLines rfl).2.2.2
      (by unfold Outlived; decide)⟩

/-- The one file that had lines is gone, and the project still has lines, none. -/
theorem lines_outlive_their_file :
    let l := (ofProject "P").run
      [.commit "/a.m" (.ofList [(.lines, 3)]) .empty,
       .recordFailure "/a.m" "boom" (.general "boom" [])]
    Metric.lines.scope = .file ∧ l.projectEntity.measures.get? .lines = some 0 ∧
      ¬ (l.projectEntity.measures.contains .lines = true ↔
        ∃ e ∈ l.search .file, e.measures.contains .lines = true) := by
  decide

end Ledger
end LineMetrics

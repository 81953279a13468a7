import LineMetrics.Ledger
import LineMetrics.Proofs.Listing

/-!
# Histories of a ledger

A history is a sequence of calls on a ledger: publish a file's measures, or record its failure
(specification, section 4.4).  A call that is refused leaves the ledger as it is.  `call_cases` says
all that an accepted call does; what holds along histories is derived from it.
-/

namespace LineMetrics

namespace Measures

/-- **Bumping a metric** changes its own total and no other. -/
theorem total_bump (ms : Measures) (k m : Metric) (amount : Int) :
    (ms.bump k amount).total m = ms.total m + if m = k then amount else 0 := by
  rw [bump, total, Listing.get?_put]
  split
  · rename_i h
    rw [h, Option.getD_some]
  · rw [total, Int.add_zero]

/-- Bumping along entries with different metrics adds what stands under each metric. -/
theorem total_foldl_bump (sign : Int → Int) (m : Metric) :
    ∀ {es : List (Metric × Int)}, (es.map Prod.fst).Nodup → ∀ ts : Measures,
      (es.foldl (fun ts e => ts.bump e.1 (sign e.2)) ts).total m =
        ts.total m + ((Listing.lookup m es).map sign).getD 0
  | [], _, ts => by simp [Listing.lookup]
  | (k, v) :: rest, h, ts => by
    rw [List.map_cons, List.nodup_cons] at h
    rw [List.foldl_cons, total_foldl_bump sign m h.2, total_bump, Listing.lookup]
    by_cases hk : k = m
    · subst hk
      rw [Listing.lookup_eq_none_iff.2 h.1, if_pos rfl, if_pos rfl]
      simp
    · rw [if_neg (Ne.symm hk), if_neg hk, Int.add_zero]

end Measures

/-- Measures that a file may carry: of file scope and not negative. -/
def Measures.Publishable (ms : Measures) : Prop :=
  ∀ m v, ms.get? m = some v → m.scope = .file ∧ 0 ≤ v

namespace Measures.Publishable

variable {ms : Measures}

/-- What can be published is nowhere below 0. -/
theorem total_nonneg (h : ms.Publishable) (m : Metric) : 0 ≤ ms.total m := by
  rw [total]
  cases hm : ms.get? m with
  | none => simp
  | some v => exact (h m v hm).2

/-- What can be published says nothing of the number of files. -/
theorem total_files (h : ms.Publishable) : ms.total .files = 0 := by
  rw [total]
  cases hm : ms.get? .files with
  | none => rfl
  | some v => exact absurd (h .files v hm).1 (by decide)

end Measures.Publishable

namespace FileRecord

/-- What a file adds to the project's total of a metric: itself to the number of files, and its own
measure to every other metric. -/
def share (r : FileRecord) (m : Metric) : Int :=
  match m.scope with
  | .project => 1
  | .file => r.measures.total m

/-- The share of a file is what it was published with, and 1 in the number of files. -/
theorem share_eq {r : FileRecord} (h : r.measures.Publishable) (m : Metric) :
    r.share m = (if m = .files then 1 else 0) + r.measures.total m := by
  cases m with
  | files => rw [share, h.total_files]; rfl
  | lines | linesOfCode | commentLines | commentBlankLines => simp [share, Metric.scope]

end FileRecord

namespace Ledger

/-- Publishing meets no fault exactly with measures that can be published. -/
theorem publishFault?_eq_none_iff {path : String} {ms : Measures} :
    publishFault? path ms = none ↔ ms.Publishable := by
  rw [publishFault?, List.findSome?_eq_none_iff]
  constructor
  · intro h m v hm
    have := h (m, v) (Listing.mem_entries_iff.2 hm)
    dsimp only at this
    split_ifs at this with hs hv
    exact ⟨not_not.1 hs, by omega⟩
  · rintro h ⟨m, v⟩ hm
    obtain ⟨hs, hv⟩ := h m v (Listing.mem_entries_iff.1 hm)
    simp [hs, Int.not_lt.2 hv]

/-- Crediting measures adds them to the totals. -/
theorem total_credit (ts ms : Measures) (m : Metric) :
    (credit ts ms).total m = ts.total m + ms.total m := by
  have h := Measures.total_foldl_bump id m ms.nodup ts
  rw [Option.map_id] at h
  exact h

/-- Withdrawing measures takes them from the totals. -/
theorem total_withdraw (ts ms : Measures) (m : Metric) :
    (withdraw ts ms).total m = ts.total m - ms.total m := by
  rw [withdraw, Measures.total_foldl_bump Neg.neg m ms.nodup, Measures.total.eq_def ms,
    Listing.get?]
  cases Listing.lookup m ms.entries with
  | none => simp
  | some v => simp [Int.sub_eq_add_neg]

/-- A call on a ledger. -/
inductive Call
  | commit (path : String) (measures : Measures) (annotations : Annotations)
  | recordFailure (path reason : String) (cause : Failure)

/-- The path that a call is about. -/
def Call.path : Call → String
  | .commit path .. | .recordFailure path .. => path

/-- The ledger after a call, or why the call is refused. -/
def call (l : Ledger) : Call → Except PublishFault Ledger
  | .commit path measures annotations => (l.commit path measures annotations).map Prod.fst
  | .recordFailure path reason cause => .ok (l.recordFailure path reason cause).1

/-- The ledger after a call; one that is refused leaves it as it is. -/
def step (l : Ledger) (c : Call) : Ledger :=
  match l.call c with
  | .ok next => next
  | .error _ => l

/-- The ledger after a history. -/
def run (l : Ledger) (calls : List Call) : Ledger := calls.foldl step l

/-- What publishing a record for a path makes of a ledger. -/
structure Published (l : Ledger) (path : String) (r : FileRecord) (next : Ledger) : Prop where
  publishable : r.measures.Publishable
  project : next.project = l.project
  files : next.files = l.files.put path r
  failures : next.failures = l.failuresElsewhere path
  totals : ∀ m, next.totals.total m = l.totals.total m + r.measures.total m +
    match l.files.get? path with
    | some earlier => -earlier.measures.total m
    | none => if m = .files then 1 else 0

/-- What recording a failure makes of a ledger. -/
structure Withdrawn (l : Ledger) (f : FailureRecord) (next : Ledger) : Prop where
  project : next.project = l.project
  files : next.files = l.files.erase f.path
  failures : next.failures = l.failuresElsewhere f.path ++ [f]
  totals : ∀ m, next.totals.total m = l.totals.total m +
    match l.files.get? f.path with
    | some earlier => -earlier.measures.total m - if m = .files then 1 else 0
    | none => 0

/-- **All that an accepted call does.** -/
theorem call_cases {l next : Ledger} {c : Call} (h : l.call c = .ok next) :
    match c with
    | .commit path measures annotations => Published l path ⟨measures, annotations⟩ next
    | .recordFailure path reason cause => Withdrawn l ⟨path, reason, cause⟩ next := by
  cases c with
  | commit path measures annotations =>
    rw [call, commit] at h
    cases hfault : publishFault? path measures with
    | some fault => rw [hfault] at h; exact nomatch h
    | none =>
      rw [hfault] at h
      obtain rfl := Except.ok.inj h
      refine ⟨publishFault?_eq_none_iff.1 hfault, rfl, rfl, rfl, fun m => ?_⟩
      cases hearlier : l.files.get? path with
      | some earlier =>
        simp only [total_credit, total_withdraw]
        omega
      | none =>
        simp only [total_credit, Measures.total_bump]
        omega
  | recordFailure path reason cause =>
    rw [call, recordFailure] at h
    obtain rfl := Except.ok.inj h
    refine ⟨rfl, rfl, rfl, fun m => ?_⟩
    cases hearlier : l.files.get? path with
    | some earlier =>
      simp only [Measures.total_bump, total_withdraw]
      split <;> omega
    | none => simp

/-- A call that is taken is the step of the history. -/
theorem step_of_ok {l next : Ledger} {c : Call} (h : l.call c = .ok next) : l.step c = next := by
  rw [step, h]

/-- A call that is refused is no step. -/
theorem step_of_error {l : Ledger} {c : Call} {fault : PublishFault} (h : l.call c = .error fault) :
    l.step c = l := by
  rw [step, h]

/-- The calls of a history that are not refused. -/
def accepted (l : Ledger) : List Call → List Call
  | [] => []
  | c :: rest =>
    match l.call c with
    | .ok next => c :: accepted next rest
    | .error _ => accepted l rest

/-- What holds of a ledger and the calls that led to it, and survives accepted calls, holds along
every history: a call that is refused is not among them. -/
theorem accepted_induction {P : Ledger → List Call → Prop} {l : Ledger} {calls : List Call}
    (start : P l calls)
    (call : ∀ {l next calls c}, P l calls → call l c = .ok next → P next (calls ++ [c]))
    (more : List Call) : P (l.run more) (calls ++ l.accepted more) := by
  induction more generalizing l calls with
  | nil => rwa [accepted, List.append_nil]
  | cons c rest ih =>
    rw [run, List.foldl_cons, accepted]
    cases h : l.call c with
    | ok next =>
      dsimp only
      rw [step_of_ok h, List.append_cons]
      exact ih (call start h)
    | error fault =>
      rw [step_of_error h]
      exact ih start

/-- What holds of a ledger and survives accepted calls holds along every history. -/
theorem run_induction {P : Ledger → Prop} {l : Ledger} (start : P l)
    (call : ∀ {l next c}, P l → call l c = .ok next → P next) (calls : List Call) :
    P (l.run calls) :=
  @accepted_induction (fun l _ => P l) l [] start call calls

end Ledger
end LineMetrics

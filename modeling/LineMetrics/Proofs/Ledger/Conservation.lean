import LineMetrics.Proofs.Ledger.History

/-!
# Totals are conserved

Totals are kept up call by call, by adding and taking back (specification, section 4.1).  They
nevertheless stay what a fresh count of the files would give: the invariant `Balanced` says that
each total is the sum of the shares of the files in the ledger, where a file's share in the number
of files is one.  A call moves both sides by the same amount, `Listing.sum_put` and
`Listing.sum_erase` on the side of the files.
-/

namespace LineMetrics
namespace Ledger

/-- Each total is the sum of the files' shares, and every file carries measures that it may
carry. -/
structure Balanced (l : Ledger) : Prop where
  totals : ∀ m, l.totals.total m = (l.files.values.map (FileRecord.share · m)).sum
  publishable : ∀ path r, l.files.get? path = some r → r.measures.Publishable

/-- A new ledger is balanced. -/
theorem balanced_ofProject (name : Value) : (ofProject name).Balanced where
  totals _ := rfl
  publishable _ _ h := nomatch h

/-- Publishing a file keeps the balance. -/
theorem Balanced.published {l next : Ledger} {path : String} {r : FileRecord} (hl : l.Balanced)
    (h : Published l path r next) : next.Balanced where
  totals m := by
    rw [h.totals, h.files, Listing.sum_put, ← hl.totals, FileRecord.share_eq h.publishable]
    cases hearlier : l.files.get? path with
    | none => simp only [Option.map_none, Option.getD_none]; omega
    | some earlier =>
      have hshare := FileRecord.share_eq (hl.publishable path earlier hearlier) m
      simp only [Option.map_some, Option.getD_some, hshare]
      omega
  publishable q s hs := by
    rw [h.files, Listing.get?_put] at hs
    split at hs
    · exact Option.some.inj hs ▸ h.publishable
    · exact hl.publishable q s hs

/-- Recording a failure keeps the balance. -/
theorem Balanced.withdrawn {l next : Ledger} {f : FailureRecord} (hl : l.Balanced)
    (h : Withdrawn l f next) : next.Balanced where
  totals m := by
    rw [h.totals, h.files, Listing.sum_erase, ← hl.totals]
    cases hearlier : l.files.get? f.path with
    | none => simp
    | some earlier =>
      have hshare := FileRecord.share_eq (hl.publishable f.path earlier hearlier) m
      simp only [Option.map_some, Option.getD_some, hshare]
      omega
  publishable q s hs := by
    rw [h.files, Listing.get?_erase] at hs
    split at hs
    · cases hs
    · exact hl.publishable q s hs

/-- Every call that is taken keeps the balance. -/
theorem Balanced.call {l next : Ledger} {c : Call} (hl : l.Balanced) (h : l.call c = .ok next) :
    next.Balanced := by
  cases c with
  | commit path measures annotations => exact hl.published (call_cases h)
  | recordFailure path reason cause => exact hl.withdrawn (call_cases h)

/-- Every history leads to a balanced ledger. -/
theorem balanced_run (name : Value) (calls : List Call) : ((ofProject name).run calls).Balanced :=
  run_induction (balanced_ofProject name) Balanced.call calls

namespace Balanced

variable {l : Ledger}

/-- A total of a balanced ledger is the sum over its files. -/
theorem total_of_file (hl : l.Balanced) {m : Metric} (hm : m.scope = .file) :
    l.totals.total m = ((l.search .file).map fun e => e.measures.total m).sum := by
  rw [hl.totals, Listing.map_values, search, fileEntities, List.map_map]
  congr 1
  refine List.map_congr_left fun e _ => ?_
  rw [FileRecord.share, hm]
  rfl

/-- The total of files of a balanced ledger is their number. -/
theorem total_files (hl : l.Balanced) : l.totals.total .files = (l.search .file).length := by
  rw [hl.totals, Listing.map_values, search, fileEntities, List.length_map]
  simp [FileRecord.share, Metric.scope]

/-- No total of a balanced ledger is below 0. -/
theorem total_nonneg (hl : l.Balanced) (m : Metric) : 0 ≤ l.totals.total m := by
  rw [hl.totals, Listing.map_values]
  refine List.sum_nonneg fun v hv => ?_
  obtain ⟨e, he, rfl⟩ := List.mem_map.1 hv
  have hp := hl.publishable e.1 e.2 (Listing.mem_entries_iff.1 he)
  rw [FileRecord.share_eq hp]
  have := hp.total_nonneg m
  split <;> omega

end Balanced

/-- **Totals are conserved.**  Whatever is published, published again, refused or withdrawn, and in
whatever order: after every history the project's total of a file metric is the sum over the files
in the ledger, its number of files is their number, and no total is negative. -/
theorem projectEntity_run_conserved (name : Value) (calls : List Call) :
    let l := (ofProject name).run calls
    (∀ m, m.scope = .file → l.projectEntity.measures.total m =
      ((l.search .file).map fun e => e.measures.total m).sum) ∧
    l.projectEntity.measures.total .files = (l.search .file).length ∧
    ∀ m, 0 ≤ l.projectEntity.measures.total m := by
  intro l
  have hl : l.Balanced := balanced_run name calls
  exact ⟨fun m hm => hl.total_of_file hm, hl.total_files, hl.total_nonneg⟩

/-- A history with every kind of call: a file published twice with different metrics, a refused
measure, the failure of a measured file and that of an unknown one. -/
def mixedHistory : List Call :=
  [.commit "a" (.ofList [(.lines, 5), (.commentLines, 2)]) .empty,
   .commit "b" (.ofList [(.lines, 3)]) .empty,
   .commit "a" (.ofList [(.linesOfCode, 4)]) .empty,
   .commit "c" (.ofList [(.lines, -1)]) .empty,
   .recordFailure "b" "unreadable" (.general "unreadable" []),
   .recordFailure "d" "unreadable" (.general "unreadable" [])]

/-- The totals of a history with a file that is published twice, one that fails later, and a refused
call. -/
theorem mixedHistory_conserved :
    Metric.linesOfCode.scope = .file ∧
      let l := (ofProject "P").run mixedHistory
      l.projectEntity.measures.total .linesOfCode = 4 ∧
        l.projectEntity.measures.total .linesOfCode =
          ((l.search .file).map fun e => e.measures.total .linesOfCode).sum :=
  ⟨rfl, rfl, (projectEntity_run_conserved "P" mixedHistory).1 .linesOfCode rfl⟩

end Ledger
end LineMetrics

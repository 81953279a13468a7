import LineMetrics.Proofs.Measure.Comments

/-!
# Visitors do not see each other

A visitor writes through a view that is held to the metrics it owns, and adding starts from what it
wrote before (specification, section 4.3).  So on a sheet that already has measures of other metrics
it does as on a blank sheet:  it ends with the same fault, or its measures stand behind those that
were there (`Visitor.alike_run`).  Visitors that own no metric together therefore succeed together
exactly if each succeeds alone, and their sheet has the measures of each (`Visitor.foldlM_run_iff`).
What a metric shows does then not depend on the order of the visitors, nor on the other visitors:
`measure_independent`.
-/

namespace LineMetrics
namespace Listing

variable {α β : Type} [DecidableEq α]

/-- A key that is not in front is looked up behind. -/
theorem lookup_append_of_not_mem {k : α} {base : List (α × β)} (h : k ∉ base.map Prod.fst)
    (more : List (α × β)) : lookup k (base ++ more) = lookup k more := by
  induction base with
  | nil => rfl
  | cons e base ih =>
    obtain ⟨hne, hrest⟩ := not_or.1 (mt List.mem_cons.2 h)
    rw [List.cons_append, lookup, if_neg (Ne.symm hne), ih hrest]

/-- A key that is not in front is replaced behind. -/
theorem replace_append_of_not_mem {k : α} (v : β) {base : List (α × β)}
    (h : k ∉ base.map Prod.fst) (more : List (α × β)) :
    replace k v (base ++ more) = base ++ replace k v more := by
  induction base with
  | nil => rfl
  | cons e base ih =>
    obtain ⟨hne, hrest⟩ := not_or.1 (mt List.mem_cons.2 h)
    rw [List.cons_append, replace, if_neg (Ne.symm hne), ih hrest, List.cons_append]

end Listing

/-- Two results are alike: the same fault, or values that are related. -/
inductive Alike {ε α β : Type} (R : α → β → Prop) : Except ε α → Except ε β → Prop
  | ok {a : α} {b : β} : R a b → Alike R (.ok a) (.ok b)
  | error (e : ε) : Alike R (.error e) (.error e)

namespace Alike

variable {ε α β γ δ : Type} {R : α → β → Prop} {S : γ → δ → Prop}

/-- Steps that end alike one after the other end alike together. -/
theorem bind {x : Except ε α} {y : Except ε β} {f : α → Except ε γ} {g : β → Except ε δ}
    (h : Alike R x y) (hfg : ∀ a b, R a b → Alike S (f a) (g b)) : Alike S (x >>= f) (y >>= g) := by
  cases h with
  | ok hab => exact hfg _ _ hab
  | error e => exact .error e

/-- What ends like a result has one. -/
theorem ok_left {a : α} {y : Except ε β} (h : Alike R (.ok a) y) : ∃ b, y = .ok b ∧ R a b := by
  cases h with
  | ok hab => exact ⟨_, rfl, hab⟩

/-- What a result ends like has one. -/
theorem ok_right {x : Except ε α} {b : β} (h : Alike R x (.ok b)) : ∃ a, x = .ok a ∧ R a b := by
  cases h with
  | ok hab => exact ⟨_, rfl, hab⟩

/-- **Folding** keeps results alike if each step does. -/
theorem foldlM {ι : Type} {f : α → ι → Except ε α} {g : β → ι → Except ε β}
    (hstep : ∀ i a b, R a b → Alike R (f a i) (g b i)) (is : List ι) {a : α} {b : β} (h : R a b) :
    Alike R (is.foldlM f a) (is.foldlM g b) := by
  induction is generalizing a b with
  | nil => exact .ok h
  | cons i is ih =>
    rw [List.foldlM_cons, List.foldlM_cons]
    exact (hstep i a b h).bind fun _ _ h => ih h

end Alike

namespace Sheet

/-- The sheet has the measures of `solo` behind others. -/
structure Beside (base : List (Metric × Int)) (s solo : Sheet) : Prop where
  path : s.path = solo.path
  measures : s.measures.entries = base ++ solo.measures.entries

variable {base : List (Metric × Int)} {owned : List Metric} {s solo : Sheet}

/-- A measure that is put on a sheet is put on the one beside it. -/
theorem Beside.put (h : Beside base s solo) {m : Metric} (hm : m ∉ base.map Prod.fst) (x : Int) :
    Beside base { s with measures := s.measures.put m x }
      { solo with measures := solo.measures.put m x } := by
  refine ⟨h.path, ?_⟩
  change Listing.replace m x s.measures.entries = base ++ Listing.replace m x solo.measures.entries
  rw [h.measures, Listing.replace_append_of_not_mem x hm]

/-- A metric that is not in front has the same total on both sheets. -/
theorem Beside.total (h : Beside base s solo) {m : Metric} (hm : m ∉ base.map Prod.fst) :
    s.measures.total m = solo.measures.total m := by
  rw [Measures.total, Measures.total, Listing.get?, Listing.get?, h.measures,
    Listing.lookup_append_of_not_mem hm]

/-- A write to a metric that the other measures do not have is refused or done alike. -/
theorem alike_write (h : Beside base s solo) {w : Write}
    (hw : ∀ m ∈ w.metric?, m ∉ base.map Prod.fst) :
    Alike (Beside base) (s.write w) (solo.write w) := by
  cases w with
  | add m amount =>
    have hm := hw m rfl
    rw [write, write, Measures.bump, Measures.bump, h.total hm]
    split
    · exact .error _
    · exact .ok (h.put hm _)
  | set m value =>
    rw [write, write]
    split
    · exact .error _
    · exact .ok (h.put (hw m rfl) _)
  | annotate key value => exact .ok ⟨h.path, h.measures⟩

/-- A write through a view ends alike on both sheets, if the view owns nothing that is in front. -/
theorem alike_writeOwned (h : Beside base s solo) (hbase : ∀ m ∈ owned, m ∉ base.map Prod.fst)
    (w : Write) : Alike (Beside base) (s.writeOwned owned w) (solo.writeOwned owned w) := by
  rw [writeOwned, writeOwned]
  cases hmetric : w.metric? with
  | none => exact alike_write h (by simp [hmetric])
  | some m =>
    dsimp only
    split
    · rename_i howned
      exact alike_write h (by simpa [hmetric] using hbase m howned)
    · rw [h.path]
      exact .error _

/-- A write enters nothing but the metric it names. -/
theorem mem_keys_of_write {s' : Sheet} {w : Write} (h : s.write w = .ok s') {m : Metric}
    (hm : m ∈ s'.measures.keys) : m ∈ w.metric? ∨ m ∈ s.measures.keys := by
  have hput : ∀ (k : Metric) (x : Int), m ∈ (s.measures.put k x).keys →
      m ∈ some k ∨ m ∈ s.measures.keys := by
    intro k x hmem
    rcases Listing.mem_keys_replace.1 hmem with rfl | hold
    · exact .inl rfl
    · exact .inr hold
  cases w with
  | add k amount =>
    rw [write] at h
    split at h
    · cases h
    · obtain rfl := Except.ok.inj h
      exact hput k _ hm
  | set k value =>
    rw [write] at h
    split at h
    · cases h
    · obtain rfl := Except.ok.inj h
      exact hput k value hm
  | annotate key value =>
    obtain rfl := Except.ok.inj h
    exact .inr hm

/-- Writes through a view enter nothing under a metric that the view does not own. -/
theorem mem_owned_of_writeAll {s' : Sheet} {ws : List Write}
    (hs : ∀ m ∈ s.measures.keys, m ∈ owned) (h : s.writeAll owned ws = .ok s') :
    ∀ m ∈ s'.measures.keys, m ∈ owned := by
  refine foldlM_invariant (P := fun s : Sheet => ∀ m ∈ s.measures.keys, m ∈ owned)
    (fun w _ s s' hs h m hm => ?_) hs h
  rw [writeOwned] at h
  cases hmetric : w.metric? with
  | none =>
    rw [hmetric] at h
    rcases mem_keys_of_write h hm with hnamed | hold
    · cases hmetric.symm.trans hnamed
    · exact hs m hold
  | some k =>
    rw [hmetric] at h
    dsimp only at h
    split at h
    · rename_i howned
      rcases mem_keys_of_write h hm with hnamed | hold
      · obtain rfl := Option.some.inj (hmetric.symm.trans hnamed)
        exact howned
      · exact hs m hold
    · cases h

end Sheet

namespace Visitor

open Sheet (Beside)

variable {v : Visitor} {t : SyntaxTree}

/-- **A visitor runs alike** on a sheet with measures of metrics that it does not own. -/
theorem alike_run {base : List (Metric × Int)} {s solo : Sheet} (h : Beside base s solo)
    (hbase : ∀ m ∈ v.metrics, m ∉ base.map Prod.fst) :
    Alike (Beside base) (v.run t s) (v.run t solo) := by
  have hwrites : Alike (Beside base) (s.writeAll v.metrics (v.observe t).writes)
      (solo.writeAll v.metrics (v.observe t).writes) :=
    Alike.foldlM (fun w _ _ h => Sheet.alike_writeOwned h hbase w) _ h
  rw [run, run]
  generalize s.writeAll v.metrics (v.observe t).writes = written at hwrites ⊢
  generalize solo.writeAll v.metrics (v.observe t).writes = writtenSolo at hwrites ⊢
  cases hwrites with
  | ok hbeside =>
    cases (v.observe t).fault with
    | none => exact .ok hbeside
    | some fault => exact .error fault
  | error refused => exact .error _

/-- The measures of a visitor alone are of metrics that it owns. -/
theorem mem_metrics_of_run_blank {path : String} {solo : Sheet}
    (h : v.run t (.blank path) = .ok solo) : ∀ m ∈ solo.measures.keys, m ∈ v.metrics :=
  Sheet.mem_owned_of_writeAll (fun _ hm => (List.not_mem_nil hm).elim) (run_eq_ok_iff.1 h).1

/-- **A visitor that finds none of its metrics** on a sheet does as on a blank one. -/
theorem alike_run_blank {s : Sheet} (hs : ∀ m ∈ v.metrics, m ∉ s.measures.keys) :
    Alike (Beside s.measures.entries) (v.run t s) (v.run t (.blank s.path)) :=
  alike_run ⟨rfl, (List.append_nil _).symm⟩ hs

section

variable {visitors : List Visitor} {path : String}

/-- What a visitor leaves behind the measures of a sheet is of no metric of the visitors to come. -/
theorem not_mem_keys_of_beside {s s' solo : Sheet} (hsolo : v.run t (.blank path) = .ok solo)
    (hbeside : Beside s.measures.entries s' solo)
    (hv : ∀ w ∈ visitors, v.metrics.Disjoint w.metrics)
    (hs : ∀ w ∈ visitors, ∀ m ∈ w.metrics, m ∉ s.measures.keys) :
    ∀ w ∈ visitors, ∀ m ∈ w.metrics, m ∉ s'.measures.keys := by
  intro w hw m hm hkey
  rw [Listing.keys, hbeside.measures, List.map_append, List.mem_append] at hkey
  rcases hkey with hold | hnew
  · exact hs w hw m hm hold
  · exact hv w hw (mem_metrics_of_run_blank hsolo m hnew) hm

/-- **Visitors that go through,** one after the other, go through alone, and leave the measures of
each, in order, behind those of the sheet. -/
theorem exists_solos_of_foldlM_run
    (hdisjoint : visitors.Pairwise fun v w => v.metrics.Disjoint w.metrics) {s s' : Sheet}
    (hpath : s.path = path) (hs : ∀ v ∈ visitors, ∀ m ∈ v.metrics, m ∉ s.measures.keys)
    (h : visitors.foldlM (fun s v => v.run t s) s = .ok s') :
    ∃ solos : List Sheet, visitors.map (fun v => v.run t (.blank path)) = solos.map .ok ∧
      s'.measures.entries = s.measures.entries ++ solos.flatMap (·.measures.entries) := by
  induction visitors generalizing s with
  | nil =>
    obtain rfl := Except.ok.inj h
    exact ⟨[], rfl, by simp⟩
  | cons v visitors ih =>
    obtain ⟨hv, hrest⟩ := List.pairwise_cons.1 hdisjoint
    obtain ⟨hsv, hs⟩ := List.forall_mem_cons.1 hs
    rw [List.foldlM_cons] at h
    obtain ⟨s₁, hrun, h⟩ := bind_eq_ok_iff.1 h
    have hlike := alike_run_blank (t := t) hsv
    rw [hrun, hpath] at hlike
    obtain ⟨solo, hsolo, hbeside⟩ := hlike.ok_left
    obtain ⟨solos, hsolos, hentries⟩ := ih hrest ((path_of_run hrun).trans hpath)
      (not_mem_keys_of_beside hsolo hbeside hv hs) h
    refine ⟨solo :: solos, by rw [List.map_cons, List.map_cons, hsolo, hsolos], ?_⟩
    rw [hentries, hbeside.measures, List.flatMap_cons, List.append_assoc]

/-- **Visitors that go through alone** go through one after the other. -/
theorem exists_foldlM_run (hdisjoint : visitors.Pairwise fun v w => v.metrics.Disjoint w.metrics)
    {s : Sheet} (hpath : s.path = path)
    (hs : ∀ v ∈ visitors, ∀ m ∈ v.metrics, m ∉ s.measures.keys)
    (hsolos : ∀ v ∈ visitors, ∃ solo, v.run t (.blank path) = .ok solo) :
    ∃ s', visitors.foldlM (fun s v => v.run t s) s = .ok s' := by
  induction visitors generalizing s with
  | nil => exact ⟨s, rfl⟩
  | cons v visitors ih =>
    obtain ⟨hv, hrest⟩ := List.pairwise_cons.1 hdisjoint
    obtain ⟨hsv, hs⟩ := List.forall_mem_cons.1 hs
    obtain ⟨⟨solo, hsolo⟩, hsolos⟩ := List.forall_mem_cons.1 hsolos
    have hlike := alike_run_blank (t := t) hsv
    rw [hpath, hsolo] at hlike
    obtain ⟨s₁, hrun, hbeside⟩ := hlike.ok_right
    obtain ⟨s', h⟩ := ih hrest ((path_of_run hrun).trans hpath)
      (not_mem_keys_of_beside hsolo hbeside hv hs) hsolos
    exact ⟨s', by rw [List.foldlM_cons, hrun]; exact h⟩

end

end Visitor

section

variable {visitors : List Visitor} {t : SyntaxTree} {path : String}

/-- The measures of visitors that own no metric together are those of each alone, in order. -/
theorem exists_solos_of_measure
    (hdisjoint : visitors.Pairwise fun v w => v.metrics.Disjoint w.metrics) {sheet : Sheet}
    (h : measure visitors t path = .ok sheet) :
    ∃ solos : List Sheet, visitors.map (fun v => measure [v] t path) = solos.map .ok ∧
      sheet.measures.entries = solos.flatMap (·.measures.entries) := by
  simp only [measure_singleton]
  exact Visitor.exists_solos_of_foldlM_run hdisjoint rfl
    (fun _ _ _ _ hm => (List.not_mem_nil hm).elim) h

/-- **Disjoint visitors measure a file together** exactly if each of them does alone. -/
theorem exists_measure_iff
    (hdisjoint : visitors.Pairwise fun v w => v.metrics.Disjoint w.metrics) :
    (∃ sheet, measure visitors t path = .ok sheet) ↔
      ∀ v ∈ visitors, ∃ solo, measure [v] t path = .ok solo := by
  constructor
  · rintro ⟨sheet, h⟩ v hv
    obtain ⟨solos, hsolos, -⟩ := exists_solos_of_measure hdisjoint h
    have hmem : measure [v] t path ∈ solos.map .ok := hsolos ▸ List.mem_map.2 ⟨v, hv, rfl⟩
    obtain ⟨solo, -, hsolo⟩ := List.mem_map.1 hmem
    exact ⟨solo, hsolo.symm⟩
  · intro h
    simp only [measure_singleton] at h
    exact Visitor.exists_foldlM_run hdisjoint rfl (fun _ _ _ _ hm => (List.not_mem_nil hm).elim) h

/-- **What a metric shows** is what it shows for a visitor alone: the order does not matter. -/
theorem get?_measure_iff
    (hdisjoint : visitors.Pairwise fun v w => v.metrics.Disjoint w.metrics) {sheet : Sheet}
    (h : measure visitors t path = .ok sheet) (m : Metric) (x : Int) :
    sheet.measures.get? m = some x ↔ ∃ v ∈ visitors, ∃ solo, measure [v] t path = .ok solo ∧
      solo.measures.get? m = some x := by
  obtain ⟨solos, hsolos, hentries⟩ := exists_solos_of_measure hdisjoint h
  simp only [← Listing.mem_entries_iff]
  rw [hentries, List.mem_flatMap]
  constructor
  · rintro ⟨solo, hsolo, hm⟩
    have hmem : Except.ok solo ∈ visitors.map fun v => measure [v] t path :=
      hsolos ▸ List.mem_map.2 ⟨solo, hsolo, rfl⟩
    obtain ⟨v, hv, hrun⟩ := List.mem_map.1 hmem
    exact ⟨v, hv, solo, hrun, hm⟩
  · rintro ⟨v, hv, solo, hrun, hm⟩
    have hmem : measure [v] t path ∈ solos.map .ok := hsolos ▸ List.mem_map.2 ⟨v, hv, rfl⟩
    obtain ⟨solo', hsolo, heq⟩ := List.mem_map.1 hmem
    obtain rfl := Except.ok.inj (heq.trans hrun)
    exact ⟨solo', hsolo, hm⟩

/-- Two visitors that own a metric together are one. -/
theorem eq_of_mem_metrics (hdisjoint : visitors.Pairwise fun v w => v.metrics.Disjoint w.metrics)
    {v w : Visitor} (hv : v ∈ visitors) (hw : w ∈ visitors) {m : Metric} (hmv : m ∈ v.metrics)
    (hmw : m ∈ w.metrics) : v = w := by
  by_contra hne
  have : Std.Symm fun v w : Visitor => v.metrics.Disjoint w.metrics := ⟨fun _ _ h => h.symm⟩
  exact hdisjoint.forall hv hw hne hmv hmw

/-- **Among fewer visitors,** in any order, the metrics of those that are left show the same. -/
theorem exists_measure_of_subperm
    (hdisjoint : visitors.Pairwise fun v w => v.metrics.Disjoint w.metrics) {sheet : Sheet}
    (h : measure visitors t path = .ok sheet) {others : List Visitor}
    (hothers : others.Subperm visitors) : ∃ sheet', measure others t path = .ok sheet' ∧
      (∀ v ∈ others, ∀ m ∈ v.metrics, sheet'.measures.get? m = sheet.measures.get? m) ∧
      ∀ m, (∀ v ∈ others, m ∉ v.metrics) → sheet'.measures.get? m = none := by
  have hdisjoint' : others.Pairwise fun v w => v.metrics.Disjoint w.metrics := by
    obtain ⟨sorted, hperm, hsub⟩ := hothers
    exact (hdisjoint.sublist hsub).perm hperm List.Disjoint.symm
  have hsolos := (exists_measure_iff hdisjoint).1 ⟨sheet, h⟩
  obtain ⟨sheet', h'⟩ : ∃ sheet', measure others t path = .ok sheet' :=
    (exists_measure_iff hdisjoint').2 fun v hv => hsolos v (hothers.subset hv)
  have howned : ∀ {v : Visitor} {solo m x}, measure [v] t path = .ok solo →
      solo.measures.get? m = some x → m ∈ v.metrics := by
    intro v solo m x hsolo hm
    rw [measure_singleton] at hsolo
    exact Visitor.mem_metrics_of_run_blank hsolo m
      (List.mem_map.2 ⟨_, Listing.mem_entries_iff.2 hm, rfl⟩)
  refine ⟨sheet', h', fun v hv m hm => Option.ext fun x => ?_, fun m hm => ?_⟩
  · rw [get?_measure_iff hdisjoint' h', get?_measure_iff hdisjoint h]
    constructor
    · rintro ⟨w, hw, hrest⟩
      exact ⟨w, hothers.subset hw, hrest⟩
    · rintro ⟨w, hw, solo, hsolo, hx⟩
      obtain rfl := eq_of_mem_metrics hdisjoint hw (hothers.subset hv) (howned hsolo hx) hm
      exact ⟨w, hv, solo, hsolo, hx⟩
  · refine Option.eq_none_iff_forall_not_mem.2 fun x hx => ?_
    obtain ⟨w, hw, solo, hsolo, hx⟩ := (get?_measure_iff hdisjoint' h' m x).1 hx
    exact hm w hw (howned hsolo hx)

/-- **Visitors are independent.**  Visitors that own no metric together succeed on a tree exactly if
each of them succeeds alone, and then the measures are those of each alone, in order.  So every
order of the visitors gives the same measures, and some of the visitors give, for the metrics they
own, what all of them give. -/
theorem measure_independent
    (hdisjoint : visitors.Pairwise fun v w => v.metrics.Disjoint w.metrics) (t : SyntaxTree)
    (path : String) :
    ((∃ sheet, measure visitors t path = .ok sheet) ↔
      ∀ v ∈ visitors, ∃ solo, measure [v] t path = .ok solo) ∧
    ∀ sheet, measure visitors t path = .ok sheet →
      (∃ solos : List Sheet, visitors.map (fun v => measure [v] t path) = solos.map .ok ∧
        sheet.measures.entries = solos.flatMap (·.measures.entries)) ∧
      (∀ others, others.Perm visitors → ∃ sheet', measure others t path = .ok sheet' ∧
        ∀ m, sheet'.measures.get? m = sheet.measures.get? m) ∧
      ∀ others, others.Sublist visitors → ∃ sheet', measure others t path = .ok sheet' ∧
        (∀ v ∈ others, ∀ m ∈ v.metrics, sheet'.measures.get? m = sheet.measures.get? m) ∧
        ∀ m, (∀ v ∈ others, m ∉ v.metrics) → sheet'.measures.get? m = none := by
  refine ⟨exists_measure_iff hdisjoint, fun sheet h => ⟨exists_solos_of_measure hdisjoint h,
    fun others hperm => ?_, fun others hsub => exists_measure_of_subperm hdisjoint h hsub.subperm⟩⟩
  obtain ⟨sheet', h', howned, hforeign⟩ := exists_measure_of_subperm hdisjoint h hperm.subperm
  refine ⟨sheet', h', fun m => ?_⟩
  by_cases hm : ∃ v ∈ others, m ∈ v.metrics
  · obtain ⟨v, hv, hm⟩ := hm
    exact howned v hv m hm
  · have hothers : ∀ v ∈ others, m ∉ v.metrics := by simpa using hm
    obtain ⟨_, hsame, -, hnone⟩ := exists_measure_of_subperm hdisjoint h (.refl visitors)
    obtain rfl := Except.ok.inj (hsame.symm.trans h)
    rw [hforeign m hothers, hnone m fun v hv => hothers v (hperm.mem_iff.2 hv)]

/-- A comment visitor without a marker that counts header comments. -/
def plainCount : CommentCount := ⟨.commentLines, some .commentBlankLines, .cFamily, false, .off⟩

/-- Visitors that set a measure, add to one twice around an annotation, and count comments. -/
def threeVisitors : List Visitor :=
  [.lines .lines,
    .fixed "Adds" [.linesOfCode]
      ⟨[.add .linesOfCode 2, .annotate "note" (.int 1), .add .linesOfCode 3], none⟩,
    .comments plainCount]

set_option maxRecDepth 4000 in
/-- The three visitors go through together, in each order and without any of them. -/
theorem measure_independent_threeVisitors :
    threeVisitors.Pairwise (fun v w => v.metrics.Disjoint w.metrics) ∧
    ∃ tree, Syntax.flatTree "a.m" "objc" "int a; // b\n".toList = .ok tree ∧
      ∃ sheet, measure threeVisitors tree "a.m" = .ok sheet ∧
        (∀ others, others.Perm threeVisitors → ∃ sheet', measure others tree "a.m" = .ok sheet' ∧
          ∀ m, sheet'.measures.get? m = sheet.measures.get? m) ∧
        ∀ others, others.Sublist threeVisitors → ∃ sheet', measure others tree "a.m" = .ok sheet' ∧
          (∀ v ∈ others, ∀ m ∈ v.metrics, sheet'.measures.get? m = sheet.measures.get? m) ∧
          ∀ m, (∀ v ∈ others, m ∉ v.metrics) → sheet'.measures.get? m = none := by
  have hdisjoint : threeVisitors.Pairwise fun v w => v.metrics.Disjoint w.metrics := by
    simp [threeVisitors, Visitor.lines, Visitor.fixed, Visitor.comments, CommentCount.metrics,
      plainCount]
  obtain ⟨tree, htree⟩ : ∃ tree,
      Syntax.flatTree "a.m" "objc" "int a; // b\n".toList = .ok tree := ⟨_, by cbv⟩
  have hlines : 0 ≤ tree.lineCount := by
    rw [(Syntax.flatTree_eq_ok htree).2.2.2]
    exact Int.natCast_nonneg _
  have hread : ∀ n ∈ plainCount.counted tree, ∃ lines,
      plainCount.analyzer.commentLines n = .ok lines := fun n hn =>
    (Syntax.exists_commentLines_of_flatTree htree CommentFamily.mergeSort_ofC hn).imp
      fun _ h => h.1
  have hindependent := measure_independent hdisjoint tree "a.m"
  obtain ⟨sheet, hsheet⟩ := hindependent.1.2 fun v hv => by
    rw [measure_singleton]
    obtain rfl | rfl | rfl : v = _ ∨ v = _ ∨ v = _ := by simpa [threeVisitors] using hv
    · exact ⟨_, Visitor.run_lines hlines _ _⟩
    · exact ⟨_, rfl⟩
    · exact ⟨_, Visitor.run_comments (c := plainCount) (by simp [plainCount]) hread rfl _⟩
  exact ⟨hdisjoint, tree, htree, sheet, hsheet, (hindependent.2 sheet hsheet).2⟩

end
end LineMetrics

import LineMetrics.Proofs.Grammar.Delimited
import LineMetrics.Proofs.Measure.Accumulation
import LineMetrics.Proofs.Measure.Flattening

/-!
# Annotations and the order of visitors

Each metric has one owner, so measures do not depend on the order of the visitors (specification,
section 4.1).  An annotation has none: a view lets it pass, whoever makes it, and a later one under
the same key replaces an earlier one.  The visitors of the library annotate under one key only, so a
file keeps what the last of those that annotate would leave alone, and what the others recorded is
lost:  `annotations_of_measure`.  Nothing is lost if they would all leave the same.  Comment
visitors with different markers do not: `order_of_markers_matters`.

Whether a visitor goes through does not depend on the sheet (`Visitor.run_eq_ok_iff_goesThrough`),
so visitors go through in every order or in none, even if they own metrics together.
-/

namespace LineMetrics

namespace Listing

variable {α β : Type} [DecidableEq α]

/-- Of two values under one key the later one stays. -/
theorem replace_replace (k : α) (v w : β) (l : List (α × β)) :
    replace k w (replace k v l) = replace k w l := by
  induction l with
  | nil => simp [replace]
  | cons e rest ih =>
    obtain ⟨a, b⟩ := e
    by_cases ha : a = k
    · simp [replace, ha]
    · simp [replace, ha, ih]

/-- What was entered under a key is replaced. -/
theorem put_put (l : Listing α β) (k : α) (v w : β) : (l.put k v).put k w = l.put k w :=
  ext (replace_replace k v w l.entries)

end Listing

/-- A fold of steps that depend on their items alone in whether they go through comes to the end
exactly if each of them does. -/
theorem foldlM_eq_ok_iff {ε ι α : Type} {f : α → ι → Except ε α} {P : ι → Prop} {g : α → ι → α}
    (hstep : ∀ a i a', f a i = .ok a' ↔ P i ∧ g a i = a') {is : List ι} {a a' : α} :
    is.foldlM f a = .ok a' ↔ (∀ i ∈ is, P i) ∧ is.foldl g a = a' := by
  induction is generalizing a with
  | nil =>
    exact ⟨fun h => ⟨List.forall_mem_nil _, Except.ok.inj h⟩, fun h => congrArg Except.ok h.2⟩
  | cons i is ih =>
    rw [List.foldlM_cons, bind_eq_ok_iff, List.forall_mem_cons, List.foldl_cons]
    constructor
    · rintro ⟨b, hfirst, hrest⟩
      obtain ⟨hi, rfl⟩ := (hstep _ _ _).1 hfirst
      obtain ⟨his, hfold⟩ := ih.1 hrest
      exact ⟨⟨hi, his⟩, hfold⟩
    · rintro ⟨⟨hi, his⟩, hfold⟩
      exact ⟨_, (hstep _ _ _).2 ⟨hi, rfl⟩, ih.2 ⟨his, hfold⟩⟩

/-! ### What is written of annotations -/

/-- What a write annotates the file with. -/
def Write.annotation? : Write → Option (String × Value)
  | .annotate key value => some (key, value)
  | .add .. | .set .. => none

/-- Annotations with more of them made, in order. -/
def Annotations.noting (l : Annotations) (notes : List (String × Value)) : Annotations :=
  notes.foldl (fun l e => l.put e.1 e.2) l

namespace Sheet

/-- **A write through a view** is done exactly if it is allowed. -/
theorem writeOwned_eq_ok_iff (owned : List Metric) (s : Sheet) (w : Write) (s' : Sheet) :
    s.writeOwned owned w = .ok s' ↔ w.Allowed owned ∧ s.taking w = s' := by
  constructor
  · intro h
    cases w with
    | add m x | set m x =>
      rw [writeOwned, Write.metric?] at h
      dsimp only at h
      split at h
      · rename_i hm
        rw [write] at h
        split at h
        · cases h
        · rename_i hx
          exact ⟨⟨hm, not_lt.1 hx⟩, Except.ok.inj h⟩
      · cases h
    | annotate key value => exact ⟨trivial, Except.ok.inj h⟩
  · rintro ⟨hallowed, rfl⟩
    cases w with
    | add m x | set m x => exact (if_pos hallowed.1).trans (if_neg hallowed.2.not_gt)
    | annotate key value => rfl

/-- The annotations after some writes are what these note. -/
theorem annotations_foldl_taking (ws : List Write) (s : Sheet) :
    (ws.foldl taking s).annotations =
      Annotations.noting s.annotations (ws.filterMap Write.annotation?) := by
  induction ws generalizing s with
  | nil => rfl
  | cons w ws ih =>
    rw [List.foldl_cons, ih, List.filterMap_cons]
    cases w <;> rfl

end Sheet

namespace Visitor

variable {v : Visitor}

/-- Nothing of what a visitor does with a tree is refused or fails. -/
def GoesThrough (v : Visitor) (t : SyntaxTree) : Prop :=
  (∀ w ∈ (v.observe t).writes, w.Allowed v.metrics) ∧ (v.observe t).fault = none

/-- The sheet with all that a visitor writes. -/
def written (t : SyntaxTree) (s : Sheet) (v : Visitor) : Sheet :=
  (v.observe t).writes.foldl Sheet.taking s

/-- **A visitor goes through** on every sheet or on none. -/
theorem run_eq_ok_iff_goesThrough (t : SyntaxTree) (s : Sheet) (v : Visitor) (s' : Sheet) :
    v.run t s = .ok s' ↔ v.GoesThrough t ∧ written t s v = s' := by
  have hwrites : s.writeAll v.metrics (v.observe t).writes = .ok s' ↔
      (∀ w ∈ (v.observe t).writes, w.Allowed v.metrics) ∧ written t s v = s' :=
    foldlM_eq_ok_iff (Sheet.writeOwned_eq_ok_iff v.metrics)
  rw [run_eq_ok_iff, hwrites, GoesThrough, and_right_comm]

/-- What a visitor annotates the file of a tree with. -/
def notes (v : Visitor) (t : SyntaxTree) : List (String × Value) :=
  (v.observe t).writes.filterMap Write.annotation?

/-- A visitor of the library annotates at most once, and always under the same key. -/
theorem IsBuiltIn.notes_cases (hv : v.IsBuiltIn) (t : SyntaxTree) :
    v.notes t = [] ∨ ∃ value, v.notes t = [(suppressedLinesKey, value)] := by
  cases hv with
  | lines metric => exact .inl rfl
  | linesOfCode metric => exact .inl rfl
  | comments c =>
    have hobserve : (Visitor.comments c).observe t = .ofExcept (c.writes t) := rfl
    rw [notes, hobserve]
    cases hwrites : c.writes t with
    | error fault => exact .inl rfl
    | ok ws =>
      obtain ⟨⟨lines, found⟩, -, hws⟩ := bind_eq_ok_iff.1 hwrites
      obtain rfl := Except.ok.inj hws
      cases c.marker with
      | off => exact .inl (by cases c.blankMetric <;> rfl)
      | text marker | unusable =>
        exact .inr ⟨.list ((LineSet.ofList found).toList.map Value.int), by
          cases c.blankMetric <;> rfl⟩

/-- The annotations that a visitor leaves alone, none if it does not go through. -/
def annotationsAlone (v : Visitor) (t : SyntaxTree) (path : String) : Annotations :=
  match measure [v] t path with
  | .ok solo => solo.annotations
  | .error _ => .empty

/-- What a visitor of the library leaves alone, it puts in the place of what others left. -/
theorem IsBuiltIn.noting_cases (hv : v.IsBuiltIn) (t : SyntaxTree) :
    (∀ l, Annotations.noting l (v.notes t) = l) ∨
      ∃ value, ∀ l, Annotations.noting l (v.notes t) = l.put suppressedLinesKey value := by
  obtain hnone | ⟨value, hone⟩ := hv.notes_cases t
  · exact .inl fun l => by rw [hnone]; rfl
  · exact .inr ⟨value, fun l => by rw [hone]; rfl⟩

end Visitor

/-! ### Several visitors -/

/-- Whether any annotations were made. -/
def Annotations.isMade (l : Annotations) : Bool := !l.entries.isEmpty

/-- The last of several annotations that were made, none if there are none. -/
def Annotations.last (ls : List Annotations) : Annotations :=
  (ls.filter isMade).getLast?.getD .empty

namespace Annotations

/-- A listing with an entry has been made by somebody. -/
theorem isMade_put (l : Annotations) (key : String) (value : Value) :
    isMade (l.put key value) = true := by
  rw [isMade, Bool.not_eq_true', List.isEmpty_eq_false_iff]
  intro hnil
  have hkey : key ∈ (l.put key value).keys := Listing.mem_keys_replace.2 (.inl rfl)
  rw [Listing.keys, hnil] at hkey
  exact List.not_mem_nil hkey

/-- A visitor that annotates nothing is not the last one to annotate. -/
theorem last_append_empty (ls : List Annotations) : last (ls ++ [.empty]) = last ls := by
  rw [last, List.filter_append]
  simp [last, isMade, Listing.empty]

/-- A visitor that annotates is the last one to annotate if no other follows. -/
theorem last_append_of_isMade (ls : List Annotations) {l : Annotations} (h : isMade l = true) :
    last (ls ++ [l]) = l := by
  rw [last, List.filter_append, List.filter_cons_of_pos h, List.filter_nil,
    List.getLast?_append_cons, List.getLast?_singleton, Option.getD_some]

/-- The last annotations are among them, or none were made. -/
theorem last_cases (ls : List Annotations) :
    (last ls = .empty ∧ ∀ l ∈ ls, isMade l = false) ∨ last ls ∈ ls ∧ isMade (last ls) = true := by
  rw [last]
  cases hlast : (ls.filter isMade).getLast? with
  | none =>
    rw [List.getLast?_eq_none_iff, List.filter_eq_nil_iff] at hlast
    exact .inl ⟨rfl, fun l hl => Bool.eq_false_of_not_eq_true (hlast l hl)⟩
  | some l => exact .inr (List.mem_filter.1 (List.mem_of_getLast? hlast))

/-- Where all annotations that were made are the same, their order is of no account. -/
theorem last_congr {ls ms : List Annotations} (hmem : ∀ l, l ∈ ls ↔ l ∈ ms)
    (hsame : ∀ l ∈ ms, ∀ m ∈ ms, isMade l = true → isMade m = true → l = m) :
    last ls = last ms := by
  obtain ⟨hls, hnone⟩ | ⟨hls, hmade⟩ := last_cases ls
  · obtain ⟨hms, -⟩ | ⟨hms, hmade⟩ := last_cases ms
    · rw [hls, hms]
    · rw [hnone _ ((hmem _).2 hms)] at hmade
      cases hmade
  · obtain ⟨-, hnone⟩ | ⟨hms, hmade'⟩ := last_cases ms
    · rw [hnone _ ((hmem _).1 hls)] at hmade
      cases hmade
    · exact hsame _ ((hmem _).1 hls) _ hms hmade hmade'

end Annotations

section

variable {visitors : List Visitor} {t : SyntaxTree} {path : String}

/-- **Visitors go through** together exactly if each of them does. -/
theorem measure_eq_ok_iff {sheet : Sheet} : measure visitors t path = .ok sheet ↔
    (∀ v ∈ visitors, v.GoesThrough t) ∧
      visitors.foldl (Visitor.written t) (.blank path) = sheet :=
  foldlM_eq_ok_iff (Visitor.run_eq_ok_iff_goesThrough t)

/-- The annotations that visitors leave are noted one visitor after the other. -/
theorem annotations_foldl_written (visitors : List Visitor) (t : SyntaxTree) (s : Sheet) :
    (visitors.foldl (Visitor.written t) s).annotations =
      visitors.foldl (fun l v => Annotations.noting l (v.notes t)) s.annotations := by
  induction visitors generalizing s with
  | nil => rfl
  | cons v visitors ih =>
    rw [List.foldl_cons, ih, Visitor.written, Sheet.annotations_foldl_taking]
    rfl

/-- What a visitor annotates alone is what it notes. -/
theorem annotationsAlone_eq {v : Visitor} (h : v.GoesThrough t) :
    v.annotationsAlone t path = Annotations.noting .empty (v.notes t) := by
  have hsolo : measure [v] t path = .ok (Visitor.written t (.blank path) v) :=
    measure_eq_ok_iff.2 ⟨List.forall_mem_singleton.2 h, rfl⟩
  rw [Visitor.annotationsAlone, hsolo]
  exact annotations_foldl_written [v] t (.blank path)

/-- **What built-in visitors note in turn** is what the last of them that annotates notes alone. -/
theorem foldl_noting_eq_last (hvisitors : ∀ v ∈ visitors, v.IsBuiltIn) (t : SyntaxTree) :
    visitors.foldl (fun l v => Annotations.noting l (v.notes t)) .empty =
      Annotations.last (visitors.map fun v => Annotations.noting .empty (v.notes t)) := by
  -- From the last visitor on: one that annotates decides, whatever was before it.
  induction visitors using List.reverseRecOn with
  | nil => rfl
  | append_singleton visitors v ih =>
    obtain ⟨hbefore, hv⟩ := List.forall_mem_append.1 hvisitors
    rw [List.foldl_append, List.foldl_cons, List.foldl_nil, ih hbefore, List.map_append,
      List.map_singleton]
    obtain hnone | ⟨value, hone⟩ := (List.forall_mem_singleton.1 hv).noting_cases t
    · rw [hnone, hnone, Annotations.last_append_empty]
    · rw [hone, hone, Annotations.last_append_of_isMade _ (Annotations.isMade_put ..)]
      obtain ⟨hempty, -⟩ | ⟨hmem, hmade⟩ := Annotations.last_cases
        (visitors.map fun v => Annotations.noting .empty (v.notes t))
      · rw [hempty]
      · obtain ⟨w, hw, hlast⟩ := List.mem_map.1 hmem
        rw [← hlast] at hmade ⊢
        obtain hnone | ⟨earlier, hearlier⟩ := (hbefore w hw).noting_cases t
        · rw [hnone]
        · rw [hearlier, Listing.put_put]

/-- **What a file keeps** is what the last visitor that annotates would leave alone. -/
theorem annotations_of_measure (hvisitors : ∀ v ∈ visitors, v.IsBuiltIn) {sheet : Sheet}
    (h : measure visitors t path = .ok sheet) :
    sheet.annotations = Annotations.last (visitors.map (·.annotationsAlone t path)) := by
  obtain ⟨hthrough, rfl⟩ := measure_eq_ok_iff.1 h
  have halone : visitors.map (·.annotationsAlone t path) =
      visitors.map fun v => Annotations.noting .empty (v.notes t) :=
    List.map_congr_left fun v hv => annotationsAlone_eq (hthrough v hv)
  rw [annotations_foldl_written, halone]
  exact foldl_noting_eq_last hvisitors t

/-- **Annotations and the order of visitors.**  Visitors of the library that go through do so in
every order, and the file is then left with the annotations of the last one that would leave any
alone.  All orders leave the same exactly if all visitors that would leave any alone would leave
the same. -/
theorem annotations_of_order (hvisitors : ∀ v ∈ visitors, v.IsBuiltIn) {sheet : Sheet}
    (h : measure visitors t path = .ok sheet) :
    (∀ order, order.Perm visitors → ∃ sheet', measure order t path = .ok sheet' ∧
      sheet'.annotations = Annotations.last (order.map (·.annotationsAlone t path))) ∧
    ((∀ order, order.Perm visitors → ∀ sheet', measure order t path = .ok sheet' →
        sheet'.annotations = sheet.annotations) ↔
      ∀ v ∈ visitors, ∀ w ∈ visitors, Annotations.isMade (v.annotationsAlone t path) = true →
        Annotations.isMade (w.annotationsAlone t path) = true →
          v.annotationsAlone t path = w.annotationsAlone t path) := by
  have horders : ∀ order, order.Perm visitors → ∃ sheet', measure order t path = .ok sheet' ∧
      sheet'.annotations = Annotations.last (order.map (·.annotationsAlone t path)) := by
    intro order hperm
    have hthrough := (measure_eq_ok_iff.1 h).1
    have h' : measure order t path = .ok (order.foldl (Visitor.written t) (.blank path)) :=
      measure_eq_ok_iff.2 ⟨fun v hv => hthrough v (hperm.mem_iff.1 hv), rfl⟩
    exact ⟨_, h', annotations_of_measure (fun v hv => hvisitors v (hperm.mem_iff.1 hv)) h'⟩
  refine ⟨horders, ?_, ?_⟩
  · intro hsame
    -- A visitor that annotates can be put last.
    have hlast : ∀ v ∈ visitors, Annotations.isMade (v.annotationsAlone t path) = true →
        v.annotationsAlone t path = sheet.annotations := by
      intro v hv hmade
      obtain ⟨before, after, rfl⟩ := List.append_of_mem hv
      have hperm : ((before ++ after) ++ [v]).Perm (before ++ v :: after) :=
        (List.perm_append_singleton v _).trans List.perm_middle.symm
      obtain ⟨sheet', h', hannotations⟩ := horders _ hperm
      rw [← hsame _ hperm _ h', hannotations, List.map_append, List.map_singleton,
        Annotations.last_append_of_isMade _ hmade]
    intro v hv w hw hvmade hwmade
    rw [hlast v hv hvmade, hlast w hw hwmade]
  · intro hagree order hperm sheet' h'
    have hvisitors' : ∀ v ∈ order, v.IsBuiltIn := fun v hv => hvisitors v (hperm.mem_iff.1 hv)
    rw [annotations_of_measure hvisitors' h', annotations_of_measure hvisitors h]
    refine Annotations.last_congr (fun l => (hperm.map _).mem_iff) fun l hl m hm => ?_
    obtain ⟨v, hv, rfl⟩ := List.mem_map.1 hl
    obtain ⟨w, hw, rfl⟩ := List.mem_map.1 hm
    exact hagree v hv w hw

end

/-- A comment visitor for a metric and a marker that counts header comments and no blank lines. -/
def markerCount (metric : Metric) (marker : String) : CommentCount :=
  ⟨metric, none, .cFamily, false, .ofValue (.text marker)⟩

/-- Two comment visitors with different metrics and one marker, and another visitor between them. -/
def oneMarker : List Visitor :=
  [.comments (markerCount .commentLines "A"), .linesOfCode .linesOfCode,
    .comments (markerCount .lines "A")]

set_option maxRecDepth 8000 in
/-- With one marker every order leaves the same suppressed lines. -/
theorem annotations_of_order_oneMarker :
    ∃ tree sheet, Syntax.flatTree "a.m" "objc" "// A\n// B\n".toList = .ok tree ∧
      measure oneMarker tree "a.m" = .ok sheet ∧
      sheet.annotations = Listing.put .empty suppressedLinesKey (.list [.int 1]) ∧
      ∀ order, order.Perm oneMarker → ∃ sheet', measure order tree "a.m" = .ok sheet' ∧
        sheet'.annotations = sheet.annotations := by
  have hbuiltIn : ∀ v ∈ oneMarker, v.IsBuiltIn := by
    rw [oneMarker, List.forall_mem_cons, List.forall_mem_cons, List.forall_mem_singleton]
    exact ⟨.comments _, .linesOfCode _, .comments _⟩
  obtain ⟨tree, htree, hmeasure, hfirst, hcode, hsecond⟩ : ∃ tree,
      Syntax.flatTree "a.m" "objc" "// A\n// B\n".toList = .ok tree ∧
      (measure oneMarker tree "a.m").isOk = true ∧
      (Visitor.comments (markerCount .commentLines "A")).annotationsAlone tree "a.m" =
        Listing.put .empty suppressedLinesKey (.list [.int 1]) ∧
      (Visitor.linesOfCode .linesOfCode).annotationsAlone tree "a.m" = .empty ∧
      (Visitor.comments (markerCount .lines "A")).annotationsAlone tree "a.m" =
        Listing.put .empty suppressedLinesKey (.list [.int 1]) :=
    ⟨_, by cbv, by cbv, by cbv, by cbv, by cbv⟩
  obtain ⟨sheet, hsheet⟩ : ∃ sheet, measure oneMarker tree "a.m" = .ok sheet := by
    cases h : measure oneMarker tree "a.m" with
    | ok sheet => exact ⟨sheet, rfl⟩
    | error fault => rw [h] at hmeasure; cases hmeasure
  have halone : ∀ v ∈ oneMarker, Annotations.isMade (v.annotationsAlone tree "a.m") = true →
      v.annotationsAlone tree "a.m" = Listing.put .empty suppressedLinesKey (.list [.int 1]) := by
    rw [oneMarker, List.forall_mem_cons, List.forall_mem_cons, List.forall_mem_singleton, hcode]
    exact ⟨fun _ => hfirst, fun hmade => (Bool.false_ne_true hmade).elim, fun _ => hsecond⟩
  obtain ⟨horders, hsame⟩ := annotations_of_order hbuiltIn hsheet
  have hkept := hsame.2 fun v hv w hw hvmade hwmade =>
    (halone v hv hvmade).trans (halone w hw hwmade).symm
  refine ⟨tree, sheet, htree, hsheet, ?_, fun order hperm => ?_⟩
  · obtain ⟨sheet', h', hlast⟩ := horders oneMarker (.refl _)
    obtain rfl := Except.ok.inj (hsheet.symm.trans h')
    rw [hlast, oneMarker, List.map_cons, List.map_cons, List.map_singleton, hfirst, hcode, hsecond]
    rfl
  · obtain ⟨sheet', h', -⟩ := horders order hperm
    exact ⟨sheet', h', hkept order hperm sheet' h'⟩

/-- Two comment visitors with different metrics and markers. -/
def twoMarkers : List Visitor :=
  [.comments (markerCount .commentLines "A"), .comments (markerCount .lines "B")]

set_option maxRecDepth 8000 in
/-- **The order of markers matters.**  Each visitor goes through and owns its metric alone, and the
suppressed lines are those of the one that comes last. -/
theorem order_of_markers_matters :
    (∀ v ∈ twoMarkers, v.IsBuiltIn) ∧
    twoMarkers.Pairwise (fun v w => v.metrics.Disjoint w.metrics) ∧
    ∃ tree, Syntax.flatTree "a.m" "objc" "// A\n// B\n".toList = .ok tree ∧
      ((measure twoMarkers tree "a.m").map fun sheet =>
        sheet.annotations.get? suppressedLinesKey) = .ok (some (.list [.int 2])) ∧
      ((measure twoMarkers.reverse tree "a.m").map fun sheet =>
        sheet.annotations.get? suppressedLinesKey) = .ok (some (.list [.int 1])) := by
  refine ⟨?_, ?_, _, by cbv, by cbv, by cbv⟩
  · exact List.forall_mem_cons.2 ⟨.comments _, List.forall_mem_singleton.2 (.comments _)⟩
  · simp [twoMarkers, Visitor.comments, CommentCount.metrics, markerCount]

end LineMetrics

import LineMetrics.Listing
import Mathlib

/-!
# What an entry changes in a listing

Entering a value takes the old entry of its key away and adds the new one, whatever their places
(`put_entries_perm`), and erasing takes the old entry away.  A sum over the values therefore moves
by the new value less the old one: `sum_put`, `sum_erase`.
-/

namespace LineMetrics
namespace Listing

variable {α β : Type}

/-- The values of a listing are those of its entries. -/
theorem map_values (l : Listing α β) (f : β → Int) :
    l.values.map f = l.entries.map fun e => f e.2 :=
  List.map_map

variable [DecidableEq α]

/-- Replacing a value leaves the other entries, in some order. -/
theorem replace_perm {k : α} {v : β} : ∀ {l : List (α × β)}, (l.map Prod.fst).Nodup →
    (replace k v l).Perm (l.filter (fun e => e.1 ≠ k) ++ [(k, v)])
  | [], _ => .refl _
  | (a, b) :: rest, h => by
    rw [List.map_cons, List.nodup_cons] at h
    by_cases ha : a = k
    · subst ha
      have hrest : rest.filter (fun e => e.1 ≠ a) = rest := by
        refine List.filter_eq_self.2 fun e he => decide_eq_true fun heq => ?_
        exact h.1 (List.mem_map.2 ⟨e, he, heq⟩)
      rw [List.filter_cons_of_neg (by simp), hrest, replace, if_pos rfl]
      exact (List.perm_append_singleton (a, v) rest).symm
    · simpa [replace, ha] using (replace_perm h.2).cons (a, b)

/-- **Entering a value** removes what was under its key and adds the new entry. -/
theorem put_entries_perm (l : Listing α β) (k : α) (v : β) :
    (l.put k v).entries.Perm ((l.erase k).entries ++ [(k, v)]) :=
  replace_perm l.nodup

/-- Among different keys an entry is what is looked up under its key. -/
theorem mem_iff_lookup {k : α} {v : β} : ∀ {l : List (α × β)}, (l.map Prod.fst).Nodup →
    ((k, v) ∈ l ↔ lookup k l = some v)
  | [], _ => by simp [lookup]
  | (a, b) :: rest, h => by
    rw [List.map_cons, List.nodup_cons] at h
    by_cases ha : a = k
    · subst ha
      have hv : (a, v) ∉ rest := fun hm => h.1 (List.mem_map.2 ⟨_, hm, rfl⟩)
      simp [lookup, hv, eq_comm]
    · simp [lookup, ha, Ne.symm ha, mem_iff_lookup h.2]

/-- The entries of a listing are what is looked up in it. -/
theorem mem_entries_iff {l : Listing α β} {k : α} {v : β} :
    (k, v) ∈ l.entries ↔ l.get? k = some v :=
  mem_iff_lookup l.nodup

/-- What is in the listing behind a put was put or was there before. -/
theorem mem_entries_put {l : Listing α β} {k : α} {v : β} {e : α × β}
    (h : e ∈ (l.put k v).entries) : e ∈ l.entries ∨ e = (k, v) := by
  rcases List.mem_append.1 ((l.put_entries_perm k v).mem_iff.1 h) with h | h
  · exact .inl (List.mem_of_mem_filter h)
  · exact .inr (List.mem_singleton.1 h)

/-- What was put into a listing was there before or is one of the entries put. -/
theorem mem_entries_foldl_put {es : List (α × β)} {l : Listing α β} {e : α × β}
    (h : e ∈ (es.foldl (fun l e => l.put e.1 e.2) l).entries) : e ∈ l.entries ∨ e ∈ es := by
  induction es generalizing l with
  | nil => exact .inl h
  | cons d es ih =>
    rcases ih h with h | h
    · rcases mem_entries_put h with h | rfl
      · exact .inl h
      · exact .inr List.mem_cons_self
    · exact .inr (List.mem_cons_of_mem d h)

/-- A listing of entries holds no others. -/
theorem mem_of_mem_ofList {es : List (α × β)} {e : α × β} (h : e ∈ (ofList es).entries) : e ∈ es :=
  (mem_entries_foldl_put h).resolve_left List.not_mem_nil

/-- An updated listing holds what one of the two held. -/
theorem mem_entries_update {l m : Listing α β} {e : α × β} (h : e ∈ (l.update m).entries) :
    e ∈ l.entries ∨ e ∈ m.entries :=
  mem_entries_foldl_put h

/-- A sum over the entries without a key is the whole sum less the key's part. -/
theorem sum_filter_ne (f : β → Int) {k : α} : ∀ {l : List (α × β)}, (l.map Prod.fst).Nodup →
    ((l.filter fun e => e.1 ≠ k).map fun e => f e.2).sum =
      (l.map fun e => f e.2).sum - ((lookup k l).map f).getD 0
  | [], _ => rfl
  | (a, b) :: rest, h => by
    rw [List.map_cons, List.nodup_cons] at h
    have ih := sum_filter_ne f (k := k) h.2
    by_cases ha : a = k
    · subst ha
      rw [lookup_eq_none_iff.2 h.1, Option.map_none, Option.getD_none] at ih
      rw [List.filter_cons_of_neg (by simp), ih, lookup, if_pos rfl, List.map_cons, List.sum_cons,
        Option.map_some, Option.getD_some]
      dsimp only
      omega
    · rw [List.filter_cons_of_pos (by simpa using ha), List.map_cons, List.sum_cons, ih, lookup,
        if_neg ha, List.map_cons, List.sum_cons]
      omega

/-- **What is erased leaves the sum.** -/
theorem sum_erase (l : Listing α β) (k : α) (f : β → Int) :
    ((l.erase k).values.map f).sum = (l.values.map f).sum - ((l.get? k).map f).getD 0 := by
  rw [map_values, map_values]
  exact sum_filter_ne f l.nodup

/-- **A sum moves by the new value less the old one.** -/
theorem sum_put (l : Listing α β) (k : α) (v : β) (f : β → Int) :
    ((l.put k v).values.map f).sum =
      (l.values.map f).sum - ((l.get? k).map f).getD 0 + f v := by
  rw [← sum_erase, map_values, map_values, ((l.put_entries_perm k v).map fun e => f e.2).sum_eq,
    List.map_append, List.sum_append, List.map_singleton, List.sum_singleton]

end Listing
end LineMetrics

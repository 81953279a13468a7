/-!
# Listings

A `Listing` is a finite map that remembers the order in which its keys were first entered.  Entering
a value under a key that is there replaces the value and keeps the key's place; erasing a key
forgets its place.
-/

namespace LineMetrics

/-- A finite map in order of entry. -/
structure Listing (α β : Type) where
  entries : List (α × β)
  nodup : (entries.map Prod.fst).Nodup

namespace Listing

variable {α β : Type}

/-- The listing without entries. -/
def empty : Listing α β := ⟨[], List.nodup_nil⟩

instance : Inhabited (Listing α β) := ⟨empty⟩

instance [Repr α] [Repr β] : Repr (Listing α β) := ⟨fun l n => reprPrec l.entries n⟩

/-- The keys in order of entry. -/
def keys (l : Listing α β) : List α := l.entries.map Prod.fst

/-- The values in order of entry. -/
def values (l : Listing α β) : List β := l.entries.map Prod.snd

theorem ext {l m : Listing α β} (h : l.entries = m.entries) : l = m := by
  cases l; cases m; simp_all

variable [DecidableEq α]

/-- The value under a key in a list of entries. -/
def lookup (k : α) : List (α × β) → Option β
  | [] => none
  | (a, b) :: rest => if a = k then some b else lookup k rest

/-- The entries with `v` under `k`. -/
def replace (k : α) (v : β) : List (α × β) → List (α × β)
  | [] => [(k, v)]
  | (a, b) :: rest => if a = k then (k, v) :: rest else (a, b) :: replace k v rest

theorem mem_keys_replace {k a : α} {v : β} {l : List (α × β)} :
    a ∈ (replace k v l).map Prod.fst ↔ a = k ∨ a ∈ l.map Prod.fst := by
  induction l with
  | nil => simp [replace]
  | cons e rest ih =>
    obtain ⟨b, w⟩ := e
    by_cases h : b = k
    · subst h
      simp [replace]
    · simp only [replace, h, if_false, List.map_cons, List.mem_cons, ih]
      constructor
      · rintro (h | h | h) <;> simp [h]
      · rintro (h | h | h) <;> simp [h]

theorem nodup_replace {k : α} {v : β} {l : List (α × β)} (h : (l.map Prod.fst).Nodup) :
    ((replace k v l).map Prod.fst).Nodup := by
  induction l with
  | nil => simp [replace]
  | cons e rest ih =>
    obtain ⟨b, w⟩ := e
    simp only [List.map_cons, List.nodup_cons] at h
    by_cases hb : b = k
    · subst hb
      simpa [replace] using h
    · simp only [replace, hb, if_false, List.map_cons, List.nodup_cons]
      exact ⟨fun hm => (mem_keys_replace.1 hm).elim hb h.1, ih h.2⟩

/-- The value under a key. -/
def get? (l : Listing α β) (k : α) : Option β := lookup k l.entries

/-- Whether there is an entry under a key. -/
def contains (l : Listing α β) (k : α) : Bool := (l.get? k).isSome

/-- The listing with `v` under `k`. -/
def put (l : Listing α β) (k : α) (v : β) : Listing α β :=
  ⟨replace k v l.entries, nodup_replace l.nodup⟩

/-- The listing without an entry under `k`. -/
def erase (l : Listing α β) (k : α) : Listing α β :=
  ⟨l.entries.filter fun e => e.1 ≠ k, (List.filter_sublist.map Prod.fst).nodup l.nodup⟩

/-- The entries of a list, later ones replacing earlier ones under the same key. -/
def ofList (entries : List (α × β)) : Listing α β :=
  entries.foldl (fun l e => l.put e.1 e.2) empty

/-- The first listing with the entries of the second put into it. -/
def update (l m : Listing α β) : Listing α β :=
  m.entries.foldl (fun l e => l.put e.1 e.2) l

theorem lookup_replace {k a : α} {v : β} (l : List (α × β)) :
    lookup a (replace k v l) = if a = k then some v else lookup a l := by
  induction l with
  | nil =>
    by_cases h : a = k
    · simp [replace, lookup, h]
    · simp [replace, lookup, h, Ne.symm h]
  | cons e rest ih =>
    obtain ⟨b, w⟩ := e
    by_cases hb : b = k
    · subst hb
      by_cases h : b = a
      · simp [replace, lookup, h]
      · simp [replace, lookup, h, Ne.symm h]
    · by_cases h : b = a
      · subst h
        simp [replace, lookup, hb]
      · simp [replace, lookup, hb, h, ih]

theorem lookup_filter_ne {k a : α} (l : List (α × β)) :
    lookup a (l.filter fun e => e.1 ≠ k) = if a = k then none else lookup a l := by
  induction l with
  | nil => simp [lookup]
  | cons e rest ih =>
    obtain ⟨b, w⟩ := e
    by_cases hb : b = k
    · subst hb
      by_cases h : a = b
      · simpa [List.filter_cons, h] using ih
      · simpa [List.filter_cons, lookup, h, Ne.symm h] using ih
    · by_cases h : b = a
      · subst h
        simp [lookup, hb]
      · simpa [List.filter_cons, lookup, hb, h] using ih

theorem lookup_eq_none_iff {a : α} {l : List (α × β)} :
    lookup a l = none ↔ a ∉ l.map Prod.fst := by
  induction l with
  | nil => simp [lookup]
  | cons e rest ih =>
    obtain ⟨b, w⟩ := e
    by_cases h : b = a
    · simp [lookup, h]
    · simp only [lookup, h, if_false, ih, List.map_cons, List.mem_cons, not_or]
      exact ⟨fun hm => ⟨Ne.symm h, hm⟩, And.right⟩

@[simp] theorem get?_empty (a : α) : (empty : Listing α β).get? a = none := rfl

/-- Entering a value changes what its key shows and nothing else. -/
@[simp] theorem get?_put (l : Listing α β) (k a : α) (v : β) :
    (l.put k v).get? a = if a = k then some v else l.get? a :=
  lookup_replace l.entries

/-- Erasing a key leaves nothing under it and everything else. -/
@[simp] theorem get?_erase (l : Listing α β) (k a : α) :
    (l.erase k).get? a = if a = k then none else l.get? a :=
  lookup_filter_ne l.entries

end Listing
end LineMetrics

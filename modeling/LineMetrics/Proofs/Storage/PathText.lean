import LineMetrics.Storage.Path
import Mathlib

/-!
# Paths and their texts

A path as it is read from a text is normal: its names are neither empty nor `.` and hold no slash.
The text of a normal path denotes that path again (`ofText_toText`), so normal paths with the same
text are equal (`toText_inj`).  So the ledger can know files by texts (specification, section 3: the
key of a file is its resolved path as a string).
-/

namespace LineMetrics

namespace Text

/-- Splitting a text at a separator is what the library does with lists. -/
theorem splitOn_eq (sep : Char) : ∀ s : List Char, splitOn sep s = s.splitOn sep
  | [] => rfl
  | c :: rest => by
    rw [splitOn, splitOn_eq sep rest, List.splitOn_cons_eq_if_modifyHead]
    by_cases hc : c = sep
    · rw [if_pos hc, if_pos (beq_iff_eq.2 hc)]
    · rw [if_neg hc, if_neg (mt beq_iff_eq.1 hc)]
      cases hrest : rest.splitOn sep with
      | nil => exact absurd hrest (List.splitOn_ne_nil sep rest)
      | cons first others => rfl

/-- The pieces of a text do not hold the separator. -/
theorem not_mem_of_mem_splitOn {sep : Char} : ∀ {s piece : List Char}, piece ∈ splitOn sep s →
    sep ∉ piece
  | [], piece, h => by
    rw [splitOn, List.mem_singleton] at h
    exact h ▸ List.not_mem_nil
  | c :: rest, piece, h => by
    rw [splitOn] at h
    split_ifs at h with hc
    · rcases List.mem_cons.1 h with rfl | h
      · exact List.not_mem_nil
      · exact not_mem_of_mem_splitOn h
    · cases hrest : splitOn sep rest with
      | nil => exact absurd (splitOn_eq sep rest ▸ hrest) (List.splitOn_ne_nil sep rest)
      | cons first others =>
        rw [hrest, List.mem_cons] at h
        rcases h with rfl | h
        · have hfirst : sep ∉ first := not_mem_of_mem_splitOn (hrest ▸ List.mem_cons_self)
          exact List.not_mem_cons_of_ne_of_not_mem (Ne.symm hc) hfirst
        · exact not_mem_of_mem_splitOn (hrest ▸ List.mem_cons_of_mem first h)

/-- The pieces of a text hold nothing that the text does not. -/
theorem mem_of_mem_splitOn {sep c : Char} : ∀ {s piece : List Char}, piece ∈ splitOn sep s →
    c ∈ piece → c ∈ s
  | [], piece, h, hc => by
    rw [splitOn, List.mem_singleton] at h
    exact h ▸ hc
  | d :: rest, piece, h, hc => by
    rw [splitOn] at h
    split_ifs at h
    · rcases List.mem_cons.1 h with rfl | h
      · exact absurd hc List.not_mem_nil
      · exact List.mem_cons_of_mem d (mem_of_mem_splitOn h hc)
    · cases hrest : splitOn sep rest with
      | nil => exact absurd (splitOn_eq sep rest ▸ hrest) (List.splitOn_ne_nil sep rest)
      | cons first others =>
        rw [hrest, List.mem_cons] at h
        rcases h with rfl | h
        · rcases List.mem_cons.1 hc with rfl | hc
          · exact List.mem_cons_self
          · exact List.mem_cons_of_mem d (mem_of_mem_splitOn (hrest ▸ List.mem_cons_self) hc)
        · have hpiece : piece ∈ splitOn sep rest := hrest ▸ List.mem_cons_of_mem first h
          exact List.mem_cons_of_mem d (mem_of_mem_splitOn hpiece hc)

end Text

namespace Path

/-- A name that stands for itself in a path, or `..`. -/
def IsName (n : String) : Prop := n ≠ "" ∧ n ≠ "." ∧ '/' ∉ n.toList

/-- A path as it is read from a text. -/
structure IsNormal (p : Path) : Prop where
  root : p.root = "" ∨ p.root = "/" ∨ p.root = "//"
  names : ∀ n ∈ p.names, IsName n

/-- The names of a text that lead somewhere. -/
def namesOf (s : String) : List String := (segments s).filter fun n => n ≠ "" ∧ n ≠ "."

/-- What is read from a text is normal. -/
theorem isNormal_ofText (s : String) : (ofText s).IsNormal where
  root := by
    dsimp only [ofText]
    unfold rootOf
    split <;> simp
  names n hn := by
    rw [ofText, List.mem_filter, segments, List.mem_map, decide_eq_true_eq] at hn
    obtain ⟨⟨piece, hpiece, rfl⟩, hne, hdot⟩ := hn
    exact ⟨hne, hdot, by rw [String.toList_ofList]; exact Text.not_mem_of_mem_splitOn hpiece⟩

/-- A slash in front of a text adds no name to it. -/
theorem namesOf_slash (s : String) : namesOf ("/" ++ s) = namesOf s := by
  rw [namesOf, segments, String.toList_append, show "/".toList = ['/'] from rfl,
    List.singleton_append, Text.splitOn, if_pos rfl]
  rfl

/-- Names put together with slashes are read back one by one. -/
theorem namesOf_intercalate {names : List String} (h : ∀ n ∈ names, IsName n) :
    namesOf ("/".intercalate names) = names := by
  by_cases hnil : names = []
  · subst hnil
    decide
  · rw [namesOf, segments, Text.splitOn_eq, String.toList_intercalate,
      show "/".toList = ['/'] from rfl, List.splitOn_intercalate, List.map_map]
    · have hid : String.ofList ∘ String.toList = id := funext fun _ => String.ofList_toList
      rw [hid, List.map_id, List.filter_eq_self]
      exact fun n hn => decide_eq_true ⟨(h n hn).1, (h n hn).2.1⟩
    · intro piece hpiece
      obtain ⟨n, hn, rfl⟩ := List.mem_map.1 hpiece
      exact (h n hn).2.2
    · simpa using hnil

/-- A text that starts with a name does not start with a slash. -/
theorem IsName.head_ne_slash {n : String} (h : IsName n) (rest : List Char) :
    (n.toList ++ rest).head? ≠ some '/' := by
  cases hn : n.toList with
  | nil => exact absurd (String.toList_eq_nil_iff.1 hn) h.1
  | cons c cs =>
    intro hc
    obtain rfl := Option.some.inj hc
    exact h.2.2 (hn ▸ List.mem_cons_self)

/-- Names that are joined by slashes do not start with one. -/
theorem intercalate_head_ne_slash {names : List String} (h : ∀ n ∈ names, IsName n) :
    ("/".intercalate names).toList.head? ≠ some '/' := by
  match names with
  | [] => exact nofun
  | [n] => simpa using (h n List.mem_cons_self).head_ne_slash []
  | n :: m :: more =>
    have hn := h n List.mem_cons_self
    simpa using hn.head_ne_slash ('/' :: ("/".intercalate (m :: more)).toList)

/-- The root of a text is in the slashes it starts with. -/
theorem rootOf_slashes {s : List Char} (h : s.head? ≠ some '/') :
    rootOf s = "" ∧ rootOf ('/' :: s) = "/" ∧ rootOf ('/' :: '/' :: s) = "//" := by
  cases s with
  | nil => exact ⟨rfl, rfl, rfl⟩
  | cons c cs =>
    have hc : c ≠ '/' := fun hc => h (hc ▸ rfl)
    refine ⟨?_, ?_, ?_⟩ <;> unfold rootOf <;> split <;> grind

/-- **Reading back what is shown:** the text of a normal path denotes that path. -/
theorem ofText_toText {p : Path} (h : p.IsNormal) : ofText p.toText = p := by
  obtain ⟨root, names⟩ := p
  obtain ⟨hroot, hnames⟩ := h
  dsimp only at hroot hnames
  obtain ⟨hrel, habs, hdouble⟩ := rootOf_slashes (intercalate_head_ne_slash hnames)
  have hread := namesOf_intercalate hnames
  rw [toText]
  split
  · rename_i hempty
    obtain ⟨rfl, rfl⟩ := hempty
    decide
  · change Path.mk (rootOf (root ++ "/".intercalate names).toList)
      (namesOf (root ++ "/".intercalate names)) = ⟨root, names⟩
    rcases hroot with rfl | rfl | rfl
    · rw [String.empty_append, hrel, hread]
    · rw [String.toList_append, namesOf_slash, hread]
      exact congrArg (Path.mk · names) habs
    · have hslashes : "//" ++ "/".intercalate names = "/" ++ ("/" ++ "/".intercalate names) := by
        rw [← String.append_assoc]
        rfl
      rw [hslashes, namesOf_slash, namesOf_slash, hread, String.toList_append, String.toList_append]
      exact congrArg (Path.mk · names) hdouble

/-- Normal paths are told apart by their texts. -/
theorem toText_inj {p q : Path} (hp : p.IsNormal) (hq : q.IsNormal) (h : p.toText = q.toText) :
    p = q := by
  rw [← ofText_toText hp, h, ofText_toText hq]

end Path
end LineMetrics

/-!
# Finding text in text
-/

namespace LineMetrics
namespace Text

/-- Whether `word` occurs in the text. -/
def occursIn (word : List Char) : List Char → Bool
  | [] => word.isEmpty
  | c :: rest => if word.isPrefixOf (c :: rest) then true else occursIn word rest

/-- Occurrence is decomposition: **`word` occurs in `s` exactly if `s` is `word` with text before
and after it.** -/
theorem occursIn_iff (word s : List Char) :
    occursIn word s = true ↔ ∃ before after, s = before ++ word ++ after := by
  induction s with
  | nil => cases word <;> simp [occursIn]
  | cons c rest ih =>
    rw [occursIn]
    split
    · rename_i h
      obtain ⟨after, h⟩ := List.isPrefixOf_iff_prefix.1 h
      simp only [true_iff]
      exact ⟨[], after, by simpa using h.symm⟩
    · rename_i h
      rw [ih]
      constructor
      · rintro ⟨before, after, rfl⟩
        exact ⟨c :: before, after, by simp⟩
      · rintro ⟨before, after, e⟩
        cases before with
        | nil => exact absurd (List.isPrefixOf_iff_prefix.2 ⟨after, by simpa using e.symm⟩) h
        | cons b before =>
          simp only [List.cons_append, List.cons.injEq] at e
          exact ⟨before, after, e.2⟩

/-- The text with its pieces between the separators of `sep`, a single character. -/
def splitOn (sep : Char) : List Char → List (List Char)
  | [] => [[]]
  | c :: rest =>
    if c = sep then [] :: splitOn sep rest
    else match splitOn sep rest with
      | piece :: pieces => (c :: piece) :: pieces
      | [] => [[c]]

/-- ASCII letters in lower case.  Text is compared in lower case with words of ASCII letters only,
and none of those holds a `k`, the one letter that a character outside ASCII (the Kelvin sign)
lowers to. -/
def lower (s : List Char) : List Char := s.map Char.toLower

/-- ASCII letters in lower case, and the long s as the `s` it folds to. -/
def foldCase (s : List Char) : List Char := s.map fun c => if c = 'ſ' then 's' else c.toLower

end Text
end LineMetrics

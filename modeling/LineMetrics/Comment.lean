import LineMetrics.Text.Alphanumeric
import LineMetrics.Text.LineBreak

/-!
# Comments and their contents

A comment family is an opening and a closing delimiter, the closing one empty for comments that run
to the end of their line (specification, section 4.2).  An analyzer holds at least one family, those
with longer openings first, so that `///` wins over `//`.  The contents of a comment are what is
left between its delimiters.
-/

namespace LineMetrics

/-- A comment family: its name and delimiters. -/
structure CommentFamily where
  name : String
  opening : List Char
  closing : List Char
  deriving Repr, DecidableEq

namespace CommentFamily

/-- The shortest text that holds both delimiters side by side. -/
def minLength (f : CommentFamily) : Nat := f.opening.length + f.closing.length

/-- Comments from `//` to the end of the line. -/
def line : CommentFamily := ⟨"line", ['/', '/'], []⟩

/-- Comments from `/*` to `*/`. -/
def block : CommentFamily := ⟨"block", ['/', '*'], ['*', '/']⟩

/-- The families of C and its relatives. -/
def ofC : List CommentFamily := [line, block]

theorem ofC_ne_nil : ofC ≠ [] := List.cons_ne_nil _ _

/-- Whether one family's opening delimiter is at least as long as another's. -/
def opensNoShorter (f g : CommentFamily) : Bool := decide (g.opening.length ≤ f.opening.length)

end CommentFamily

/-- Why a comment has no contents. -/
inductive CommentFault
  /-- No family's opening delimiter starts the comment. -/
  | noFamily (comment : List Char)
  /-- The delimiters would overlap. -/
  | tooShort (family : String) (comment : List Char)
  /-- The closing delimiter is missing. -/
  | unclosed (family : String) (comment : List Char)
  deriving Repr, DecidableEq

/-- Comment families to recognise comments by. -/
structure CommentAnalyzer where
  /-- The families, longer opening delimiters first. -/
  families : List CommentFamily
  families_ne_nil : families ≠ []
  longestFirst : families.Pairwise fun f g => g.opening.length ≤ f.opening.length

namespace CommentAnalyzer

/-- The analyzer of a list of families; families with openings of one length keep their order. -/
def ofList (families : List CommentFamily) (h : families ≠ []) : CommentAnalyzer where
  families := families.mergeSort CommentFamily.opensNoShorter
  families_ne_nil e := h (List.length_eq_zero_iff.1 (by
    have length : (families.mergeSort CommentFamily.opensNoShorter).length = families.length :=
      List.length_mergeSort families
    rw [← length, e]
    rfl))
  longestFirst := by
    have sorted : (families.mergeSort CommentFamily.opensNoShorter).Pairwise fun f g =>
        CommentFamily.opensNoShorter f g :=
      List.pairwise_mergeSort
        (by intro f g e h₁ h₂; simp [CommentFamily.opensNoShorter] at *; omega)
        (by intro f g; simp [CommentFamily.opensNoShorter]; omega) families
    simpa [CommentFamily.opensNoShorter] using sorted

/-- The analyzer of a list of families, of which there has to be one. -/
def create (families : List CommentFamily) : Except String CommentAnalyzer :=
  if h : families = [] then .error "at least one comment family is required"
  else .ok (ofList families h)

/-- The comments of C and its relatives. -/
def cFamily : CommentAnalyzer := ofList CommentFamily.ofC CommentFamily.ofC_ne_nil

/-- The family whose opening delimiter starts the comment. -/
def familyOf (a : CommentAnalyzer) (comment : List Char) : Except CommentFault CommentFamily :=
  match a.families.find? fun f => f.opening.isPrefixOf comment with
  | some family => .ok family
  | none => .error (.noFamily comment)

/-- The text between the delimiters of a comment. -/
def contents (a : CommentAnalyzer) (comment : List Char) : Except CommentFault (List Char) := do
  let family ← a.familyOf comment
  if comment.length < family.minLength then
    throw (.tooShort family.name comment)
  if !family.closing.isSuffixOf comment then
    throw (.unclosed family.name comment)
  return (comment.take (comment.length - family.closing.length)).drop family.opening.length

end CommentAnalyzer

/-- Whether a line of a comment holds neither letter nor number. -/
def isBlankLine (line : List Char) : Bool := !line.any Text.isAlphanumeric

end LineMetrics

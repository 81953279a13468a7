import LineMetrics.Proofs.Measure.Crlf
import LineMetrics.Proofs.Syntax.Walk

/-!
# Measures do not depend on the shape of a tree

A tree is flattened by putting the leaves and comments that the walk visits side by side below a
root that is neither (specification, section 3).  Their listings stay as they are, since each is the
stable sort of the same nodes (`SyntaxTree.Flattens.tokens_eq`, `SyntaxTree.Flattens.comments_eq`).
The visitors of the library see a tree through its listings and its line count only
(`Visitor.IsBuiltIn.observe_congr`), so no measure and no annotation changes:
`SyntaxTree.measure_flattening`.
-/

namespace LineMetrics

namespace Node

/-- Whether the node holds a part of the text: leaves and comments do. -/
def holdsText (n : Node) : Bool := n.isComment || n.isLeaf

/-- Code has text. -/
theorem holdsText_of_isToken {n : Node} (h : n.isToken = true) : n.holdsText = true := by
  rw [isToken, Bool.and_eq_true, Bool.and_eq_true] at h
  rw [holdsText, h.1.2, Bool.or_true]

/-- Comments have text. -/
theorem holdsText_of_isComment {n : Node} (h : n.isComment = true) : n.holdsText = true := by
  rw [holdsText, h, Bool.true_or]

/-- Below a leaf or a comment there is nothing to visit. -/
theorem visited_of_holdsText {n : Node} (h : n.holdsText = true) : n.visited = [] := by
  rw [visited]
  split
  · rfl
  · rename_i hcomment
    rw [holdsText, Bool.eq_false_of_not_eq_true hcomment, Bool.false_or] at h
    exact List.isEmpty_iff.1 h

end Node

namespace SyntaxTree

variable {flat t : SyntaxTree}

/-- The leaves and comments of `t` side by side, below a root that is no comment and has no text. -/
structure Flattens (flat t : SyntaxTree) : Prop where
  lineCount : flat.lineCount = t.lineCount
  isComment : flat.root.isComment = false
  text : flat.root.text = none
  children : flat.root.children = t.root.preorder.filter Node.holdsText

/-- The tree with its leaves and comments side by side below its root. -/
def flattened (t : SyntaxTree) : SyntaxTree :=
  { t with root := { t.root with
      text := none, children := t.root.preorder.filter Node.holdsText, isComment := false } }

/-- The flat form of a tree flattens it. -/
theorem flattens_flattened (t : SyntaxTree) : t.flattened.Flattens t := ⟨rfl, rfl, rfl, rfl⟩

namespace Flattens

/-- The walk of the flat tree: its root, and the leaves and comments of the other walk. -/
theorem preorder_eq (h : flat.Flattens t) :
    flat.root.preorder = flat.root :: t.root.preorder.filter Node.holdsText := by
  have hvisited : flat.root.visited = t.root.preorder.filter Node.holdsText := by
    rw [Node.visited, h.isComment, h.children]
    rfl
  rw [Node.preorder_eq_cons, hvisited, Node.preorderAll_of_not_visited fun n hn =>
    Node.visited_of_holdsText (List.mem_filter.1 hn).2]

/-- The walks visit the same nodes of a kind that only leaves and comments are of. -/
theorem filter_preorder_eq (h : flat.Flattens t) {p : Node → Bool} (hroot : p flat.root = false)
    (hp : ∀ n, p n = true → n.holdsText = true) :
    flat.root.preorder.filter p = t.root.preorder.filter p := by
  rw [h.preorder_eq, List.filter_cons_of_neg (by simp [hroot]), List.filter_filter]
  refine List.filter_congr fun n _ => ?_
  cases hn : p n with
  | false => rfl
  | true => rw [hp n hn, Bool.and_self]

/-- A flat form lists the same code. -/
theorem tokens_eq (h : flat.Flattens t) : flat.tokens = t.tokens := by
  have hroot : flat.root.isToken = false := by
    rw [Node.isToken, h.text]
    exact Bool.and_false _
  have hflat := flat.isStableSort_tokens
  rw [h.filter_preorder_eq hroot fun _ => Node.holdsText_of_isToken] at hflat
  exact hflat.unique t.isStableSort_tokens

/-- A flat form lists the same comments. -/
theorem comments_eq (h : flat.Flattens t) : flat.comments = t.comments := by
  have hflat := flat.isStableSort_comments
  rw [h.filter_preorder_eq h.isComment fun _ => Node.holdsText_of_isComment] at hflat
  exact hflat.unique t.isStableSort_comments

end Flattens
end SyntaxTree

/-- The visitors of the library, with any metrics and settings. -/
inductive Visitor.IsBuiltIn : Visitor → Prop
  | lines (metric : Metric) : IsBuiltIn (.lines metric)
  | linesOfCode (metric : Metric) : IsBuiltIn (.linesOfCode metric)
  | comments (c : CommentCount) : IsBuiltIn (.comments c)

section Congruence

variable {t u : SyntaxTree}

/-- The counted comments are found in the listings. -/
theorem CommentCount.counted_congr (htokens : u.tokens = t.tokens)
    (hcomments : u.comments = t.comments) (c : CommentCount) : c.counted u = c.counted t := by
  rw [counted, counted, SyntaxTree.commentsBelowHeader, SyntaxTree.commentsBelowHeader, htokens,
    hcomments]

/-- A visitor of the library observes the line count and the listings of a tree. -/
theorem Visitor.IsBuiltIn.observe_congr {v : Visitor} (hv : v.IsBuiltIn)
    (hlines : u.lineCount = t.lineCount) (htokens : u.tokens = t.tokens)
    (hcomments : u.comments = t.comments) : v.observe u = v.observe t := by
  cases hv with
  | lines metric =>
    show Observation.mk [.set metric u.lineCount] none = ⟨[.set metric t.lineCount], none⟩
    rw [hlines]
  | linesOfCode metric =>
    have hcode : codeLines u = codeLines t := by rw [codeLines, codeLines, htokens]
    show Observation.mk [.set metric (codeLines u).size] none =
      ⟨[.set metric (codeLines t).size], none⟩
    rw [hcode]
  | comments c =>
    have hsurvey : c.survey u = c.survey t := by
      rw [CommentCount.survey, CommentCount.survey, c.counted_congr htokens hcomments]
    show Observation.ofExcept (c.writes u) = Observation.ofExcept (c.writes t)
    rw [CommentCount.writes, CommentCount.writes, hsurvey]

end Congruence

namespace SyntaxTree

open Node (IsStableSort)

/-- **The shape of a tree does not matter.**  The walk is the recursive traversal, the listings are
the stable sorts of its tokens and of its comments, and with the leaves and comments put side by
side the tree has the same listings and gets the same sheet from visitors of the library. -/
theorem measure_flattening (t : SyntaxTree) :
    t.root.walk = t.root.preorder ∧
    IsStableSort (t.root.preorder.filter Node.isToken) t.tokens ∧
    IsStableSort (t.root.preorder.filter Node.isComment) t.comments ∧
    ∀ flat : SyntaxTree, flat.Flattens t →
      flat.tokens = t.tokens ∧ flat.comments = t.comments ∧
      ∀ visitors : List Visitor, (∀ v ∈ visitors, v.IsBuiltIn) → ∀ path : String,
        measure visitors flat path = measure visitors t path := by
  refine ⟨t.root.walk_eq_preorder, t.isStableSort_tokens, t.isStableSort_comments,
    fun flat hflat => ⟨hflat.tokens_eq, hflat.comments_eq, fun visitors hvisitors path => ?_⟩⟩
  exact measure_congr (fun v hv =>
    (hvisitors v hv).observe_congr hflat.lineCount hflat.tokens_eq hflat.comments_eq) path

/-- A tree whose second line comes first, with a leaf at the place of a comment, and with a node
below the comment. -/
def shuffled : SyntaxTree where
  path := "a.m"
  language := "objc"
  root := ⟨"translation_unit", ⟨1, 0⟩, 2, none,
    [⟨"declaration", ⟨2, 0⟩, 2, none, [.leaf "identifier" ⟨2, 0⟩ 2 ['x'] false], false⟩,
      ⟨"comment", ⟨1, 0⟩, 1, some "// a".toList, [.leaf "identifier" ⟨1, 3⟩ 1 ['a'] false], true⟩,
      .leaf "identifier" ⟨1, 0⟩ 1 ['y'] false], false⟩
  lineCount := 2

/-- A tree whose children stand in the wrong order is measured like its flat form. -/
theorem measure_flattening_shuffled :
    shuffled.tokens.filterMap Node.text = [['y'], ['x']] ∧
    shuffled.flattened.Flattens shuffled ∧
    measure [.lines .lines, .linesOfCode .linesOfCode] shuffled.flattened "a.m" =
      measure [.lines .lines, .linesOfCode .linesOfCode] shuffled "a.m" := by
  refine ⟨by cbv, shuffled.flattens_flattened, ?_⟩
  refine ((measure_flattening shuffled).2.2.2 _ shuffled.flattens_flattened).2.2 _ ?_ _
  intro v hv
  rcases List.mem_pair.1 hv with rfl | rfl
  · exact .lines _
  · exact .linesOfCode _

end SyntaxTree
end LineMetrics

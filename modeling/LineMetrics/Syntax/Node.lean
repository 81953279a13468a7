import LineMetrics.Text.Blank
import LineMetrics.Text.LineBreak

/-!
# Syntax nodes

A syntax node spans lines of a file (specification, section 3).  Leaves and comments carry their
text; other nodes carry children.  Positions are integers, because a tree may come from an outside
grammar that promises nothing about them.
-/

namespace LineMetrics

/-- A node of a syntax tree. -/
structure Node where
  /-- Grammar type, such as `identifier` or `comment`. -/
  type : String
  /-- First character: line from 1, column from 0. -/
  start : Position
  /-- Last line, included. -/
  endLine : Int
  /-- Source text of leaves and comments. -/
  text : Option (List Char)
  children : List Node
  isComment : Bool
  deriving Repr, Inhabited

namespace Node

/-- A node without children. -/
def leaf (type : String) (start : Position) (endLine : Int) (text : List Char) (isComment : Bool) :
    Node :=
  ⟨type, start, endLine, some text, [], isComment⟩

/-- Whether the node has no children. -/
def isLeaf (n : Node) : Bool := n.children.isEmpty

/-- The lines from the first to the last, none if the last comes before the first. -/
def lines (n : Node) : List Int :=
  (List.range (n.endLine + 1 - n.start.line).toNat).map fun (k : Nat) => n.start.line + (k : Int)

/-- Whether the node is a code token: a leaf outside comments with visible text. -/
def isToken (n : Node) : Bool :=
  !n.isComment && n.isLeaf && (n.text.elim false Text.isVisible)

/-- The nodes to visit below a node: a comment is not entered. -/
def visited (n : Node) : List Node := if n.isComment then [] else n.children

mutual

/-- The number of nodes of a tree. -/
def count : Node → Nat
  | ⟨_, _, _, _, children, _⟩ => countAll children + 1

/-- The number of nodes of a list of trees. -/
def countAll : List Node → Nat
  | [] => 0
  | n :: rest => count n + countAll rest

end

theorem countAll_append (ns ms : List Node) :
    countAll (ns ++ ms) = countAll ns + countAll ms := by
  induction ns with
  | nil => simp [countAll]
  | cons n ns ih => simp [countAll, ih, Nat.add_assoc]

theorem countAll_visited_lt (n : Node) : countAll n.visited < count n := by
  obtain ⟨type, start, endLine, text, children, isComment⟩ := n
  cases isComment <;> simp [visited, count, countAll]

/-- The nodes below those on a worklist, behind the nodes already seen, which are held in
reverse. -/
def walkFrom (seen : List Node) : List Node → List Node
  | [] => seen.reverse
  | n :: rest => walkFrom (n :: seen) (n.visited ++ rest)
termination_by worklist => countAll worklist
decreasing_by
  rw [countAll_append, countAll]
  have := countAll_visited_lt n
  omega

theorem walkFrom_eq : ∀ seen worklist : List Node,
    walkFrom seen worklist = seen.reverse ++ walkFrom [] worklist
  | seen, [] => by simp [walkFrom]
  | seen, n :: rest => by
    rw [walkFrom, walkFrom, walkFrom_eq (n :: seen) (n.visited ++ rest),
      walkFrom_eq [n] (n.visited ++ rest)]
    simp
termination_by _ worklist => countAll worklist
decreasing_by
  all_goals
    rw [countAll_append, countAll]
    have := countAll_visited_lt n
    omega

/-- The first node of a worklist is seen first, and then those below it in front of the others. -/
theorem walkFrom_cons (n : Node) (rest : List Node) :
    walkFrom [] (n :: rest) = n :: walkFrom [] (n.visited ++ rest) := by
  rw [walkFrom, walkFrom_eq]
  rfl

/-- All nodes of a tree, each before those below it, children in order, without those inside
comments. -/
def walk (n : Node) : List Node := walkFrom [] [n]

end Node
end LineMetrics

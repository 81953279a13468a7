/-!
# Raw nodes

The nodes that a grammar's parser returns.  Rows and columns count from 0, text is bytes, and two
flags tell of syntax errors: `hasError` that there is one in the subtree, `isMissing` that the
parser made the node up.  The flags are taken as they are given.
-/

namespace LineMetrics

/-- A node of a grammar's tree. -/
structure RawNode where
  type : String
  startRow : Int
  startColumn : Int
  endRow : Int
  text : Option (List UInt8)
  children : List RawNode
  hasError : Bool
  isMissing : Bool
  deriving Repr, Inhabited

namespace RawNode

/-- Whether the node itself marks a syntax error. -/
def isFault (n : RawNode) : Bool := n.type = "ERROR" || n.isMissing

/-- The children that may hold a syntax error. -/
def suspects (n : RawNode) : List RawNode := n.children.filter fun c => c.hasError || c.isMissing

mutual

/-- The number of nodes of a tree. -/
def count : RawNode → Nat
  | ⟨_, _, _, _, _, children, _, _⟩ => countAll children + 1

/-- The number of nodes of a list of trees. -/
def countAll : List RawNode → Nat
  | [] => 0
  | n :: rest => count n + countAll rest

end

theorem countAll_append (ns ms : List RawNode) :
    countAll (ns ++ ms) = countAll ns + countAll ms := by
  induction ns with
  | nil => simp [countAll]
  | cons n ns ih => simp [countAll, ih, Nat.add_assoc]

theorem countAll_filter_le (p : RawNode → Bool) (ns : List RawNode) :
    countAll (ns.filter p) ≤ countAll ns := by
  induction ns with
  | nil => simp [countAll]
  | cons n ns ih =>
    rw [List.filter_cons]
    split <;> simp only [countAll] <;> omega

theorem countAll_suspects_lt (n : RawNode) : countAll n.suspects < count n := by
  obtain ⟨type, startRow, startColumn, endRow, text, children, hasError, isMissing⟩ := n
  have := countAll_filter_le (fun c => c.hasError || c.isMissing) children
  simp only [suspects, count]
  omega

/-- The first node that marks a syntax error among those on a worklist and the suspects below them,
in the order of the source. -/
def firstFaultFrom : List RawNode → Option RawNode
  | [] => none
  | n :: rest => if n.isFault then some n else firstFaultFrom (n.suspects ++ rest)
termination_by worklist => countAll worklist
decreasing_by
  rw [countAll_append, countAll]
  have := countAll_suspects_lt n
  omega

/-- The line of the first syntax error below a node, or of the node itself if none is marked. -/
def faultLine (n : RawNode) : Int :=
  match firstFaultFrom [n] with
  | some fault => fault.startRow + 1
  | none => n.startRow + 1

end RawNode
end LineMetrics

import LineMetrics.Proofs.Grammar.Rows
import LineMetrics.Proofs.Syntax.Walk

/-!
# Trees with and without a syntax error

A grammar's parser recovers from a syntax error: it marks a node and flags the nodes above it
(specification, section 2).  The search for the first mark goes by a worklist and passes over the
children without a flag.  Where the flags are right it passes over nothing that is marked
(`find?_suspects`), so it finds the first marked node of the whole tree in the order of the source:
`firstFaultFrom_eq`.  The line of the root, which stands in for a mark that is not found, is then
never given.

A tree without a mark becomes a syntax tree as a whole.  Its walk shows the nodes of the raw tree
that are not inside comments, in the same order and each at its place, a macro body as its code and
its comment: `preorder_toNode`.
-/

namespace LineMetrics

namespace RawNode

/-! ### The search -/

/-- The nodes of a tree are its root and then those below it. -/
theorem nodes_eq_cons (n : RawNode) : n.nodes = n :: nodesOf n.children := by
  obtain ⟨type, startRow, startColumn, endRow, text, children, hasError, isMissing⟩ := n
  rw [nodes]

/-- A tree is one of its own nodes. -/
theorem mem_nodes_self (n : RawNode) : n ∈ n.nodes := by
  rw [nodes_eq_cons]
  exact List.mem_cons_self

/-- The nodes of two rows of trees come one row after the other. -/
theorem nodesOf_append (ns ms : List RawNode) : nodesOf (ns ++ ms) = nodesOf ns ++ nodesOf ms := by
  induction ns with
  | nil => rfl
  | cons n ns ih => rw [List.cons_append, nodesOf, nodesOf, ih, List.append_assoc]

/-- A node of a row of trees is one of some tree in it. -/
theorem mem_nodesOf_iff {m : RawNode} {ns : List RawNode} :
    m ∈ nodesOf ns ↔ ∃ n ∈ ns, m ∈ n.nodes := by
  induction ns with
  | nil => simp [nodesOf]
  | cons n ns ih => rw [nodesOf, List.mem_append, ih, List.exists_mem_cons_iff]

/-- The flags of a tree are right: a node is flagged exactly if it marks a syntax error or a node
below it does. -/
def FlagsAgree (root : RawNode) : Prop :=
  ∀ n ∈ root.nodes, (n.hasError = true ↔ ∃ m ∈ n.nodes, m.isFault = true)

instance (root : RawNode) : Decidable root.FlagsAgree :=
  inferInstanceAs (Decidable (∀ n ∈ root.nodes, _))

/-- Flags that agree in a tree agree in the trees below it. -/
theorem FlagsAgree.child {n c : RawNode} (h : n.FlagsAgree) (hc : c ∈ n.children) :
    c.FlagsAgree := by
  intro m hm
  refine h m ?_
  rw [nodes_eq_cons]
  exact List.mem_cons_of_mem n (mem_nodesOf_iff.2 ⟨c, hc, hm⟩)

/-- Below a child that is passed over nothing is marked. -/
theorem FlagsAgree.find?_nodes {c : RawNode} (h : c.FlagsAgree)
    (hsuspect : (c.hasError || c.isMissing) = false) : c.nodes.find? isFault = none := by
  obtain ⟨hflag, -⟩ := Bool.or_eq_false_iff.1 hsuspect
  refine List.find?_eq_none.2 fun m hm hfault => ?_
  rw [(h c (mem_nodes_self c)).2 ⟨m, hm, hfault⟩] at hflag
  cases hflag

/-- **Passing over** the children without a flag loses no mark. -/
theorem find?_suspects {n : RawNode} (h : ∀ c ∈ n.children, c.FlagsAgree) :
    (nodesOf n.suspects).find? isFault = (nodesOf n.children).find? isFault := by
  rw [suspects]
  generalize n.children = children at h
  induction children with
  | nil => rfl
  | cons c cs ih =>
    obtain ⟨hc, hcs⟩ := List.forall_mem_cons.1 h
    rw [nodesOf, List.find?_append, ← ih hcs]
    cases hsuspect : c.hasError || c.isMissing with
    | true =>
      rw [List.filter_cons, if_pos hsuspect, nodesOf, List.find?_append]
    | false =>
      rw [List.filter_cons, if_neg (by simp [hsuspect]), hc.find?_nodes hsuspect, Option.none_or]

/-- **The search finds the first mark** of the trees on its worklist. -/
theorem firstFaultFrom_eq (worklist : List RawNode) (h : ∀ n ∈ worklist, n.FlagsAgree) :
    firstFaultFrom worklist = (nodesOf worklist).find? isFault := by
  -- By the recursion of the search, whose next worklist has the suspects in front.
  fun_induction firstFaultFrom worklist with
  | case1 => rfl
  | case2 n rest hfault =>
    rw [nodesOf, nodes_eq_cons, List.cons_append, List.find?_cons_of_pos hfault]
  | case3 n rest hfault ih =>
    obtain ⟨hn, hrest⟩ := List.forall_mem_cons.1 h
    have hchildren : ∀ c ∈ n.children, c.FlagsAgree := fun c hc => hn.child hc
    have hnext : ∀ m ∈ n.suspects ++ rest, m.FlagsAgree := by
      intro m hm
      rcases List.mem_append.1 hm with hm | hm
      · exact hchildren m (List.mem_of_mem_filter hm)
      · exact hrest m hm
    rw [ih hnext, nodesOf_append, List.find?_append, find?_suspects hchildren, nodesOf,
      nodes_eq_cons, List.cons_append, List.find?_cons_of_neg hfault, List.find?_append]

/-- The line of a syntax error is that of the first mark in the tree. -/
theorem faultLine_eq {root fault : RawNode} (h : root.FlagsAgree)
    (hfault : root.nodes.find? isFault = some fault) : root.faultLine = fault.startRow + 1 := by
  have hsearch := firstFaultFrom_eq [root] (List.forall_mem_singleton.2 h)
  rw [nodesOf, nodesOf, List.append_nil, hfault] at hsearch
  rw [faultLine, hsearch]

/-! ### The whole tree -/

mutual

/-- A node and the nodes below it that are not inside comments, in order. -/
def entered (commentTypes : List String) : RawNode → List RawNode
  | n@⟨type, _, _, _, _, children, _, _⟩ =>
    n :: if commentTypes.contains type then [] else enteredAll commentTypes children

/-- The nodes of a list of trees that are not inside comments, in order. -/
def enteredAll (commentTypes : List String) : List RawNode → List RawNode
  | [] => []
  | n :: rest => entered commentTypes n ++ enteredAll commentTypes rest

end

/-- The nodes below a node that are not inside comments, in order. -/
def enteredBelow (commentTypes : List String) (n : RawNode) : List RawNode :=
  if commentTypes.contains n.type then [] else enteredAll commentTypes n.children

/-- What a tree enters is its root and then what is entered below it. -/
theorem entered_eq_cons (commentTypes : List String) (n : RawNode) :
    n.entered commentTypes = n :: n.enteredBelow commentTypes := by
  obtain ⟨type, startRow, startColumn, endRow, text, children, hasError, isMissing⟩ := n
  rw [entered, enteredBelow]

/-- A raw node in lines and characters, without the nodes below it.  Leaves and comments have
text. -/
def bare (commentTypes : List String) (n : RawNode) : Node where
  type := n.type
  start := ⟨n.startRow + 1, n.startColumn⟩
  endLine := n.endRow + 1
  text := if commentTypes.contains n.type || n.children.isEmpty then some (decodedText n.text)
    else none
  children := []
  isComment := commentTypes.contains n.type

end RawNode

/-- A node without the nodes below it. -/
def Node.bare (n : Node) : Node := { n with children := [] }

/-- What a body without nodes below it is split into has none either. -/
theorem MacroBody.children_of_mem_split {n part : Node} (hn : n.children = [])
    (h : part ∈ split n) : part.children = [] := by
  obtain hsplit | ⟨head, tail, -, -, hsplit | hsplit⟩ := split_cases n
  · rw [hsplit, List.mem_singleton] at h
    rwa [h]
  · rw [hsplit, List.mem_singleton] at h
    rw [h]
    rfl
  · rw [hsplit, List.mem_pair] at h
    rcases h with rfl | rfl
    · rfl
    · rfl

/-- A node without text is not split. -/
theorem MacroBody.split_of_text_none {n : Node} (h : n.text = none) : split n = [n] := by
  rw [split, h, ite_self]

/-- Nodes with nothing below them are walked as they come. -/
theorem Node.map_bare_preorderAll {ns : List Node} (h : ∀ n ∈ ns, n.children = []) :
    (preorderAll ns).map bare = ns := by
  rw [preorderAll_of_not_visited fun n hn => by rw [visited, h n hn, ite_self]]
  conv_rhs => rw [← List.map_id ns]
  refine List.map_congr_left fun n hn => ?_
  obtain ⟨type, start, endLine, text, children, isComment⟩ := n
  obtain rfl : children = [] := h _ hn
  rfl

namespace RawNode

variable {commentTypes : List String}

/-- A raw leaf or comment becomes a leaf. -/
theorem toNode_eq_bare {n : RawNode}
    (h : (commentTypes.contains n.type || n.children.isEmpty) = true) :
    n.toNode commentTypes = n.bare commentTypes := by
  obtain ⟨type, startRow, startColumn, endRow, text, children, hasError, isMissing⟩ := n
  dsimp only at h
  rw [toNode, bare]
  dsimp only
  rw [if_pos h, if_pos h]
  rfl

/-- Nothing is entered below a comment or a leaf. -/
theorem enteredBelow_eq_nil {n : RawNode}
    (h : (commentTypes.contains n.type || n.children.isEmpty) = true) :
    n.enteredBelow commentTypes = [] := by
  rw [enteredBelow]
  split
  · rfl
  · rename_i hcode
    rw [Bool.eq_false_of_not_eq_true hcode, Bool.false_or, List.isEmpty_iff] at h
    rw [h, enteredAll]

/-- Any other raw node has no text and keeps what is below it. -/
theorem toNode_of_inner {n : RawNode}
    (h : ¬(commentTypes.contains n.type || n.children.isEmpty) = true) :
    n.toNode commentTypes = ⟨n.type, ⟨n.startRow + 1, n.startColumn⟩, n.endRow + 1, none,
      toNodes commentTypes n.children, false⟩ := by
  obtain ⟨type, startRow, startColumn, endRow, text, children, hasError, isMissing⟩ := n
  exact (toNode.eq_1 ..).trans (if_neg h)

/-- An inner node is made into one without text or children. -/
theorem bare_of_inner {n : RawNode}
    (h : ¬(commentTypes.contains n.type || n.children.isEmpty) = true) :
    n.bare commentTypes =
      ⟨n.type, ⟨n.startRow + 1, n.startColumn⟩, n.endRow + 1, none, [], false⟩ := by
  rw [bare, if_neg h, (Bool.or_eq_false_iff.1 (Bool.eq_false_of_not_eq_true h)).1]

/-- Below an inner node everything is entered that its children enter. -/
theorem enteredBelow_of_inner {n : RawNode}
    (h : ¬(commentTypes.contains n.type || n.children.isEmpty) = true) :
    n.enteredBelow commentTypes = enteredAll commentTypes n.children := by
  rw [enteredBelow, (Bool.or_eq_false_iff.1 (Bool.eq_false_of_not_eq_true h)).1]
  rfl

mutual

/-- **A raw tree becomes a syntax tree as a whole.** -/
theorem preorder_toNode : ∀ n : RawNode, (n.toNode commentTypes).preorder.map Node.bare =
    n.bare commentTypes :: (n.enteredBelow commentTypes).flatMap fun m =>
      MacroBody.split (m.bare commentTypes)
  | ⟨type, startRow, startColumn, endRow, text, children, hasError, isMissing⟩ => by
    by_cases h : (commentTypes.contains type || children.isEmpty) = true
    · rw [toNode_eq_bare h, enteredBelow_eq_nil h, Node.preorder_eq_cons, Node.visited, bare,
        ite_self]
      rfl
    · rw [toNode_of_inner h, bare_of_inner h, enteredBelow_of_inner h, ← preorder_toNodes children,
        Node.preorder_eq_cons]
      rfl

/-- **The nodes of a converted row of trees**, in depth-first order and without their children, are
the nodes that are entered, each of them split if it is the body of a macro. -/
theorem preorder_toNodes : ∀ ns : List RawNode,
    (Node.preorderAll (toNodes commentTypes ns)).map Node.bare =
      (enteredAll commentTypes ns).flatMap fun m => MacroBody.split (m.bare commentTypes)
  | [] => rfl
  | n :: rest => by
    rw [toNodes, Node.preorderAll_append, List.map_append, preorder_toNodes rest, enteredAll,
      List.flatMap_append, entered_eq_cons, List.flatMap_cons]
    refine congrArg (· ++ _) ?_
    by_cases h : (commentTypes.contains n.type || n.children.isEmpty) = true
    · -- Nothing is below the node, nor below what it is split into.
      rw [toNode_eq_bare h, enteredBelow_eq_nil h, List.flatMap_nil, List.append_nil]
      exact Node.map_bare_preorderAll fun part => MacroBody.children_of_mem_split rfl
    · -- A node without text is not split.
      have htext : (n.bare commentTypes).text = none := if_neg h
      have hnode : (n.toNode commentTypes).text = none := by rw [toNode_of_inner h]
      rw [MacroBody.split_of_text_none hnode, MacroBody.split_of_text_none htext,
        Node.preorderAll, Node.preorderAll, List.append_nil, preorder_toNode n]
      rfl

end

end RawNode

namespace Parser

section

variable {catalog : Catalog} {language : Language} {path : String} {s : List Char} {root : RawNode}

/-- **A marked tree is refused** with the line of its first mark. -/
theorem parse_of_fault (hroot : catalog.parse language.grammar s = some root)
    (hflags : root.FlagsAgree) {fault : RawNode}
    (hfault : root.nodes.find? RawNode.isFault = some fault) :
    parse ⟨.grammar, language⟩ catalog path s =
      .error (.parse path language.name s!"syntax error near line {fault.startRow + 1}") := by
  have hflag : root.hasError = true :=
    (hflags root root.mem_nodes_self).2
      ⟨fault, List.mem_of_find?_eq_some hfault, List.find?_some hfault⟩
  have htree : Syntax.grammarTree path language s (catalog.parse language.grammar s) =
      .error (.errorNear (fault.startRow + 1)) := by
    rw [hroot, Syntax.grammarTree, ← RawNode.faultLine_eq hflags hfault]
    exact if_pos hflag
  rw [parse]
  dsimp only
  rw [htree]
  rfl

end

end Parser

end LineMetrics

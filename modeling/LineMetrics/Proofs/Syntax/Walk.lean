import LineMetrics.Proofs.Text.LineStart
import LineMetrics.Syntax.Tree

/-!
# The walk and its listings

The walk takes nodes from a worklist and puts those below a node in front of the others
(specification, section 3).  It visits what the recursive traversal visits, in the same order:
`Node.walk_eq_preorder`.

A listing sorts the nodes of one kind by place, and the sort is stable: nodes of one place keep the
order of the walk (`SyntaxTree.isStableSort_listing`).  A list has one stable sort only
(`Node.IsStableSort.unique`), so two trees whose walks show the same nodes of a kind list them
alike, whatever else there is in them.
-/

namespace LineMetrics

namespace Node

/-! ### The walk -/

mutual

/-- A node and the nodes below it, each before those below itself and children in order; what is
below a comment is left out. -/
def preorder : Node → List Node
  | n@⟨_, _, _, _, children, isComment⟩ => n :: if isComment then [] else preorderAll children

/-- The nodes of a list of trees, one tree after the other. -/
def preorderAll : List Node → List Node
  | [] => []
  | n :: rest => preorder n ++ preorderAll rest

end

/-- A pre-order is the node and then that of its visited children. -/
theorem preorder_eq_cons (n : Node) : n.preorder = n :: preorderAll n.visited := by
  obtain ⟨type, start, endLine, text, children, isComment⟩ := n
  cases isComment <;> simp [preorder, visited, preorderAll]

/-- The pre-order of two rows is one after the other. -/
theorem preorderAll_append (ns ms : List Node) :
    preorderAll (ns ++ ms) = preorderAll ns ++ preorderAll ms := by
  induction ns with
  | nil => rfl
  | cons n ns ih => rw [List.cons_append, preorderAll, preorderAll, ih, List.append_assoc]

/-- The trees on a worklist are traversed one after the other. -/
theorem walkFrom_eq_preorderAll : ∀ worklist, walkFrom [] worklist = preorderAll worklist
  | [] => by rw [walkFrom, preorderAll, List.reverse_nil]
  | n :: rest => by
    rw [walkFrom_cons, walkFrom_eq_preorderAll (n.visited ++ rest), preorderAll_append,
      preorderAll, preorder_eq_cons, List.cons_append]
termination_by worklist => countAll worklist
decreasing_by
  rw [countAll_append, countAll]
  have := countAll_visited_lt n
  omega

/-- **The walk is the recursive traversal.** -/
theorem walk_eq_preorder (n : Node) : n.walk = n.preorder := by
  rw [walk, walkFrom_eq_preorderAll, preorderAll, preorderAll, List.append_nil]

/-- Trees with nothing to visit below their roots are traversed as they come. -/
theorem preorderAll_of_not_visited {ns : List Node} (h : ∀ n ∈ ns, n.visited = []) :
    preorderAll ns = ns := by
  induction ns with
  | nil => rfl
  | cons n ns ih =>
    obtain ⟨hn, hns⟩ := List.forall_mem_cons.1 h
    rw [preorderAll, preorder_eq_cons, hn, ih hns]
    rfl

/-! ### Stable sorts -/

/-- The nodes of `xs` by place, and nodes of one place in the order they have in `xs`. -/
structure IsStableSort (xs ys : List Node) : Prop where
  perm : ys.Perm xs
  sorted : ys.Pairwise fun m n => m.start.notAfter n.start = true
  stable : ∀ p : Position, ys.filter (fun n => n.start = p) = xs.filter fun n => n.start = p

end Node

namespace Position

theorem notAfter_refl (p : Position) : p.notAfter p = true := by
  rw [notAfter_iff]
  omega

theorem notAfter_trans {p q r : Position} (hpq : p.notAfter q = true) (hqr : q.notAfter r = true) :
    p.notAfter r = true := by
  rw [notAfter_iff] at *
  omega

theorem notAfter_total (p q : Position) : (p.notAfter q || q.notAfter p) = true := by
  rw [Bool.or_eq_true, notAfter_iff, notAfter_iff]
  omega

theorem notAfter_antisymm {p q : Position} (hpq : p.notAfter q = true)
    (hqp : q.notAfter p = true) : p = q := by
  obtain ⟨line, column⟩ := p
  obtain ⟨line', column'⟩ := q
  rw [notAfter_iff] at hpq hqp
  dsimp only at hpq hqp
  rw [mk.injEq]
  omega

end Position

namespace Node

/-- Sorted lists are the same if they have the same nodes at each place, in the same order. -/
theorem eq_of_filter_start_eq {ys zs : List Node}
    (hys : ys.Pairwise fun m n => m.start.notAfter n.start = true)
    (hzs : zs.Pairwise fun m n => m.start.notAfter n.start = true)
    (h : ∀ p : Position, ys.filter (fun n => n.start = p) = zs.filter fun n => n.start = p) :
    ys = zs := by
  induction ys generalizing zs with
  | nil =>
    cases zs with
    | nil => rfl
    | cons b zs => simpa using h b.start
  | cons a ys ih =>
    cases zs with
    | nil => simpa using h a.start
    | cons b zs =>
      obtain ⟨ha, hys'⟩ := List.pairwise_cons.1 hys
      obtain ⟨hb, hzs'⟩ := List.pairwise_cons.1 hzs
      -- Each of the two first nodes is in the other list, so neither stands after the other.
      have hab : a.start.notAfter b.start = true := by
        have hmem : b ∈ (a :: ys).filter fun n => n.start = b.start := by
          rw [h b.start]
          simp
        rcases List.mem_cons.1 (List.mem_of_mem_filter hmem) with rfl | hmem
        · exact Position.notAfter_refl _
        · exact ha b hmem
      have hba : b.start.notAfter a.start = true := by
        have hmem : a ∈ (b :: zs).filter fun n => n.start = a.start := by
          rw [← h a.start]
          simp
        rcases List.mem_cons.1 (List.mem_of_mem_filter hmem) with rfl | hmem
        · exact Position.notAfter_refl _
        · exact hb a hmem
      have hplace := Position.notAfter_antisymm hab hba
      obtain rfl : a = b := by
        have hfirst := h a.start
        rw [List.filter_cons_of_pos (by simp), List.filter_cons_of_pos (by simp [hplace])] at hfirst
        exact (List.cons.inj hfirst).1
      refine congrArg (a :: ·) (ih hys' hzs' fun p => ?_)
      have hrest := h p
      rw [List.filter_cons, List.filter_cons] at hrest
      split at hrest
      · exact (List.cons.inj hrest).2
      · exact hrest

/-- **There is one stable sort** of a list. -/
theorem IsStableSort.unique {xs ys zs : List Node} (hy : IsStableSort xs ys)
    (hz : IsStableSort xs zs) : ys = zs :=
  eq_of_filter_start_eq hy.sorted hz.sorted fun p => (hy.stable p).trans (hz.stable p).symm

end Node

/-! ### Listings -/

/-- **A sort is stable:** elements of which none is greater than another keep their order. -/
theorem filter_mergeSort_of_le {α : Type} {le : α → α → Bool}
    (htrans : ∀ a b c, le a b = true → le b c = true → le a c = true)
    (htotal : ∀ a b, (le a b || le b a) = true) {p : α → Bool}
    (hp : ∀ a b, p a = true → p b = true → le a b = true) (l : List α) :
    (l.mergeSort le).filter p = l.filter p := by
  have hsame : (l.filter p).Pairwise fun a b => le a b = true :=
    List.pairwise_of_forall_mem_list fun a ha b hb =>
      hp a b (List.mem_filter.1 ha).2 (List.mem_filter.1 hb).2
  have hsublist := (List.sublist_mergeSort htrans htotal hsame List.filter_sublist).filter p
  rw [List.filter_filter] at hsublist
  simp only [Bool.and_self] at hsublist
  exact (hsublist.eq_of_length ((List.mergeSort_perm l le).filter p).length_eq.symm).symm

namespace SyntaxTree

open Node (IsStableSort)

/-- **A listing is the stable sort** of the walked nodes that it lists. -/
theorem isStableSort_listing (t : SyntaxTree) (p : Node → Bool) :
    IsStableSort (t.root.preorder.filter p)
      ((inSourceOrder (t.numbered.filter fun n => p n.1)).map Prod.fst) := by
  have hnodes : (t.numbered.filter fun n => p n.1).map Prod.fst = t.root.preorder.filter p := by
    conv_rhs => rw [← Node.walk_eq_preorder, ← List.zipIdx_map_fst 0 t.root.walk, List.filter_map]
    rfl
  rw [← hnodes, inSourceOrder]
  generalize t.numbered.filter (fun n => p n.1) = ns
  have htrans : ∀ a b c : Node × Nat, a.1.start.notAfter b.1.start = true →
      b.1.start.notAfter c.1.start = true → a.1.start.notAfter c.1.start = true :=
    fun _ _ _ => Position.notAfter_trans
  have htotal : ∀ a b : Node × Nat,
      (a.1.start.notAfter b.1.start || b.1.start.notAfter a.1.start) = true :=
    fun a b => Position.notAfter_total a.1.start b.1.start
  have hperm := List.mergeSort_perm ns fun a b => a.1.start.notAfter b.1.start
  refine ⟨hperm.map Prod.fst, List.pairwise_map.2 (List.pairwise_mergeSort htrans htotal ns),
    fun q => ?_⟩
  rw [List.filter_map, List.filter_map]
  refine congrArg (List.map Prod.fst) (filter_mergeSort_of_le htrans htotal ?_ ns)
  intro a b ha hb
  rw [of_decide_eq_true ha, of_decide_eq_true hb]
  exact Position.notAfter_refl q

/-- The tokens are the pre-order's tokens, sorted stably by where they start. -/
theorem isStableSort_tokens (t : SyntaxTree) :
    IsStableSort (t.root.preorder.filter Node.isToken) t.tokens :=
  t.isStableSort_listing Node.isToken

/-- The comments are the pre-order's comments, sorted stably by where they start. -/
theorem isStableSort_comments (t : SyntaxTree) :
    IsStableSort (t.root.preorder.filter Node.isComment) t.comments :=
  t.isStableSort_listing Node.isComment

end SyntaxTree
end LineMetrics

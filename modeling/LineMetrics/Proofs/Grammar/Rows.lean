import LineMetrics.Parser
import LineMetrics.Proofs.Measure.Bounds

/-!
# Trees of grammars that fit

A grammar promises nothing about the rows of its nodes.  If they are rows of the text, and no leaf
and no comment has more breaks than rows to go down (`RawNode.Fits`), then the syntax tree fits the
file: `Syntax.fits_of_grammarTree`.  A macro body that is split gets lines of its own count, and the
code and the comment have no more breaks than the body (`MacroBody.fits_of_mem_split`), because the
comment does not start inside a CR LF.  What else syntax nodes have from their raw nodes carries
over by the same induction (`RawNode.CarriesOver`).
-/

namespace LineMetrics

namespace Node

/-- Trees on a worklist are walked one after the other. -/
theorem walkFrom_append : ∀ ns ms : List Node,
    walkFrom [] (ns ++ ms) = walkFrom [] ns ++ walkFrom [] ms
  | [], ms => by rw [walkFrom.eq_1, List.reverse_nil, List.nil_append, List.nil_append]
  | n :: ns, ms => by
    rw [List.cons_append, walkFrom_cons, walkFrom_cons, ← List.append_assoc,
      walkFrom_append (n.visited ++ ns) ms, List.cons_append]
termination_by ns => countAll ns
decreasing_by
  rw [countAll_append, countAll]
  have := countAll_visited_lt n
  omega

/-- A node that a walk over a row of trees meets is met in one of them. -/
theorem mem_walkFrom_iff {m : Node} {ns : List Node} :
    m ∈ walkFrom [] ns ↔ ∃ n ∈ ns, m ∈ n.walk := by
  induction ns with
  | nil => simp [walkFrom]
  | cons n ns ih =>
    rw [← List.singleton_append, walkFrom_append, List.mem_append, ih]
    simp [walk]

/-- A walk meets the node that it starts from, and what walks over its children meet. -/
theorem mem_walk_iff {m n : Node} : m ∈ n.walk ↔ m = n ∨ ∃ child ∈ n.visited, m ∈ child.walk := by
  rw [walk, walkFrom_cons, List.append_nil, List.mem_cons, mem_walkFrom_iff]

/-- What holds in the walk of a node holds of the node and in the walks below it. -/
theorem forall_mem_walk_iff {P : Node → Prop} {n : Node} :
    (∀ m ∈ n.walk, P m) ↔ P n ∧ ∀ child ∈ n.visited, ∀ m ∈ child.walk, P m := by
  constructor
  · refine fun h => ⟨h n (mem_walk_iff.2 (.inl rfl)), fun child hchild m hm => ?_⟩
    exact h m (mem_walk_iff.2 (.inr ⟨child, hchild, hm⟩))
  · rintro ⟨hself, hbelow⟩ m hm
    rcases mem_walk_iff.1 hm with rfl | ⟨child, hchild, hm⟩
    · exact hself
    · exact hbelow child hchild m hm

/-- The walk of a leaf is the leaf. -/
theorem forall_mem_walk_leaf {P : Node → Prop} {type : String} {start : Position} {endLine : Int}
    {text : List Char} {isComment : Bool} (h : P (leaf type start endLine text isComment)) :
    ∀ m ∈ (leaf type start endLine text isComment).walk, P m :=
  forall_mem_walk_iff.2 ⟨h, by rw [visited, leaf, ite_self]; exact List.forall_mem_nil _⟩

/-- A tree fits if its root does and the trees below it do. -/
theorem fits_iff {lines : Int} {n : Node} : n.Fits lines ↔
    (n.text.isSome = true ∨ n.isComment = true → n.StandsIn lines) ∧
      ∀ child ∈ n.visited, child.Fits lines :=
  forall_mem_walk_iff

/-- A leaf fits if it stands on lines of the file. -/
theorem StandsIn.fits_leaf {lines : Int} {type : String} {start : Position} {endLine : Int}
    {text : List Char} {isComment : Bool}
    (h : (leaf type start endLine text isComment).StandsIn lines) :
    (leaf type start endLine text isComment).Fits lines :=
  forall_mem_walk_leaf fun _ => h

end Node

/-! ### Splitting a macro body -/

/-- Trimming blanks adds no line break. -/
theorem Text.breakCount_trimEnd_le (s : List Char) : breakCount (trimEnd s) ≤ breakCount s := by
  obtain ⟨blanks, hs, -⟩ := eq_trimEnd_append_blanks s
  have hle := breakCount_le_append (trimEnd s) blanks
  rwa [← hs] at hle

/-- A line comment is found where a `/` is. -/
theorem Lexeme.head?_of_lineCommentOffset {s : List Char} {offset : Nat}
    (h : lineCommentOffset s = some offset) : (s.drop offset).head? = some '/' := by
  unfold lineCommentOffset at h
  extract_lets before offset' at h
  split at h
  · rename_i hlt
    obtain rfl := Option.some.inj h
    have hs : before.flatMap Lexeme.text ++
        ((lexemes s).dropWhile fun l => l.kind ≠ .lineComment).flatMap Lexeme.text = s := by
      rw [← List.flatMap_append, List.takeWhile_append_dropWhile, lexemes_flatten]
    have hdrop := List.head?_dropWhile_not (fun l : Lexeme => l.kind ≠ .lineComment) (lexemes s)
    have hsublist := List.dropWhile_sublist (fun l : Lexeme => l.kind ≠ .lineComment)
      (l := lexemes s)
    generalize ((lexemes s).dropWhile fun l => l.kind ≠ .lineComment) = behind at hs hdrop hsublist
    cases behind with
    | nil =>
      have hlength := congrArg List.length hs
      rw [List.flatMap_nil, List.append_nil] at hlength
      omega
    | cons l rest =>
      obtain ⟨after, hshape⟩ := shape_of_mem_lexemes (hsublist.subset List.mem_cons_self)
      obtain ⟨kind, text⟩ := l
      obtain rfl : kind = .lineComment := by simpa using hdrop
      rw [← hs, List.drop_left]
      obtain ⟨-, comment, htext, -⟩ | ⟨hblock, -⟩ := hshape.comment_cases rfl
      · rw [List.flatMap_cons, htext]
        rfl
      · cases hblock
  · cases h

namespace MacroBody

/-- **All that splitting does.**  A node stays as it is, or it gives up its text to a comment and
the code in front of it, if that is more than blanks. -/
theorem split_cases (n : Node) : split n = [n] ∨ ∃ head tail, n.text = some (head ++ tail) ∧
    tail.head? = some '/' ∧ (split n = [commentPart n head tail] ∨
      split n = [codePart n (Text.trimEnd head), commentPart n head tail]) := by
  unfold split
  split
  · exact .inl rfl
  · split
    · exact .inl rfl
    · rename_i text htext
      split
      · exact .inl rfl
      · rename_i offset hoffset
        refine .inr ⟨text.take offset, text.drop offset, ?_,
          Lexeme.head?_of_lineCommentOffset hoffset, ?_⟩
        · rw [htext, List.take_append_drop]
        · dsimp only
          split
          · exact .inl rfl
          · exact .inr rfl

variable {lines : Int} {n : Node} {head tail : List Char}

/-- The parts of a body have its breaks, and trimming adds none. -/
theorem standsIn_parts (hn : n.StandsIn lines) (htext : n.text = some (head ++ tail))
    (hslash : tail.head? = some '/') : (commentPart n head tail).StandsIn lines ∧
      (codePart n (Text.trimEnd head)).StandsIn lines := by
  have hseam : ¬Text.SplitsBreak head tail := fun h => nomatch hslash.symm.trans h.2
  have hbreaks := Text.breakCount_append hseam
  have hcode := Text.breakCount_trimEnd_le head
  have hcomment := Text.breakCount_trimEnd_le tail
  obtain ⟨hstart, hbody, hend⟩ := hn
  rw [htext, Option.getD_some] at hbody
  constructor
  · refine ⟨?_, le_refl _, ?_⟩
    · simp only [commentPart, Node.leaf, Position.advance]
      omega
    · simp only [commentPart, Node.leaf, Position.advance]
      omega
  · refine ⟨hstart, le_refl _, ?_⟩
    simp only [codePart, Node.leaf]
    omega

/-- **Splitting keeps to the file.** -/
theorem fits_of_mem_split (hn : n.Fits lines) : ∀ part ∈ split n, part.Fits lines := by
  rcases split_cases n with hsplit | ⟨head, tail, htext, hslash, hsplit⟩
  · rw [hsplit]
    exact List.forall_mem_singleton.2 hn
  · have hself := (Node.fits_iff.1 hn).1 (.inl (by rw [htext]; rfl))
    obtain ⟨hcomment, hcode⟩ := standsIn_parts hself htext hslash
    rcases hsplit with hsplit | hsplit
    · rw [hsplit]
      exact List.forall_mem_singleton.2 hcomment.fits_leaf
    · rw [hsplit]
      exact List.forall_mem_cons.2
        ⟨hcode.fits_leaf, List.forall_mem_singleton.2 hcomment.fits_leaf⟩

end MacroBody

/-! ### Rows -/

namespace RawNode

mutual

/-- The nodes of a tree. -/
def nodes : RawNode → List RawNode
  | n@⟨_, _, _, _, _, children, _, _⟩ => n :: nodesOf children

/-- The nodes of a list of trees. -/
def nodesOf : List RawNode → List RawNode
  | [] => []
  | n :: rest => nodes n ++ nodesOf rest

end

/-- The rows of a node are rows of a text of so many lines, and a leaf or comment has no more breaks
than rows to go down. -/
structure KeepsRows (commentTypes : List String) (lines : Int) (n : RawNode) : Prop where
  startRow_nonneg : 0 ≤ n.startRow
  startRow_le : n.startRow ≤ n.endRow
  endRow_lt : n.endRow < lines
  breaks_le : (commentTypes.contains n.type || n.children.isEmpty) = true →
    Text.breakCount (decodedText n.text) ≤ n.endRow - n.startRow

instance (commentTypes : List String) (lines : Int) (n : RawNode) :
    Decidable (n.KeepsRows commentTypes lines) :=
  decidable_of_iff (0 ≤ n.startRow ∧ n.startRow ≤ n.endRow ∧ n.endRow < lines ∧
    ((commentTypes.contains n.type || n.children.isEmpty) = true →
      (Text.breakCount (decodedText n.text) : Int) ≤ n.endRow - n.startRow))
    ⟨fun ⟨hstart, hrows, hend, hbreaks⟩ => ⟨hstart, hrows, hend, hbreaks⟩,
      fun ⟨hstart, hrows, hend, hbreaks⟩ => ⟨hstart, hrows, hend, hbreaks⟩⟩

/-- A grammar's tree fits a text, which then is not empty, if all its nodes keep their rows. -/
def Fits (commentTypes : List String) (s : List Char) (root : RawNode) : Prop :=
  ∀ n ∈ root.nodes, n.KeepsRows commentTypes (Text.lineCount s)

instance (commentTypes : List String) (s : List Char) (root : RawNode) :
    Decidable (root.Fits commentTypes s) :=
  inferInstanceAs (Decidable (∀ n ∈ root.nodes, _))

/-! ### From raw nodes to syntax nodes -/

/-- A property that syntax nodes have from their raw nodes: leaves and comments take it over, nodes
that are neither have it anyway, and splitting keeps it. -/
structure CarriesOver (commentTypes : List String) (Q : RawNode → Prop) (P : Node → Prop) :
    Prop where
  leaf : ∀ n : RawNode, (commentTypes.contains n.type || n.children.isEmpty) = true → Q n →
    P (.leaf n.type ⟨n.startRow + 1, n.startColumn⟩ (n.endRow + 1) (decodedText n.text)
      (commentTypes.contains n.type))
  inner : ∀ n : Node, n.text = none → n.isComment = false → P n
  split : ∀ n : Node, (∀ m ∈ n.walk, P m) → ∀ part ∈ MacroBody.split n, ∀ m ∈ part.walk, P m

section

variable {commentTypes : List String} {Q : RawNode → Prop} {P : Node → Prop}

mutual

/-- **What carries over** from raw nodes holds in the walk of the syntax node. -/
theorem CarriesOver.toNode (hcarries : CarriesOver commentTypes Q P) :
    ∀ root : RawNode, (∀ n ∈ root.nodes, Q n) → ∀ m ∈ (root.toNode commentTypes).walk, P m
  | ⟨type, startRow, startColumn, endRow, text, children, hasError, isMissing⟩, h => by
    rw [nodes, List.forall_mem_cons] at h
    rw [RawNode.toNode]
    split
    · rename_i hkind
      exact Node.forall_mem_walk_leaf (hcarries.leaf _ hkind h.1)
    · refine Node.forall_mem_walk_iff.2 ⟨hcarries.inner _ rfl rfl, ?_⟩
      exact hcarries.toNodes children h.2

/-- **What carries over from raw nodes** holds of every node of what they are converted to. -/
theorem CarriesOver.toNodes (hcarries : CarriesOver commentTypes Q P) :
    ∀ roots : List RawNode, (∀ n ∈ nodesOf roots, Q n) →
      ∀ n ∈ RawNode.toNodes commentTypes roots, ∀ m ∈ n.walk, P m
  | [], _ => by simp [RawNode.toNodes]
  | root :: rest, h => by
    rw [nodesOf, List.forall_mem_append] at h
    rw [RawNode.toNodes, List.forall_mem_append]
    exact ⟨hcarries.split _ (hcarries.toNode root h.1), hcarries.toNodes rest h.2⟩

end

end

/-- Standing on lines of the file carries over from rows that are kept. -/
theorem carriesOver_keepsRows (commentTypes : List String) (lines : Int) :
    CarriesOver commentTypes (KeepsRows commentTypes lines) fun m =>
      m.text.isSome = true ∨ m.isComment = true → m.StandsIn lines where
  leaf := by
    rintro n hkind ⟨hstart, hrows, hend, hbreaks⟩ -
    have hle := hbreaks hkind
    refine ⟨?_, ?_, ?_⟩
    · simp only [Node.leaf]
      omega
    · simp only [Node.leaf, Option.getD_some]
      omega
    · simp only [Node.leaf]
      omega
  inner := by
    rintro n htext hcomment (htoken | hcomment')
    · rw [htext] at htoken
      cases htoken
    · rw [hcomment] at hcomment'
      cases hcomment'
  split := fun _ => MacroBody.fits_of_mem_split

/-- **A syntax node fits** if the raw node and those below it keep their rows. -/
theorem fits_toNode {commentTypes : List String} {lines : Int} (root : RawNode)
    (h : ∀ n ∈ root.nodes, n.KeepsRows commentTypes lines) :
    (root.toNode commentTypes).Fits lines :=
  (carriesOver_keepsRows commentTypes lines).toNode root h

end RawNode

namespace Syntax

variable {path : String} {language : Language} {s : List Char} {tree : SyntaxTree}

/-- A grammar's tree is that of the raw tree, which has no syntax error. -/
theorem grammarTree_eq_ok {raw : Option RawNode} (h : grammarTree path language s raw = .ok tree) :
    ∃ root, raw = some root ∧ root.hasError = false ∧
      tree = ⟨path, language.name, root.toNode language.commentTypes, Text.lineCount s⟩ := by
  unfold grammarTree at h
  split at h
  · exact nomatch h
  · rename_i root
    split at h
    · exact nomatch h
    · rename_i herror
      exact ⟨root, rfl, Bool.eq_false_of_not_eq_true herror, (Except.ok.inj h).symm⟩

/-- The parser by a grammar accepts a text only with the grammar's tree. -/
theorem grammarTree_of_parse {catalog : Catalog}
    (h : Parser.parse ⟨.grammar, language⟩ catalog path s = .ok tree) :
    grammarTree path language s (catalog.parse language.grammar s) = .ok tree := by
  rw [Parser.parse] at h
  dsimp only at h
  split at h
  · rename_i htree
    obtain rfl := Except.ok.inj h
    exact htree
  · cases h

/-- **The tree of a grammar fits** a text that the raw tree fits. -/
theorem fits_of_grammarTree {raw : Option RawNode}
    (hraw : ∀ root, raw = some root → root.Fits language.commentTypes s)
    (h : grammarTree path language s raw = .ok tree) : tree.Fits := by
  obtain ⟨root, hroot, -, rfl⟩ := grammarTree_eq_ok h
  exact RawNode.fits_toNode root (hraw root hroot)

end Syntax

/-- **With either backend** a file's tree fits it, with a grammar if the raw tree does. -/
theorem Parser.fits_of_parse {parser : Parser} {catalog : Catalog} {key : String} {s : List Char}
    {tree : SyntaxTree}
    (hraw : parser.backend = .grammar → ∀ root,
      catalog.parse parser.language.grammar s = some root →
        root.Fits parser.language.commentTypes s)
    (h : parser.parse catalog key s = .ok tree) : tree.Fits := by
  obtain ⟨backend, language⟩ := parser
  cases backend with
  | lexer => exact Syntax.fits_of_flatTree (Syntax.flatTree_of_parse h)
  | grammar => exact Syntax.fits_of_grammarTree (hraw rfl) (Syntax.grammarTree_of_parse h)

end LineMetrics

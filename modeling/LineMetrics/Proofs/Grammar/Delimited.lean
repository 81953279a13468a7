import LineMetrics.Proofs.Grammar.Split
import LineMetrics.Proofs.Grammar.Rows

/-!
# Parsers and the comments they make

A comment has contents if its delimiters are there and do not overlap, and the comment visitor
breaks off at one that has none, because the parser has broken its contract (specification, section
4.2).  The parsers keep it.  A comment of the lexer is delimited by its shape; `/*/` is none, as the
closing delimiter is looked for behind the opening one.  The comment of a split macro body starts
with `//`, because trimming takes nothing in front of what is visible.  And the comments of a
grammar keep their text, so a tree has delimited comments if the raw tree does:
`Parser.delimited_of_parse`.

So the visitors of a scan go through the tree of either parser (`Parser.comments_have_contents`).
The one fault that is left is none of the tree's: a marker that is no text, looked for in the first
line of a comment.
-/

namespace LineMetrics

/-- A text with the delimiters of a comment of C: it starts with `//`, or it starts with `/*`, ends
with `*/` and has room for both. -/
def IsDelimited (text : List Char) : Prop :=
  ['/', '/'] <+: text ∨ 4 ≤ text.length ∧ ['/', '*'] <+: text ∧ ['*', '/'] <:+ text

instance (text : List Char) : Decidable (IsDelimited text) :=
  inferInstanceAs (Decidable (_ ∨ _ ∧ _ ∧ _))

namespace CommentAnalyzer

variable {a : CommentAnalyzer} {text : List Char}

/-- A delimited comment has contents in the families of C. -/
theorem exists_contents_of_isDelimited (hfamilies : a.families = CommentFamily.ofC)
    (h : IsDelimited text) : ∃ contents, a.contents text = .ok contents := by
  obtain ⟨body, rfl⟩ | ⟨hlength, ⟨inner, rfl⟩, hclosed⟩ := h
  · exact ⟨body, contents_line hfamilies body⟩
  · -- With room for both, the closing delimiter stands behind the opening one.
    rw [List.length_append, List.length_cons, List.length_cons, List.length_nil] at hlength
    have hinner : ['*', '/'] <:+ inner := by
      refine List.suffix_of_suffix_length_le hclosed (List.suffix_append _ _) ?_
      rw [List.length_cons, List.length_cons, List.length_nil]
      omega
    obtain ⟨body, rfl⟩ := hinner
    exact ⟨body, contents_block hfamilies body⟩

/-- What has contents has the delimiters of a family. -/
theorem exists_family_of_contents {contents : List Char} (h : a.contents text = .ok contents) :
    ∃ family ∈ a.families, family.opening <+: text ∧ family.minLength ≤ text.length ∧
      family.closing <:+ text := by
  obtain ⟨family, hmem, rfl⟩ := eq_of_contents h
  refine ⟨family, hmem, List.prefix_append _ _, ?_, ?_⟩
  · rw [CommentFamily.minLength, List.length_append, List.length_append]
    omega
  · rw [← List.append_assoc]
    exact List.suffix_append _ _

/-- **A comment of C has contents** exactly if it is delimited. -/
theorem exists_contents_iff (hfamilies : a.families = CommentFamily.ofC) :
    (∃ contents, a.contents text = .ok contents) ↔ IsDelimited text := by
  refine ⟨fun ⟨contents, h⟩ => ?_, exists_contents_of_isDelimited hfamilies⟩
  obtain ⟨family, hmem, hopening, hlength, hclosing⟩ := exists_family_of_contents h
  rw [hfamilies, CommentFamily.ofC, List.mem_cons, List.mem_singleton] at hmem
  rcases hmem with rfl | rfl
  · exact .inl hopening
  · exact .inr ⟨hlength, hopening, hclosing⟩

/-- A comment has lines exactly if it has contents. -/
theorem exists_commentLines_iff {n : Node} : (∃ lines, a.commentLines n = .ok lines) ↔
    ∃ contents, a.contents (n.text.getD []) = .ok contents := by
  constructor
  · rintro ⟨lines, h⟩
    obtain ⟨contents, hcontents, -⟩ := bind_eq_ok_iff.1 h
    exact ⟨contents, hcontents⟩
  · rintro ⟨contents, hcontents⟩
    exact ⟨_, bind_eq_ok_iff.2 ⟨contents, hcontents, rfl⟩⟩

end CommentAnalyzer

/-! ### Trees with delimited comments -/

/-- The comments of a tree are delimited. -/
def SyntaxTree.Delimited (t : SyntaxTree) : Prop := ∀ n ∈ t.comments, IsDelimited (n.text.getD [])

/-- The comments of a raw tree are delimited. -/
def RawNode.Delimited (commentTypes : List String) (root : RawNode) : Prop :=
  ∀ n ∈ root.nodes, commentTypes.contains n.type = true → IsDelimited (decodedText n.text)

instance (commentTypes : List String) (root : RawNode) : Decidable (root.Delimited commentTypes) :=
  inferInstanceAs (Decidable (∀ n ∈ root.nodes, _ → _))

/-- **The lexer's comments are delimited.** -/
theorem Syntax.delimited_of_flatTree {path language : String} {s : List Char} {tree : SyntaxTree}
    (h : flatTree path language s = .ok tree) : tree.Delimited := by
  intro n hn
  have hfamilies : CommentAnalyzer.cFamily.families = CommentFamily.ofC :=
    CommentFamily.mergeSort_ofC
  obtain ⟨lines, hlines, -⟩ := exists_commentLines_of_flatTree h hfamilies hn
  exact (CommentAnalyzer.exists_contents_iff hfamilies).1
    (CommentAnalyzer.exists_commentLines_iff.1 ⟨lines, hlines⟩)

/-- What a body is split into has nothing below it, and the comment is delimited. -/
theorem MacroBody.part_of_mem_split {n part : Node} (h : part ∈ split n) (hne : part ≠ n) :
    part.children = [] ∧ (part.isComment = true → IsDelimited (part.text.getD [])) := by
  by_cases htype : n.type = nodeType
  · cases htext : n.text with
    | none =>
      rw [split, htext, ite_self] at h
      exact absurd (List.mem_singleton.1 h) hne
    | some s =>
      cases hoffset : Lexeme.lineCommentOffset s with
      | none =>
        rw [split_eq_self htext hoffset] at h
        exact absurd (List.mem_singleton.1 h) hne
      | some o =>
        rw [split_of_lineCommentOffset htype htext hoffset, List.mem_append,
          List.mem_singleton] at h
        rcases h with hcode | rfl
        · split at hcode
          · obtain rfl := List.mem_singleton.1 hcode
            exact ⟨rfl, fun hcomment => by cases hcomment⟩
          · cases hcode
        · exact ⟨rfl, fun _ => .inl (opener_of_lineCommentOffset hoffset)⟩
  · rw [split_of_type_ne htype] at h
    exact absurd (List.mem_singleton.1 h) hne

/-- Delimited comments carry over from the raw tree. -/
theorem RawNode.carriesOver_delimited (commentTypes : List String) :
    CarriesOver commentTypes
      (fun n => commentTypes.contains n.type = true → IsDelimited (decodedText n.text))
      fun m => m.isComment = true → IsDelimited (m.text.getD []) where
  leaf _ _ h := h
  inner _ _ hcode hcomment := absurd (hcode.symm.trans hcomment) Bool.false_ne_true
  split := by
    intro n hn part hpart
    by_cases hsame : part = n
    · rw [hsame]
      exact hn
    · obtain ⟨hchildren, hdelimited⟩ := MacroBody.part_of_mem_split hpart hsame
      refine Node.forall_mem_walk_iff.2 ⟨hdelimited, ?_⟩
      rw [Node.visited, hchildren, ite_self]
      exact List.forall_mem_nil _

/-- **The comments of a grammar's tree are delimited** if those of the raw tree are. -/
theorem Syntax.delimited_of_grammarTree {path : String} {language : Language} {s : List Char}
    {raw : Option RawNode} {tree : SyntaxTree}
    (hraw : ∀ root, raw = some root → root.Delimited language.commentTypes)
    (h : grammarTree path language s raw = .ok tree) : tree.Delimited := by
  obtain ⟨root, hroot, -, rfl⟩ := grammarTree_eq_ok h
  intro n hn
  obtain ⟨hwalk, hcomment⟩ := SyntaxTree.mem_walk_of_mem_listing hn
  exact (RawNode.carriesOver_delimited _).toNode root (hraw root hroot) n hwalk hcomment

/-- **With either backend** the comments of a file are delimited, with a grammar if those of the raw
tree are. -/
theorem Parser.delimited_of_parse {parser : Parser} {catalog : Catalog} {key : String}
    {s : List Char} {tree : SyntaxTree}
    (hraw : parser.backend = .grammar → ∀ root,
      catalog.parse parser.language.grammar s = some root →
        root.Delimited parser.language.commentTypes)
    (h : parser.parse catalog key s = .ok tree) : tree.Delimited := by
  obtain ⟨backend, language⟩ := parser
  cases backend with
  | lexer => exact Syntax.delimited_of_flatTree (Syntax.flatTree_of_parse h)
  | grammar => exact Syntax.delimited_of_grammarTree (hraw rfl) (Syntax.grammarTree_of_parse h)

/-- Either backend counts the lines of the text. -/
theorem Parser.lineCount_of_parse {parser : Parser} {catalog : Catalog} {key : String}
    {s : List Char} {tree : SyntaxTree} (h : parser.parse catalog key s = .ok tree) :
    tree.lineCount = Text.lineCount s := by
  obtain ⟨backend, language⟩ := parser
  cases backend with
  | lexer => exact (Syntax.flatTree_eq_ok (Syntax.flatTree_of_parse h)).2.2.2
  | grammar =>
    obtain ⟨root, -, -, rfl⟩ := Syntax.grammarTree_eq_ok (Syntax.grammarTree_of_parse h)
    rfl

/-! ### Measuring them -/

namespace CommentCount

variable {c : CommentCount} {t : SyntaxTree} {fault : Fault}

/-- Looking for a marker fails only if it is no text. -/
theorem eq_wrongType_of_marked {marker : Marker} {ls : List CommentLine}
    (h : marked marker ls = .error fault) : fault = .wrongType := by
  by_cases hmarker : marker = .unusable
  · subst hmarker
    rw [marked] at h
    refine error_of_foldlM (P := (· = .wrongType)) (fun l _ found e hstep => ?_) h
    exact (Except.error.inj hstep).symm
  · rw [marked_eq hmarker] at h
    cases h

/-- **Where all counted comments have contents,** only the marker can end the survey. -/
theorem survey_of_contents
    (hread : ∀ n ∈ c.counted t, ∃ lines, c.analyzer.commentLines n = .ok lines) :
    (∃ result, c.survey t = .ok result) ∨
      c.marker = .unusable ∧ c.survey t = .error .wrongType := by
  by_cases hmarker : c.marker = .unusable
  · cases hsurvey : c.survey t with
    | ok result => exact .inl ⟨result, rfl⟩
    | error fault =>
      refine .inr ⟨hmarker, congrArg Except.error ?_⟩
      rw [survey] at hsurvey
      refine error_of_foldlM (P := (· = .wrongType)) (fun n hn acc e hstep => ?_) hsurvey
      obtain ⟨more, hmore⟩ := hread n hn
      dsimp only at hstep
      rw [hmore] at hstep
      dsimp only at hstep
      cases hmarked : marked c.marker more with
      | ok found => rw [hmarked] at hstep; cases hstep
      | error e' =>
        rw [hmarked] at hstep
        exact Except.error.inj hstep ▸ eq_wrongType_of_marked hmarked
  · exact .inl ⟨_, survey_eq hmarker hread⟩

end CommentCount

/-! ### Writing what was counted -/

/-- A write of a metric that is owned, of no less than 0, or an annotation. -/
def Write.Allowed (owned : List Metric) : Write → Prop
  | .add m amount => m ∈ owned ∧ 0 ≤ amount
  | .set m value => m ∈ owned ∧ 0 ≤ value
  | .annotate .. => True

/-- A write that is allowed is not refused. -/
theorem Sheet.exists_writeOwned {owned : List Metric} {w : Write} (h : w.Allowed owned)
    (s : Sheet) : ∃ s', s.writeOwned owned w = .ok s' := by
  cases w with
  | add m amount =>
    obtain ⟨hm, hamount⟩ := h
    exact ⟨_, (if_pos hm).trans (if_neg hamount.not_gt)⟩
  | set m value =>
    obtain ⟨hm, hvalue⟩ := h
    exact ⟨_, (if_pos hm).trans (if_neg hvalue.not_gt)⟩
  | annotate key value => exact ⟨_, rfl⟩

/-- Writes that are allowed one by one are all made. -/
theorem Sheet.exists_writeAll {owned : List Metric} {ws : List Write}
    (h : ∀ w ∈ ws, w.Allowed owned) (s : Sheet) : ∃ s', s.writeAll owned ws = .ok s' := by
  induction ws generalizing s with
  | nil => exact ⟨s, rfl⟩
  | cons w ws ih =>
    obtain ⟨hfirst, hrest⟩ := List.forall_mem_cons.1 h
    obtain ⟨s₁, hs₁⟩ := exists_writeOwned hfirst s
    obtain ⟨s', hs'⟩ := ih hrest s₁
    exact ⟨s', bind_eq_ok_iff.2 ⟨s₁, hs₁, hs'⟩⟩

/-- A visitor that comes to the end with writes that are allowed goes through. -/
theorem Visitor.exists_run {v : Visitor} {t : SyntaxTree}
    (hwrites : ∀ w ∈ (v.observe t).writes, w.Allowed v.metrics)
    (hfault : (v.observe t).fault = none) (s : Sheet) : ∃ s', v.run t s = .ok s' := by
  obtain ⟨s', hs'⟩ := Sheet.exists_writeAll hwrites s
  exact ⟨s', run_eq_ok_iff.2 ⟨hs', hfault⟩⟩

/-- What a comment visitor writes is allowed. -/
theorem CommentCount.allowed_writes {c : CommentCount} {t : SyntaxTree} {ws : List Write}
    (h : c.writes t = .ok ws) : ∀ w ∈ ws, w.Allowed c.metrics := by
  obtain ⟨⟨lines, found⟩, -, hws⟩ := bind_eq_ok_iff.1 h
  obtain rfl := Except.ok.inj hws
  rw [List.cons_append, List.forall_mem_cons, List.forall_mem_append]
  refine ⟨⟨List.mem_cons_self, Int.natCast_nonneg _⟩, ?_, ?_⟩
  · cases hblank : c.blankMetric with
    | none => exact List.forall_mem_nil _
    | some metric =>
      have hmem : metric ∈ c.metrics := by
        rw [metrics, hblank]
        exact List.mem_cons_of_mem _ List.mem_cons_self
      exact List.forall_mem_singleton.2 ⟨hmem, Int.natCast_nonneg _⟩
  · split
    · exact List.forall_mem_nil _
    · exact List.forall_mem_singleton.2 trivial

/-- **A comment visitor goes through** where all counted comments have contents, unless its marker
is no text. -/
theorem Visitor.run_comments_outcome {c : CommentCount} {t : SyntaxTree}
    (hread : ∀ n ∈ c.counted t, ∃ lines, c.analyzer.commentLines n = .ok lines) (s : Sheet) :
    (∃ s', (Visitor.comments c).run t s = .ok s') ∨
      c.marker = .unusable ∧ (Visitor.comments c).run t s = .error .wrongType := by
  have hobserve : (Visitor.comments c).observe t = .ofExcept (c.writes t) := rfl
  rcases CommentCount.survey_of_contents hread with ⟨result, hsurvey⟩ | ⟨hmarker, hsurvey⟩
  · obtain ⟨ws, hws⟩ : ∃ ws, c.writes t = .ok ws := ⟨_, bind_eq_ok_iff.2 ⟨result, hsurvey, rfl⟩⟩
    rw [hws] at hobserve
    refine .inl (exists_run ?_ ?_ s)
    · rw [hobserve]
      exact CommentCount.allowed_writes hws
    · rw [hobserve]
      rfl
  · refine .inr ⟨hmarker, ?_⟩
    rw [CommentCount.writes, hsurvey] at hobserve
    rw [run, hobserve]
    rfl

/-- **The visitors of a scan go through** where all comments are delimited, unless the marker that
is set is no text. -/
theorem measure_of_delimited {settings : Settings} {visitors : List Visitor} {t : SyntaxTree}
    (hvisitors : defaultVisitors settings = .ok visitors) (hlines : 0 ≤ t.lineCount)
    (ht : t.Delimited) (path : String) :
    (∃ sheet, measure visitors t path = .ok sheet) ∨
      Marker.ofValue (settings.get .marker) = .unusable ∧
        measure visitors t path = .error .wrongType := by
  obtain ⟨c, -, -, hfamilies, -, hmarker, rfl⟩ := defaultVisitors_eq_ok hvisitors
  rw [← hmarker]
  have hread : ∀ n ∈ c.counted t, ∃ lines, c.analyzer.commentLines n = .ok lines := by
    intro n hn
    have hdelimited := ht n (CommentCount.mem_comments_of_mem_counted hn)
    exact CommentAnalyzer.exists_commentLines_iff.2
      ((CommentAnalyzer.exists_contents_iff hfamilies).2 hdelimited)
  rcases Visitor.run_comments_outcome hread _ with ⟨sheet, hsheet⟩ | ⟨hunusable, herror⟩
  · refine .inl ⟨sheet, bind_eq_ok_iff.2 ⟨_, Visitor.run_lines hlines .lines _, ?_⟩⟩
    refine bind_eq_ok_iff.2 ⟨_, Visitor.run_linesOfCode t .linesOfCode _, ?_⟩
    exact bind_eq_ok_iff.2 ⟨sheet, hsheet, rfl⟩
  · refine .inr ⟨hunusable, ?_⟩
    rw [measure, List.foldlM_cons, Visitor.run_lines hlines]
    exact congrArg (· >>= pure) herror

/-- **Every comment that a parser makes has contents,** so the visitors of a scan never find the
contract broken.  It holds of the comments of every text that the lexer accepts, and of every
comment that a macro body is split into.  And of a tree that the lexer made, or a grammar whose
comments are delimited, the visitors write a sheet; they fail only with a marker that is no text,
and then by its type. -/
theorem Parser.comments_have_contents :
    (∀ {catalog : Catalog} {language : Language} {key : String} {s : List Char} {tree : SyntaxTree},
      Parser.parse ⟨.lexer, language⟩ catalog key s = .ok tree → ∀ n ∈ tree.comments,
        ∃ contents, CommentAnalyzer.cFamily.contents (n.text.getD []) = .ok contents) ∧
    (∀ n : Node, ∀ part ∈ MacroBody.split n, part.isComment = true → part ≠ n →
      ∃ contents, CommentAnalyzer.cFamily.contents (part.text.getD []) = .ok contents) ∧
    ∀ {settings : Settings} {visitors : List Visitor} {parser : Parser} {catalog : Catalog}
      {key : String} {s : List Char} {tree : SyntaxTree},
      defaultVisitors settings = .ok visitors →
      (parser.backend = .grammar → ∀ root,
        catalog.parse parser.language.grammar s = some root →
          root.Delimited parser.language.commentTypes) →
      parser.parse catalog key s = .ok tree → ∀ path,
        (∃ sheet, measure visitors tree path = .ok sheet) ∨
          Marker.ofValue (settings.get .marker) = .unusable ∧
            measure visitors tree path = .error .wrongType := by
  have hfamilies : CommentAnalyzer.cFamily.families = CommentFamily.ofC :=
    CommentFamily.mergeSort_ofC
  refine ⟨fun h n hn => ?_, fun n part hpart hcomment hne => ?_,
    fun {_ _ _ _ _ _ tree} hvisitors hraw h path => ?_⟩
  · exact (CommentAnalyzer.exists_contents_iff hfamilies).2
      (Syntax.delimited_of_flatTree (Syntax.flatTree_of_parse h) n hn)
  · exact (CommentAnalyzer.exists_contents_iff hfamilies).2
      ((MacroBody.part_of_mem_split hpart hne).2 hcomment)
  · have hlines : 0 ≤ tree.lineCount := by
      rw [lineCount_of_parse h]
      exact Int.natCast_nonneg _
    exact measure_of_delimited hvisitors hlines (delimited_of_parse hraw h) path

/-- The tree of a macro with a comment behind its body, and an empty comment on the next line. -/
def RawNode.commentedMacro : RawNode :=
  let node type row column text : RawNode := ⟨type, row, column, row, some text, [], false, false⟩
  let directive : RawNode := ⟨"preproc_def", 0, 0, 1, none, [
    node "#define" 0 0 [35, 100, 101, 102, 105, 110, 101], node "identifier" 0 8 [65],
    node "preproc_arg" 0 10 [49, 32, 47, 47, 32, 98]], false, false⟩
  ⟨"translation_unit", 0, 0, 1, none, [directive, node "comment" 1 0 [47, 42, 42, 47]], false,
    false⟩

/-- A grammar with that tree for every text. -/
def Catalog.ofCommentedMacro : Catalog :=
  .ofList [("objc", ⟨["language"], none, fun _ => some RawNode.commentedMacro⟩)]

set_option maxRecDepth 4000 in
/-- A block comment of the lexer that `/*/` opens, the comment of a macro body, and the comments of
a grammar. -/
theorem Parser.comments_have_contents_macro :
    let body := Node.leaf MacroBody.nodeType ⟨1, 10⟩ 1 "1 // b".toList false
    let comment := Node.leaf "comment" ⟨1, 12⟩ 1 "// b".toList true
    ∃ visitors flat tree, defaultVisitors .default = .ok visitors ∧
      Parser.parse ⟨.lexer, .objc⟩ .empty "a.m" "/*/ \n*/ x // y".toList = .ok flat ∧
      Parser.parse ⟨.grammar, .objc⟩ .ofCommentedMacro "b.m" "#define A 1 // b\n/**/".toList =
        .ok tree ∧
      comment ∈ MacroBody.split body ∧
      (∀ n ∈ flat.comments,
        ∃ contents, CommentAnalyzer.cFamily.contents (n.text.getD []) = .ok contents) ∧
      (∃ contents, CommentAnalyzer.cFamily.contents (comment.text.getD []) = .ok contents) ∧
      (∃ sheet, measure visitors flat "/w/a.m" = .ok sheet) ∧
      ∃ sheet, measure visitors tree "/w/b.m" = .ok sheet := by
  obtain ⟨visitors, hvisitors⟩ : ∃ visitors, defaultVisitors .default = .ok visitors := ⟨_, rfl⟩
  obtain ⟨flat, hflat⟩ : ∃ tree, Parser.parse ⟨.lexer, .objc⟩ .empty "a.m"
      "/*/ \n*/ x // y".toList = .ok tree := ⟨_, by cbv⟩
  obtain ⟨tree, htree⟩ : ∃ tree, Parser.parse ⟨.grammar, .objc⟩ .ofCommentedMacro "b.m"
      "#define A 1 // b\n/**/".toList = .ok tree := ⟨_, by cbv⟩
  have hsplit : Node.leaf "comment" ⟨1, 12⟩ 1 "// b".toList true ∈
      MacroBody.split (.leaf MacroBody.nodeType ⟨1, 10⟩ 1 "1 // b".toList false) := by
    have hparts : MacroBody.split (.leaf MacroBody.nodeType ⟨1, 10⟩ 1 "1 // b".toList false) =
        [.leaf MacroBody.nodeType ⟨1, 10⟩ 1 ['1'] false,
          .leaf "comment" ⟨1, 12⟩ 1 "// b".toList true] := by cbv
    rw [hparts]
    exact List.mem_cons_of_mem _ List.mem_cons_self
  have hmarker : Marker.ofValue (Settings.default.get .marker) ≠ .unusable := by decide +kernel
  have hraw : ∀ root, Catalog.ofCommentedMacro.parse Language.objc.grammar
      "#define A 1 // b\n/**/".toList = some root → root.Delimited Language.objc.commentTypes := by
    intro root hroot
    obtain rfl : RawNode.commentedMacro = root := Option.some.inj hroot
    decide +kernel
  have hcontents := comments_have_contents
  refine ⟨visitors, flat, tree, hvisitors, hflat, htree, hsplit, hcontents.1 hflat,
    hcontents.2.1 _ _ hsplit rfl (by simp [Node.leaf, MacroBody.nodeType]), ?_, ?_⟩
  · exact (hcontents.2.2 hvisitors (fun h => by cases h) hflat _).resolve_right fun h => hmarker h.1
  · exact (hcontents.2.2 hvisitors (fun _ => hraw) htree _).resolve_right fun h => hmarker h.1

end LineMetrics

import LineMetrics.Proofs.Listing
import LineMetrics.Proofs.Storage.PathText
import LineMetrics.Storage.FileStore

/-!
# Spellings of a file

A file has many paths: relative and absolute ones, with `.`, with detours through `..`, and through
links.  The ledger knows it by its resolved path (specification, section 3), but reads it under the
path that it was given, and goes by the extension of that (section 6).  This module says when that
makes no difference.

Every path that leads anywhere has a resolved path, which names what is there: looking a path up
passes the links that resolving it passes (`resolve_of_locate`), although the one counts the links
that it follows and the other how deep they are in one another.  So two paths with the same resolved
path lead to the same entry (`stat_congr`).  They have the same extension if neither is a link
itself, because then both end in the name of the file (`extension_of_locate`): a path of a file
cannot end in `..`, which leads to a directory.
-/

namespace LineMetrics

namespace Path

/-- A text without a root is one that does not start with a slash. -/
theorem rootOf_eq_empty_iff {s : List Char} : rootOf s = "" ↔ s.head? ≠ some '/' := by
  constructor
  · intro h hs
    cases s with
    | nil => exact nomatch hs
    | cons c cs =>
      obtain rfl := Option.some.inj hs
      unfold rootOf at h
      split at h <;> simp_all
  · exact fun h => (rootOf_slashes h).1

/-- The text of a normal path starts with a slash exactly if the path is absolute. -/
theorem startsWith_slash_iff {p : Path} (h : p.IsNormal) :
    p.toText.startsWith "/" = true ↔ p.isAbsolute = true := by
  have hroot : rootOf p.toText.toList = p.root := congrArg Path.root (ofText_toText h)
  rw [isAbsolute, decide_eq_true_eq, ← hroot, ne_eq, rootOf_eq_empty_iff, not_not,
    String.startsWith_string_iff]
  cases p.toText.toList with
  | nil => simp
  | cons c cs => simp [List.cons_prefix_cons, eq_comm]

/-- The names of a text without a null character hold none. -/
theorem not_contains_nul_of_mem_segments {s n : String} (hs : s.contains nul = false)
    (h : n ∈ segments s) : n.contains nul = false := by
  obtain ⟨piece, hpiece, rfl⟩ := List.mem_map.1 h
  rw [String.contains_char_eq, decide_eq_false_iff_not] at hs ⊢
  rw [String.toList_ofList]
  exact fun hin => hs (Text.mem_of_mem_splitOn hpiece hin)

/-- Names between slashes hold no slash. -/
theorem slash_not_mem_of_mem_segments {s n : String} (h : n ∈ segments s) : '/' ∉ n.toList := by
  obtain ⟨piece, hpiece, rfl⟩ := List.mem_map.1 h
  rw [String.toList_ofList]
  exact Text.not_mem_of_mem_splitOn hpiece

end Path

namespace FileStore

open LineMetrics.Path (IsName)

/-! ### What is true of every store -/

/-- A name that an entry of a directory can have. -/
structure IsEntryName (n : String) : Prop where
  isName : IsName n
  ne_parent : n ≠ ".."
  no_nul : n.contains Path.nul = false

/-- Names that lead from the root without passing a link. -/
structure Bare (s : FileStore) (names : List String) : Prop where
  entryNames : ∀ n ∈ names, IsEntryName n
  linkless : ∀ above n, above ++ [n] <+: names → s.links.get? (above ++ [n]) = none

/-- What holds of every store that an operating system has: the working directory exists, under
names that pass no link, and the texts of links hold no null character. -/
structure Sound (s : FileStore) : Prop where
  bare : s.Bare s.workingDirectory
  directories : ∀ above, above <+: s.workingDirectory → s.lookup above = some .directory
  texts : ∀ names text, s.links.get? names = some text → text.contains Path.nul = false

/-- A store whose working directory is below the root, as small ones are. -/
theorem sound_of_singleton {s : FileStore} {n : String} (hdir : s.workingDirectory = [n])
    (hn : IsEntryName n) (hlink : s.links.get? [n] = none)
    (hroot : s.lookup [] = some .directory) (hbelow : s.lookup [n] = some .directory)
    (htexts : ∀ e ∈ s.links.entries, e.2.contains Path.nul = false) : s.Sound where
  bare := by
    rw [hdir]
    refine ⟨fun m hm => List.mem_singleton.1 hm ▸ hn, fun above m hpre => ?_⟩
    obtain ⟨rfl, rfl⟩ : above = [] ∧ m = n := by
      cases above with
      | nil => exact ⟨rfl, (List.cons_prefix_cons.1 hpre).1⟩
      | cons a rest => simpa using (List.cons_prefix_cons.1 hpre).2
    exact hlink
  directories above hpre := by
    rw [hdir] at hpre
    rcases List.prefix_cons_iff.1 hpre with rfl | ⟨rest, rfl, hrest⟩
    · exact hroot
    · exact List.prefix_nil.1 hrest ▸ hbelow
  texts names text h := htexts (names, text) (Listing.mem_entries_iff.2 h)

/-- Everything above the names is a directory. -/
def Reaches (s : FileStore) (names : List String) : Prop :=
  ∀ above, above <+: names → above ≠ names → s.lookup above = some .directory

variable {s : FileStore} {names names' : List String}

theorem bare_nil : s.Bare [] := ⟨nofun, fun above n h => by simp at h⟩

/-- The way up to a directory without links holds no link. -/
theorem Bare.dropLast (h : s.Bare names) : s.Bare names.dropLast where
  entryNames n hn := h.entryNames n ((List.dropLast_sublist names).subset hn)
  linkless above n hpre := h.linkless above n (hpre.trans (List.dropLast_prefix names))

/-- One more name that is no link. -/
theorem Bare.append_singleton (h : s.Bare names) {n : String} (hn : IsEntryName n)
    (hlink : s.links.get? (names ++ [n]) = none) : s.Bare (names ++ [n]) where
  entryNames m hm := by
    rcases List.mem_append.1 hm with hm | hm
    · exact h.entryNames m hm
    · exact List.mem_singleton.1 hm ▸ hn
  linkless above m hpre := by
    rcases List.prefix_concat_iff.1 hpre with heq | hpre
    · rw [heq, hlink]
    · exact h.linkless above m hpre

theorem reaches_nil : s.Reaches [] := fun _ hpre hne => absurd (List.prefix_nil.1 hpre) hne

/-- The working directory of a sound store is reached. -/
theorem Sound.reaches (h : s.Sound) : s.Reaches s.workingDirectory :=
  fun above hpre _ => h.directories above hpre

/-- A directory below one that is reached is reached. -/
theorem Reaches.append_singleton (h : s.Reaches names) (hdir : s.lookup names = some .directory)
    (n : String) : s.Reaches (names ++ [n]) := by
  intro above hpre hne
  rcases List.prefix_concat_iff.1 hpre with rfl | hpre
  · exact absurd rfl hne
  · by_cases heq : above = names
    · exact heq ▸ hdir
    · exact h above hpre heq

/-- The directory above one that is reached is reached. -/
theorem Reaches.dropLast (h : s.Reaches names) : s.Reaches names.dropLast := by
  intro above hpre hne
  refine h above (hpre.trans (List.dropLast_prefix names)) fun heq => hne ?_
  exact hpre.eq_of_length_le (heq ▸ (List.dropLast_prefix names).length_le)

/-- What is above a directory that was reached is a directory, and above the root is the root. -/
theorem Reaches.above (h : s.Reaches names) (hdir : s.lookup names = some .directory) :
    s.lookup names.dropLast = some .directory := by
  by_cases hnil : names = []
  · rw [hnil, List.dropLast_nil, ← hnil, hdir]
  · refine h _ (List.dropLast_prefix names) fun heq => ?_
    have := congrArg List.length heq
    rw [List.length_dropLast] at this
    have := List.length_pos_iff.2 hnil
    omega

/-! ### Resolving -/

/-- Resolving goes on from where it has come to. -/
theorem trace_append (s : FileStore) (room : Nat) (names before after : List String) :
    s.trace room names (before ++ after) =
      s.trace room names before >>= fun names' => s.trace room names' after := by
  cases room <;> exact List.foldlM_append

theorem trace_nil (s : FileStore) (room : Nat) (names : List String) :
    s.trace room names [] = some names := by
  cases room <;> rfl

/-- What resolving does with one segment, by what room is left for the links behind it. -/
def expand (s : FileStore) : Nat → List String → String → Option (List String)
  | 0, _, _ => none
  | room + 1, names, text => s.trace room (origin names text) (Path.segments text)

/-- A walk of several segments is the first one's pass and then the walk of the others. -/
theorem trace_cons (s : FileStore) (room : Nat) (names : List String) (segment : String)
    (rest : List String) :
    s.trace room names (segment :: rest) =
      s.pass (s.expand room) names segment >>= fun names' => s.trace room names' rest := by
  cases room <;> exact List.foldlM_cons

/-- What more room does not change about the links, it does not change about a path. -/
theorem trace_of_expand {room room' : Nat}
    (hexpand : ∀ {names text names'}, s.expand room names text = some names' →
      s.expand room' names text = some names') {segments : List String}
    (h : s.trace room names segments = some names') :
    s.trace room' names segments = some names' := by
  induction segments generalizing names with
  | nil => rwa [trace_nil] at h ⊢
  | cons segment rest ih =>
    rw [trace_cons, Option.bind_eq_bind, Option.bind_eq_some_iff] at h ⊢
    obtain ⟨next, hpass, hrest⟩ := h
    refine ⟨next, ?_, ih hrest⟩
    rw [pass] at hpass ⊢
    split_ifs at hpass ⊢ <;> try exact hpass
    split at hpass
    · exact hexpand hpass
    · exact hpass

/-- **More room changes nothing:** it only lets some more paths be resolved. -/
theorem trace_mono {room room' : Nat} (hroom : room ≤ room') {segments : List String}
    (h : s.trace room names segments = some names') :
    s.trace room' names segments = some names' := by
  induction room generalizing room' names names' segments with
  | zero =>
    refine trace_of_expand (fun hlink => ?_) h
    rw [expand] at hlink
    exact nomatch hlink
  | succ room ih =>
    obtain ⟨more, rfl⟩ : ∃ more, room' = more + 1 := ⟨room' - 1, by omega⟩
    refine trace_of_expand (fun hlink => ?_) h
    rw [expand] at hlink ⊢
    exact ih (Nat.le_of_succ_le_succ hroom) hlink

/-- Segments that lead nowhere else leave no trace. -/
theorem trace_filter (s : FileStore) (room : Nat) (names segments : List String) :
    s.trace room names (segments.filter fun n => n ≠ "" ∧ n ≠ ".") =
      s.trace room names segments := by
  induction segments generalizing names with
  | nil => rfl
  | cons segment rest ih =>
    rw [List.filter_cons, trace_cons s room names segment rest, pass]
    by_cases hstay : segment = "" ∨ segment = "."
    · rw [if_pos hstay, if_neg (by simpa [or_iff_not_imp_left] using hstay), ih]
      rfl
    · rw [if_pos (by simpa [not_or] using hstay), trace_cons, pass]
      exact bind_congr fun names' => ih names'

/-- One more segment leads past no link, if links do not. -/
theorem bare_of_pass {expand : List String → String → Option (List String)} {segment : String}
    (hexpand : ∀ {text next}, s.links.get? (names ++ [segment]) = some text →
      expand names text = some next → s.Bare next)
    (hn : s.Bare names) (hseg : '/' ∉ segment.toList ∧ segment.contains Path.nul = false)
    (h : s.pass expand names segment = some names') : s.Bare names' := by
  rw [pass] at h
  split_ifs at h with hstay hup
  · exact Option.some.inj h ▸ hn
  · exact Option.some.inj h ▸ hn.dropLast
  · rw [not_or] at hstay
    split at h
    · rename_i text hlink
      exact hexpand hlink h
    · rename_i hlink
      exact Option.some.inj h ▸
        hn.append_singleton ⟨⟨hstay.1, hstay.2, hseg.1⟩, hup, hseg.2⟩ hlink

/-- What is kept on the way along links is kept along a path. -/
theorem bare_of_expand (hs : s.Sound) {room : Nat}
    (hexpand : ∀ {names text next}, s.Bare names → text.contains Path.nul = false →
      s.expand room names text = some next → s.Bare next) {segments : List String}
    (hn : s.Bare names)
    (hsegments : ∀ n ∈ segments, '/' ∉ n.toList ∧ n.contains Path.nul = false)
    (h : s.trace room names segments = some names') : s.Bare names' := by
  induction segments generalizing names with
  | nil =>
    rw [trace_nil] at h
    exact Option.some.inj h ▸ hn
  | cons segment rest ih =>
    obtain ⟨hseg, hrest⟩ := List.forall_mem_cons.1 hsegments
    rw [trace_cons, Option.bind_eq_bind, Option.bind_eq_some_iff] at h
    obtain ⟨next, hpass, h⟩ := h
    exact ih (bare_of_pass (fun hlink => hexpand hn (hs.texts _ _ hlink)) hn hseg hpass) hrest h

/-- **Resolving passes every link,** so it comes to names that pass none. -/
theorem bare_of_trace (hs : s.Sound) {room : Nat} {segments : List String} (hn : s.Bare names)
    (hsegments : ∀ n ∈ segments, '/' ∉ n.toList ∧ n.contains Path.nul = false)
    (h : s.trace room names segments = some names') : s.Bare names' := by
  induction room generalizing names names' segments with
  | zero =>
    refine bare_of_expand hs (fun _ _ hlink => ?_) hn hsegments h
    rw [expand] at hlink
    exact nomatch hlink
  | succ room ih =>
    refine bare_of_expand hs (fun {names text next} hnames htext hlink => ?_) hn hsegments h
    rw [expand] at hlink
    have horigin : s.Bare (origin names text) := by
      rw [origin]
      split_ifs
      · exact bare_nil
      · exact hnames
    refine ih horigin (fun n hn => ?_) hlink
    exact ⟨Path.slash_not_mem_of_mem_segments hn, Path.not_contains_nul_of_mem_segments htext hn⟩

/-- Names that pass no link are what they denote. -/
theorem trace_of_bare (room : Nat) (h : s.Bare names) : s.trace room [] names = some names := by
  have key : ∀ above rest, s.Bare (above ++ rest) →
      s.trace room above rest = some (above ++ rest) := by
    intro above rest
    induction rest generalizing above with
    | nil => exact fun _ => by rw [trace_nil, List.append_nil]
    | cons n rest ih =>
      intro hbare
      obtain ⟨⟨hempty, hdot, -⟩, hup, -⟩ :=
        hbare.entryNames n (List.mem_append_right _ List.mem_cons_self)
      have hlink : s.links.get? (above ++ [n]) = none :=
        hbare.linkless above n ⟨rest, by rw [List.append_assoc]; rfl⟩
      have hpass : s.pass (s.expand room) above n = some (above ++ [n]) := by
        rw [pass, if_neg (not_or.2 ⟨hempty, hdot⟩), if_neg hup, hlink]
      rw [List.append_cons] at hbare ⊢
      rw [trace_cons, hpass]
      exact ih _ hbare
  exact key [] names h

/-! ### Looking up -/

/-- The names among segments that lead somewhere else. -/
def properNames (segments : List String) : List String :=
  segments.filter fun n => n ≠ "" ∧ n ≠ "."

/-- Where a walk ends or is held up.  It ends in what it names, and behind a last `..` that is a
directory; or it is held up by a link in a directory. -/
inductive Walked (s : FileStore) (names segments : List String) : Stop → Prop
  | arrived {names' entry} (trace : ∀ room, s.trace room names segments = some names')
      (lookup : s.lookup names' = some entry)
      (parent : (properNames segments).getLast? = some ".." → entry = .directory) :
      Walked s names segments (.arrived names' entry)
  | link {names' text segment before rest} (segments_eq : segments = before ++ segment :: rest)
      (trace : ∀ room, s.trace room names before = some names') (reaches : s.Reaches names')
      (stays : ¬(segment = "" ∨ segment = ".")) (descends : segment ≠ "..")
      (link : s.links.get? (names' ++ [segment]) = some text) :
      Walked s names segments (.link names' text rest)

/-- A walk past one more segment. -/
theorem Walked.cons {segment : String} {rest next : List String} {stop : Stop}
    (hpass : ∀ room, s.pass (s.expand room) names segment = some next)
    (hparent : segment = ".." → s.lookup next = some .directory) (h : s.Walked next rest stop) :
    s.Walked names (segment :: rest) stop := by
  have htrace : ∀ room segments, s.trace room names (segment :: segments) =
      s.trace room next segments := fun room segments => by
    rw [trace_cons, hpass]
    rfl
  cases h with
  | arrived hrest hlookup hlast =>
    refine .arrived (fun room => (htrace room rest).trans (hrest room)) hlookup fun hup => ?_
    cases hnames : properNames rest with
    | nil =>
      -- The walk ends where the segment has led, so the segment is the `..`.
      have hstay := (trace_filter s 0 next rest).trans (hrest 0)
      rw [properNames] at hnames
      rw [hnames, trace_nil] at hstay
      rw [properNames, List.filter_cons, hnames] at hup
      split_ifs at hup
      · have hsegment := hparent (Option.some.inj hup)
        rw [Option.some.inj hstay, hlookup] at hsegment
        exact Option.some.inj hsegment
      · exact nomatch hup
    | cons n more =>
      refine hlast ?_
      rw [properNames, List.filter_cons, ← properNames, hnames] at hup
      rw [hnames]
      split_ifs at hup
      · rwa [List.getLast?_cons_cons] at hup
      · exact hup
  | @link _ _ _ before _ heq hbefore hreaches hstays hdescends hlink =>
    have hsegments : segment :: rest = (segment :: before) ++ _ :: _ := congrArg (segment :: ·) heq
    exact .link hsegments (fun room => (htrace room before).trans (hbefore room)) hreaches hstays
      hdescends hlink

/-- **A walk** names what it ends in, or is held up by a link. -/
theorem walked_of_walk : ∀ {segments names : List String} {stop : Stop}, s.Reaches names →
    s.walk names segments = .ok stop → s.Walked names segments stop
  | [], names, stop, hr, h => by
    rw [walk] at h
    split at h
    · rename_i entry hentry
      exact Except.ok.inj h ▸ .arrived (fun room => trace_nil s room names) hentry nofun
    · exact nomatch h
  | segment :: rest, names, stop, hr, h => by
    rw [walk] at h
    split at h
    · exact nomatch h
    · rename_i hdir
      split_ifs at h with hstay hup
      · refine .cons (fun room => by rw [pass, if_pos hstay]) (fun hup => ?_)
          (walked_of_walk hr h)
        exact absurd hstay (by subst hup; decide)
      · exact .cons (fun room => by rw [pass, if_neg hstay, if_pos hup])
          (fun _ => hr.above hdir) (walked_of_walk hr.dropLast h)
      · split at h
        · rename_i text hlink
          have hsegments : segment :: rest = [] ++ segment :: rest := rfl
          exact Except.ok.inj h ▸
            .link hsegments (fun room => trace_nil s room names) hr hstay hup hlink
        · rename_i hlink
          exact .cons (fun room => by rw [pass, if_neg hstay, if_neg hup, hlink])
            (fun heq => absurd heq hup) (walked_of_walk (hr.append_singleton hdir segment) h)
    · exact nomatch h

/-- A look-up has arrived, or it goes on behind a link, along the link's text and with one link
less. -/
theorem follow_cases {budget : Nat} {segments : List String} {entry : FileEntry}
    (h : s.follow budget names segments = .ok (names', entry)) :
    s.walk names segments = .ok (.arrived names' entry) ∨
    ∃ less dir text rest, budget = less + 1 ∧ s.walk names segments = .ok (.link dir text rest) ∧
      s.follow less (origin dir text) (Path.segments text ++ rest) = .ok (names', entry) := by
  unfold follow at h
  split at h
  · cases h
  · rename_i hwalk
    obtain ⟨rfl, rfl⟩ := Prod.mk.inj (Except.ok.inj h)
    exact .inl hwalk
  · cases h
  · rename_i dir text rest less hwalk
    exact .inr ⟨less, dir, text, rest, rfl, hwalk, h⟩

/-- The text of a link is followed from the root or from the directory that holds the link. -/
theorem Reaches.origin (h : s.Reaches names) (text : String) :
    s.Reaches (FileStore.origin names text) := by
  rw [FileStore.origin]
  split_ifs
  · exact reaches_nil
  · exact h

/-- A path that ends in `..` does so behind a name too, whatever stands in front, if the name is not
`..` itself. -/
theorem getLast?_properNames {segment : String} {before rest : List String}
    (hstays : ¬(segment = "" ∨ segment = ".")) (hdescends : segment ≠ "..")
    (hup : (properNames (before ++ segment :: rest)).getLast? = some "..") (front : List String) :
    (properNames (front ++ rest)).getLast? = some ".." := by
  rw [properNames, List.filter_append, List.getLast?_append, List.filter_cons,
    if_pos (by simpa [not_or] using hstays), ← properNames] at hup
  rw [properNames, List.filter_append, List.getLast?_append, ← properNames]
  cases hrest : properNames rest with
  | nil =>
    rw [hrest] at hup
    exact absurd (Option.some.inj hup) hdescends
  | cons n more =>
    rw [hrest, List.getLast?_cons_cons] at hup
    rwa [List.getLast?_cons] at hup ⊢

/-- A link stands for its text, which takes one link more. -/
theorem trace_of_link {room : Nat} {dir before rest : List String} {segment text : String}
    (hbefore : s.trace (room + 1) names before = some dir)
    (hstays : ¬(segment = "" ∨ segment = ".")) (hdescends : segment ≠ "..")
    (hlink : s.links.get? (dir ++ [segment]) = some text)
    (h : s.trace room (origin dir text) (Path.segments text ++ rest) = some names') :
    s.trace (room + 1) names (before ++ segment :: rest) = some names' := by
  rw [trace_append, Option.bind_eq_bind, Option.bind_eq_some_iff] at h
  obtain ⟨next, hnext, hrest⟩ := h
  have hpass : s.pass (s.expand (room + 1)) dir segment = some next := by
    rw [pass, if_neg hstays, if_neg hdescends, hlink]
    exact hnext
  rw [trace_append, hbefore]
  refine Eq.trans (trace_cons s _ dir segment rest) ?_
  rw [hpass]
  exact trace_mono (Nat.le_succ room) hrest

/-- **Following segments and links** comes to the names that they denote and what is there, which
is a directory if the last name is `..`. -/
theorem trace_of_follow {budget : Nat} {segments : List String} {entry : FileEntry}
    (hr : s.Reaches names) (h : s.follow budget names segments = .ok (names', entry)) :
    s.trace budget names segments = some names' ∧ s.lookup names' = some entry ∧
      ((properNames segments).getLast? = some ".." → entry = .directory) := by
  -- On the links that may still be followed.
  induction budget using Nat.strong_induction_on generalizing names segments with
  | h budget ih =>
    rcases follow_cases h with hwalk | ⟨less, dir, text, rest, rfl, hwalk, hfollow⟩
    · cases walked_of_walk hr hwalk with
      | arrived htrace hlookup hparent => exact ⟨htrace budget, hlookup, hparent⟩
    · cases walked_of_walk hr hwalk with
      | link hsegments hbefore hreaches hstays hdescends hlink =>
        obtain ⟨htrace, hlookup, hparent⟩ := ih less less.lt_succ_self (hreaches.origin text) hfollow
        rw [hsegments]
        exact ⟨trace_of_link (hbefore _) hstays hdescends hlink htrace, hlookup,
          fun hup => hparent (getLast?_properNames hstays hdescends hup _)⟩

/-! ### Paths of entries -/

variable {p q : Path} {entry : FileEntry}

/-- Looking a path up starts where resolving it starts. -/
theorem origin_toText (hp : p.IsNormal) (names : List String) :
    origin names p.toText = if p.isAbsolute then [] else names := by
  rw [origin]
  by_cases habs : p.isAbsolute
  · rw [if_pos ((Path.startsWith_slash_iff hp).2 habs), if_pos habs]
  · rw [if_neg (mt (Path.startsWith_slash_iff hp).1 habs), if_neg habs]

/-- A look-up that succeeds has followed the segments of a path without a null character. -/
theorem follow_of_stat {path : String} (h : s.stat path = .ok entry) :
    path.contains Path.nul = false ∧ ∃ names, s.follow maxLinks (origin s.workingDirectory path)
      (Path.segments path) = .ok (names, entry) := by
  rw [stat, locate] at h
  by_cases hnowhere : path = "" ∨ path.contains Path.nul = true
  · rw [if_pos hnowhere] at h
    cases h
  · by_cases hlong : maxPathBytes < path.utf8ByteSize
    · rw [if_neg hnowhere, if_pos hlong] at h
      cases h
    · rw [if_neg hnowhere, if_neg hlong] at h
      refine ⟨Bool.eq_false_iff.2 fun hnul => hnowhere (.inr hnul), ?_⟩
      cases hfollow : s.follow maxLinks (origin s.workingDirectory path)
          (Path.segments path) with
      | error fault =>
        rw [hfollow] at h
        cases h
      | ok found =>
        rw [hfollow] at h
        exact ⟨found.1, congrArg (fun entry => Except.ok (found.1, entry)) (Except.ok.inj h)⟩

/-- The names of a normal path are those of its text. -/
theorem properNames_toText (hp : p.IsNormal) : properNames (Path.segments p.toText) = p.names :=
  congrArg Path.names (Path.ofText_toText hp)

/-- A path with a null character leads nowhere. -/
theorem hasNul_of_stat (hp : p.IsNormal) (h : s.stat p.toText = .ok entry) :
    p.hasNul = false := by
  rw [Path.hasNul, List.any_eq_false]
  intro name hname
  rw [← properNames_toText hp, properNames, List.mem_filter] at hname
  exact Bool.eq_false_iff.1
    (Path.not_contains_nul_of_mem_segments (follow_of_stat h).1 hname.1)

/-- **A path that leads anywhere** leads to what its resolved path names, which is a directory if
the path ends in `..`. -/
theorem resolve_of_stat (hs : s.Sound) (hp : p.IsNormal) (h : s.stat p.toText = .ok entry) :
    ∃ names, s.resolve p = some ⟨"/", names⟩ ∧ s.lookup names = some entry ∧
      (p.names.getLast? = some ".." → entry = .directory) := by
  obtain ⟨-, names, hfollow⟩ := follow_of_stat h
  have hreaches : s.Reaches (origin s.workingDirectory p.toText) := by
    rw [origin]
    split_ifs
    · exact reaches_nil
    · exact hs.reaches
  obtain ⟨htrace, hlookup, hparent⟩ := trace_of_follow hreaches hfollow
  refine ⟨names, ?_, hlookup, properNames_toText hp ▸ hparent⟩
  rw [origin_toText hp, ← trace_filter, ← properNames, properNames_toText hp] at htrace
  rw [resolve, trace_mono (Nat.le_add_right _ _) htrace]
  rfl

/-- Resolving a path that holds no null character comes to names that pass no link. -/
theorem bare_of_resolve (hs : s.Sound) (hp : p.IsNormal) (hnul : p.hasNul = false)
    (h : s.resolve p = some q) : q.root = "/" ∧ s.Bare q.names := by
  rw [Path.hasNul, List.any_eq_false] at hnul
  obtain ⟨names, htrace, rfl⟩ := Option.map_eq_some_iff.1 h
  refine ⟨rfl, bare_of_trace hs ?_ (fun n hn => ?_) htrace⟩
  · split_ifs
    · exact bare_nil
    · exact hs.bare
  · exact ⟨(hp.names n hn).2.2, Bool.eq_false_iff.2 (hnul n hn)⟩

/-- **A resolved path is a spelling of itself.** -/
theorem resolve_resolved (hs : s.Sound) (hp : p.IsNormal) (hnul : p.hasNul = false)
    (h : s.resolve p = some q) : q.IsNormal ∧ q.hasNul = false ∧ s.resolve q = some q := by
  obtain ⟨hroot, hbare⟩ := bare_of_resolve hs hp hnul h
  obtain ⟨root, names⟩ := q
  dsimp only at hroot hbare
  subst hroot
  refine ⟨⟨.inr (.inl rfl), fun n hn => (hbare.entryNames n hn).isName⟩, ?_, ?_⟩
  · rw [Path.hasNul, List.any_eq_false]
    exact fun n hn => Bool.eq_false_iff.1 (hbare.entryNames n hn).no_nul
  · exact congrArg (Option.map fun names => Path.mk "/" names) (trace_of_bare _ hbare)

/-- **Two paths with the same resolved path** lead to the same entry. -/
theorem stat_congr {entry' : FileEntry} (hs : s.Sound) (hp : p.IsNormal) (hq : q.IsNormal)
    (hpath : s.stat p.toText = .ok entry) (hpath' : s.stat q.toText = .ok entry')
    (h : s.resolve p = s.resolve q) : entry = entry' := by
  obtain ⟨names, hresolve, hlookup, -⟩ := resolve_of_stat hs hp hpath
  obtain ⟨names', hresolve', hlookup', -⟩ := resolve_of_stat hs hq hpath'
  rw [hresolve, hresolve'] at h
  obtain rfl := (Path.mk.inj (Option.some.inj h)).2
  exact Option.some.inj (hlookup.symm.trans hlookup')

end FileStore
end LineMetrics

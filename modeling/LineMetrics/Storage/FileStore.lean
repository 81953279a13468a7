import LineMetrics.Host
import LineMetrics.Listing
import LineMetrics.Storage.Path
import LineMetrics.Text.Quoted

/-!
# File stores

A store holds files, directories and links under a working directory.  A path is looked up name by
name: every name on the way has to be that of a directory, `..` leads to the directory above, which
is only known on the way, and a link leads on along its own text.  A failed look-up says why, in the
words of the operating system.  Names and paths have a greatest length, in bytes of UTF-8, a look-up
follows no more than a number of links, and a path with a null character leads nowhere.

Resolving a path is something else: it takes out `..` and the links, and asks for nothing to be
there.  Where there is something, both come to the same names.
-/

namespace LineMetrics

/-- How the operating system refuses to let a file be read, although it is there. -/
structure Refusal where
  number : Nat
  words : String
  /-- Whether the file cannot even be opened.  Only then is its path told. -/
  atOpening : Bool
  deriving Repr, DecidableEq

/-- What a path leads to. -/
inductive FileEntry
  | file (bytes : ByteArray)
  | directory
  /-- A regular file of a size that cannot be opened or read. -/
  | sealed (size : Nat) (refusal : Refusal)

/-- Why a path leads to nothing that can be used. -/
inductive AccessFault
  | missing
  | notDirectory
  | isDirectory
  | nameTooLong
  /-- More links on the way than a look-up follows. -/
  | tooManyLinks
  | refused (refusal : Refusal)
  deriving Repr, DecidableEq

/-- The fault with its number, and the path as it was given if it is told. -/
def AccessFault.reason (fault : AccessFault) (path : String) : String :=
  let shown := Text.quoted path
  match fault with
  | missing => s!"[Errno 2] No such file or directory: {shown}"
  | notDirectory => s!"[Errno 20] Not a directory: {shown}"
  | isDirectory => s!"[Errno 21] Is a directory: {shown}"
  | nameTooLong => s!"[Errno 36] File name too long: {shown}"
  | tooManyLinks => s!"[Errno 40] Too many levels of symbolic links: {shown}"
  | refused ⟨number, words, true⟩ => s!"[Errno {number}] {words}: {shown}"
  | refused ⟨number, words, false⟩ => s!"[Errno {number}] {words}"

namespace FileEntry

/-- The size that the operating system gives for an entry; that of a directory is one block. -/
def size : FileEntry → Nat
  | file bytes => bytes.size
  | directory => 4096
  | sealed size _ => size

/-- Whether the entry is a regular file. -/
def isRegular : FileEntry → Bool
  | file _ | sealed .. => true
  | directory => false

/-- Opens the entry for reading. -/
def opened : FileEntry → Except AccessFault Unit
  | file _ => .ok ()
  | directory => .error .isDirectory
  | sealed _ refusal => if refusal.atOpening then .error (.refused refusal) else .ok ()

/-- The bytes of the entry. -/
def bytes : FileEntry → Except AccessFault ByteArray
  | file bytes => .ok bytes
  | directory => .error .isDirectory
  | sealed _ refusal => .error (.refused refusal)

end FileEntry

/-- Files, directories and links, the directory that relative paths start from, and the host that
they are on. -/
structure FileStore where
  /-- The names of the working directory. -/
  workingDirectory : List String
  /-- What there is, by the names that lead to it from the root. -/
  entries : Listing (List String) FileEntry
  /-- The texts of the links, by the names that lead to them from the root. -/
  links : Listing (List String) String := .empty
  host : Host := .plain

namespace FileStore

/-- The working directory as a path. -/
def base (s : FileStore) : Path := ⟨"/", s.workingDirectory⟩

/-- The entry under names without `..`; the root and the directories above the working directory are
always there. -/
def lookup (s : FileStore) (names : List String) : Option FileEntry :=
  match s.entries.get? names with
  | some entry => some entry
  | none => if names.isPrefixOf s.workingDirectory then some .directory else none

/-- The most bytes of a name. -/
def maxNameBytes : Nat := 255

/-- The most bytes of a path. -/
def maxPathBytes : Nat := 4095

/-- The most links that a look-up follows. -/
def maxLinks : Nat := 40

/-- The directory that a text's names start from, if it stands in the directory with given names. -/
def origin (names : List String) (text : String) : List String :=
  if text.startsWith "/" then [] else names

/-- Where a walk along segments of a path ends, or is held up. -/
inductive Stop
  | arrived (names : List String) (entry : FileEntry)
  /-- A link in a directory, and the segments behind it. -/
  | link (names : List String) (text : String) (rest : List String)

/-- Walks along segments of a path from the directory with the given names, up to the next link.  A
segment that is empty or `.` stays where it is, which only works in a directory. -/
def walk (s : FileStore) (names : List String) : List String → Except AccessFault Stop
  | [] =>
    match s.lookup names with
    | some entry => .ok (.arrived names entry)
    | none => .error .missing
  | segment :: rest =>
    match s.lookup names with
    | none => .error .missing
    | some .directory =>
      if segment = "" ∨ segment = "." then s.walk names rest
      else if segment = ".." then s.walk names.dropLast rest
      else if maxNameBytes < segment.utf8ByteSize then .error .nameTooLong
      else match s.links.get? (names ++ [segment]) with
        | some text => .ok (.link names text rest)
        | none => s.walk (names ++ [segment]) rest
    | some _ => .error .notDirectory

/-- Follows segments of a path from the directory with the given names, and at most `budget` links
on the way: the names that it comes to, and what is there. -/
def follow (s : FileStore) (budget : Nat) (names segments : List String) :
    Except AccessFault (List String × FileEntry) :=
  match s.walk names segments, budget with
  | .error fault, _ => .error fault
  | .ok (.arrived names entry), _ => .ok (names, entry)
  | .ok (.link ..), 0 => .error .tooManyLinks
  | .ok (.link names text rest), budget + 1 =>
    s.follow budget (origin names text) (Path.segments text ++ rest)

/-- Where a path leads to, as the operating system reads it: the empty path leads nowhere. -/
def locate (s : FileStore) (path : String) : Except AccessFault (List String × FileEntry) :=
  if path = "" ∨ path.contains Path.nul then .error .missing
  else if maxPathBytes < path.utf8ByteSize then .error .nameTooLong
  else s.follow maxLinks (origin s.workingDirectory path) (Path.segments path)

/-- What a path leads to. -/
def stat (s : FileStore) (path : String) : Except AccessFault FileEntry :=
  (s.locate path).map Prod.snd

/-- Whether a path leads anywhere. -/
def pathExists (s : FileStore) (path : String) : Bool := (s.stat path).toOption.isSome

/-- Whether a path leads to a regular file. -/
def isFile (s : FileStore) (path : String) : Bool :=
  match s.stat path with
  | .ok entry => entry.isRegular
  | .error _ => false

/-- What a path leads to, if anything; a name that is too long is a fault, not an absence. -/
def probe (s : FileStore) (path : String) : Except Fault (Option FileEntry) :=
  match s.stat path with
  | .ok entry => .ok (some entry)
  | .error .nameTooLong => .error (.systemRefusal (AccessFault.nameTooLong.reason path))
  | .error _ => .ok none

/-- The bytes of the file that a path leads to. -/
def read (s : FileStore) (path : String) : Except AccessFault ByteArray := do
  (← s.stat path).bytes

/-! ### Resolving -/

/-- One step of resolving, with the way to go on from a link. -/
def pass (s : FileStore) (expand : List String → String → Option (List String))
    (names : List String) (segment : String) : Option (List String) :=
  if segment = "" ∨ segment = "." then some names
  else if segment = ".." then some names.dropLast
  else match s.links.get? (names ++ [segment]) with
    | some text => expand names text
    | none => some (names ++ [segment])

/-- The names that segments denote from the directory with the given names, with links in links
`room` deep. -/
def trace (s : FileStore) : Nat → List String → List String → Option (List String)
  | 0, names, segments => segments.foldlM (s.pass fun _ _ => none) names
  | room + 1, names, segments => segments.foldlM (s.pass fun names text =>
      s.trace room (origin names text) (Path.segments text)) names

/-- The absolute path without `..` and links that a path denotes.  Links that are in one another
deeper than there are links lead back to themselves; such a path denotes nothing. -/
def resolve (s : FileStore) (p : Path) : Option Path :=
  let start := if p.isAbsolute then [] else s.workingDirectory
  (s.trace (maxLinks + s.links.keys.length) start p.names).map fun names => ⟨"/", names⟩

/-- What is wrong with a path that denotes nothing. -/
def circleReason (s : FileStore) (p : Path) : String :=
  let shown := Text.quoted (s.base.join p).toText
  s!"Symlink loop from {shown}"

/-! ### Changes -/

/-- The store with a directory, and those above it, that were not there. -/
def makeDirectory (s : FileStore) (names : List String) : FileStore :=
  let above := (List.range (names.length + 1)).map names.take
  { s with entries := above.foldl (fun es d =>
      match es.get? d with
      | some _ => es
      | none => es.put d .directory) s.entries }

/-- The store with an entry at a path of names, and the directories that lead to it. -/
def put (s : FileStore) (names : List String) (entry : FileEntry) : FileStore :=
  match entry with
  | .directory => s.makeDirectory names
  | _ =>
    let s := s.makeDirectory names.dropLast
    { s with entries := s.entries.put names entry }

/-- The store with an entry at a path, if that denotes anything. -/
def write (s : FileStore) (path : String) (entry : FileEntry) : FileStore :=
  match s.resolve (.ofText path) with
  | some resolved => s.put resolved.names entry
  | none => s

/-- The store without the file at a path, if there is one. -/
def delete (s : FileStore) (path : String) : FileStore :=
  match s.isFile path, s.resolve (.ofText path) with
  | true, some resolved => { s with entries := s.entries.erase resolved.names }
  | _, _ => s

/-- The store with nothing in its working directory. -/
def emptyAt (workingDirectory : List String) : FileStore :=
  ⟨workingDirectory, .empty, .empty, .plain⟩

end FileStore
end LineMetrics

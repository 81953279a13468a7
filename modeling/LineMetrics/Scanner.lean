import LineMetrics.Encoding.Codec
import LineMetrics.Ledger
import LineMetrics.Measure.Visitor
import LineMetrics.Parser
import LineMetrics.Storage.FileStore

/-!
# Scanning

A scanner measures files one by one and keeps a ledger (specification, section 4.1).  For each file
it picks a parser, reads the text, parses it, lets every visitor write a sheet, and publishes the
sheet; nothing is published unless all of that succeeds.  A file that cannot be read or parsed is a
failure of that file alone when files are scanned in a batch; every other fault ends the operation.

A scan runs in a monad that keeps the scanner when it ends with a fault, so what was published and
reported before stays.
-/

namespace LineMetrics

/-- What a scanner is and has found out. -/
structure Scanner where
  settings : Settings
  /-- The parser of every file, if it was given. -/
  parser : Option Parser
  visitors : List Visitor
  ledger : Ledger
  /-- The parsers used so far, by language. -/
  parsers : Listing String Parser
  /-- What was reported, the latest first. -/
  events : List Event

/-- A step of a scan: it changes the scanner and may end with a fault. -/
abbrev Scan := ExceptT Fault (StateM Scanner)

namespace Scan

/-- Ends the scan unless the result is there. -/
def orFault {α : Type} : Except Fault α → Scan α
  | .ok a => pure a
  | .error fault => throw fault

/-- Reports events in order. -/
def report (events : List Event) : Scan Unit :=
  modify fun s => { s with events := events.reverse ++ s.events }

/-- Takes over a ledger and reports what happened to it. -/
def adopt (change : Ledger × List Event) : Scan Unit := do
  modify fun s => { s with ledger := change.1 }
  report change.2

end Scan

/-- The visitors that a scan uses unless it is given others. -/
def defaultVisitors (settings : Settings) : Except Fault (List Visitor) := do
  let language ← Parser.languageOf (settings.get .language)
  return [.lines .lines, .linesOfCode .linesOfCode,
    .comments {
      commentMetric := .commentLines
      blankMetric := some .commentBlankLines
      analyzer := language.analyzer
      ignoresHeader := settings.isOn .ignoreHeader
      marker := .ofValue (settings.get .marker) }]

namespace Scanner

/-- A scanner with a blank ledger. -/
def create (settings : Settings) (visitors : Option (List Visitor)) (parser : Option Parser) :
    Except Fault Scanner := do
  let visitors ← match visitors with
    | some visitors => pure visitors
    | none => defaultVisitors settings
  let project := settings.get .projectName
  if !project.isKey then throw .wrongType
  let parserName := match parser with
    | some p => p.backend.name
    | none => (settings.get .backend).toText
  return {
    settings, parser, visitors
    ledger := .ofProject project
    parsers := .empty
    events := [.ready parserName (visitors.map Visitor.toText)] }

/-- The language of a file: the one that the settings name, or else the one its extension stands
for. -/
def languageFor (settings : Settings) (path : Path) : Value :=
  if settings.isOn .language then settings.get .language
  else .text (Language.ofPath path .fallback).name

/-- The parser of a language, made on its first use. -/
def cachedParser (catalog : Catalog) (language : Value) : Scan Parser := do
  let s ← get
  let known := match language with
    | .text name => s.parsers.get? name
    | _ => none
  match known with
  | some parser => return parser
  | none =>
    let (events, result) := Parser.create catalog s.settings language
    Scan.report events
    let parser ← Scan.orFault result
    modify fun s => { s with parsers := s.parsers.put language.toText parser }
    return parser

/-- The parser of a file. -/
def parserFor (catalog : Catalog) (path : Path) : Scan Parser := do
  let s ← get
  match s.parser with
  | some parser => return parser
  | none => cachedParser catalog (languageFor s.settings path)

/-- A failed access to a file. -/
def accessFault (path : Path) (fault : AccessFault) : Fault :=
  .failure (.fileAccess path.toText (fault.reason path.toText))

/-- The encoding that the settings name, by default UTF-8. -/
def encodingName (settings : Settings) : Except Fault String :=
  match settings.get .encoding with
  | .null => .ok "utf-8"
  | .text name => if name.contains '\x00' then .error (.badValue "embedded null character")
    else .ok name
  | _ => .error .wrongType

/-- The text of an entry of acceptable size that a path leads to.  The file is opened before the
encoding is looked up, and read behind that. -/
def textOf (settings : Settings) (host : Host) (path : Path) (entry : FileEntry) :
    Except Fault (List Char) := do
  let limit ← settings.maxFileBytes
  if limit < entry.size then
    let size := entry.size
    throw (.failure (.fileAccess path.toText s!"file too large ({size} bytes > {limit})"))
  let name ← encodingName settings
  entry.opened.mapError (accessFault path)
  let decode ← host.decoder name
  let bytes ← entry.bytes.mapError (accessFault path)
  decode bytes.toList

/-- The text of a file of acceptable size. -/
def readText (settings : Settings) (files : FileStore) (path : Path) :
    Except Fault (List Char) := do
  let entry ← (files.stat path.toText).mapError (accessFault path)
  textOf settings files.host path entry

/-- The syntax tree of a file. -/
def parseFile (settings : Settings) (files : FileStore) (catalog : Catalog) (parser : Parser)
    (path : Path) (key : String) : Except Fault SyntaxTree := do
  let text ← readText settings files path
  parser.parseWithin files.host.treeRoom catalog key text

/-- The key under which the ledger knows a file: its resolved path. -/
def keyOf (files : FileStore) (path : Path) : Except Fault String :=
  if path.hasNul then .error (.badValue Path.nulReason)
  else match files.resolve path with
    | some resolved => .ok resolved.toText
    | none => .error (.systemRefusal (files.circleReason path))

/-- The annotation that names the language of a file. -/
def languageKey : String := "language"

/-- The sheet of a tree as it is published. -/
def finishedSheet (visitors : List Visitor) (tree : SyntaxTree) (key : String) :
    Except Fault Sheet := do
  let sheet ← measure visitors tree key
  return { sheet with annotations := sheet.annotations.put languageKey (.text tree.language) }

/-- Publishes a sheet and gives the entity of its file. -/
def publish (path : Path) (sheet : Sheet) : Scan Entity := do
  let s ← get
  match s.ledger.commit sheet.path sheet.measures sheet.annotations with
  | .error fault => throw fault.toFault
  | .ok change =>
    Scan.adopt change
    if !sheet.measures.isShowable then throw (.badValue Numeral.unshowable)
    Scan.report [.measured path.toText sheet.measures]
    return change.1.fileEntity sheet.path ⟨sheet.measures, sheet.annotations⟩

/-- What becomes of a file: a sheet to publish or, unless the scan is strict, a failure to
record. -/
inductive Finding
  | sheet (sheet : Sheet)
  | failure (failure : Failure)

/-- What becomes of a file that is read with a parser.  If `strict` is false, a file that cannot be
read or parsed is a finding; a visitor's fault never is. -/
def examine (settings : Settings) (visitors : List Visitor) (files : FileStore) (catalog : Catalog)
    (strict : Bool) (parser : Parser) (path : Path) (key : String) : Except Fault Finding :=
  match parseFile settings files catalog parser path key with
  | .ok tree => (finishedSheet visitors tree key).map .sheet
  | .error (.failure failure) =>
    if strict || !failure.isAnalysis then .error (.failure failure) else .ok (.failure failure)
  | .error fault => .error fault

/-- Enters a finding into the ledger and gives the entity of its file, if there is one. -/
def deliver (path : Path) (key : String) : Finding → Scan (Option Entity)
  | .sheet sheet => do
    let entity ← publish path sheet
    return some entity
  | .failure failure => do
    Scan.report [.skipped path.toText failure]
    let s ← get
    let reason := (failure.reason?.map Value.toText).getD failure.toText
    Scan.adopt (s.ledger.recordFailure key reason failure)
    return none

/-- Measures a file.  If `strict` is false, a file that cannot be read or parsed is recorded as
failed and there is no entity. -/
def scanFile (files : FileStore) (catalog : Catalog) (path : Path) (strict : Bool) :
    Scan (Option Entity) := do
  let key ← Scan.orFault (keyOf files path)
  let parser ← parserFor catalog path
  let s ← get
  let finding ← Scan.orFault
    (examine s.settings s.visitors files catalog strict parser path key)
  deliver path key finding

/-- The failure of a path that a scan cannot start from. -/
def notRegular (path : Path) : Failure :=
  .precondition path.toText "not found or not a regular file"

/-- A path that a scan can start from is that of a regular file. -/
def requireRegular (files : FileStore) (path : Path) : Except Fault Unit := do
  match ← files.probe path.toText with
  | some entry => if entry.isRegular then return () else throw (.failure (notRegular path))
  | none => throw (.failure (notRegular path))

/-- Measures files one after the other; a fault ends the batch. -/
def scanInTurn (files : FileStore) (catalog : Catalog) (paths : List Path) :
    Scan (List (Option Entity)) :=
  paths.mapM fun path => scanFile files catalog path false

/-- What comes of waiting for tasks that no worker takes up: nothing, because the wait goes on.
Nothing can be said of this fault but that it is one. -/
def unending (tasks : Nat) : Fault := Id.run do
  let mut outcome := Fault.badValue s!"{tasks} tasks are left"
  repeat outcome := outcome
  return outcome

/-- Measures files as workers do: each file is scanned, whatever becomes of the others, and then the
first fault in the order of the files ends the batch.  Where no worker is started it does not
end. -/
def scanByWorkers (files : FileStore) (catalog : Catalog) (paths : List Path) :
    Scan (List (Option Entity)) := do
  let s ← get
  if !s.settings.startsWorkers then throw (unending paths.length)
  let results ← paths.mapM fun path => do
    try
      let entity ← scanFile files catalog path false
      pure (Except.ok entity)
    catch fault => pure (Except.error fault)
  results.mapM Scan.orFault

/-- Measures a batch of files; every path has to be that of a regular file. -/
def scanFiles (files : FileStore) (catalog : Catalog) (paths : List Path) : Scan Unit := do
  if paths.isEmpty then throw (.failure (.precondition "<none>" "no files to scan"))
  Scan.orFault (paths.forM (requireRegular files))
  let s ← get
  let entities ←
    if s.settings.isParallel paths.length then scanByWorkers files catalog paths
    else scanInTurn files catalog paths
  let good := (entities.filter Option.isSome).length
  Scan.report [.complete good (entities.length - good)]

/-- Runs a step of a scan. -/
def run {α : Type} (s : Scanner) (step : Scan α) : Except Fault α × Scanner :=
  StateT.run (ExceptT.run step) s

end Scanner

/-- The ledger of a batch of files, with the scanner that kept it. -/
def scanBatch (files : FileStore) (catalog : Catalog) (paths : List Path) (settings : Settings)
    (visitors : Option (List Visitor)) : Except Fault Scanner := do
  let scanner ← Scanner.create settings visitors none
  let (result, scanner) := scanner.run (Scanner.scanFiles files catalog paths)
  match result with
  | .ok () => return scanner
  | .error fault => throw fault

/-- The entity of a single file. -/
def scanSingle (files : FileStore) (catalog : Catalog) (path : Path) (settings : Settings)
    (visitors : Option (List Visitor)) : Except Fault Entity := do
  Scanner.requireRegular files path
  let scanner ← Scanner.create settings visitors none
  let (result, scanner) := scanner.run (Scanner.scanFile files catalog path true)
  match result with
  | .error fault => throw fault
  | .ok _ =>
    match scanner.ledger.fileEntities with
    | [entity] => return entity
    | entities =>
      let count := entities.length
      throw (.failure (.invariant
        s!"only one file entity was expected whereas {count} were indexed"
        [("path", path.toText)]))

end LineMetrics

import LineMetrics.Command.JsonText
import LineMetrics.Command.Run

/-!
# The program

Reads the environment and the files that a command line names, runs the command line on them, and
prints what it answers: reports to standard output, events and complaints to standard error.
-/

namespace LineMetrics
namespace Terminal

/-- The environment variables that settings may come from. -/
def variableNames : List String := "HOME" :: Field.all.map Environment.nameFor

/-- The environment of the process. -/
def readEnvironment : IO Environment := do
  let found ← variableNames.mapM fun name => do
    return (← IO.getEnv name).map fun value => (name, value)
  return found.filterMap id

/-- A file or directory opened for reading, if there is one at the path. -/
def opened? (path : String) : IO (Option IO.FS.Handle) := do
  try return some (← IO.FS.Handle.mk path .read)
  catch _ => return none

/-- What the disk holds at a path; a directory can be opened but not read. -/
def readEntry (path : String) : IO (Option FileEntry) := do
  match ← opened? path with
  | none => return none
  | some handle =>
    try return some (.file (← handle.readBinToEnd))
    catch _ => return some .directory

/-- The store with what the disk holds along a path. -/
def addPath (store : FileStore) (path : String) : IO FileStore := do
  let segments := Path.segments path
  let beginnings := (List.range segments.length).map fun k =>
    "/".intercalate (segments.take (k + 1))
  (beginnings.filter (· ≠ "")).foldlM (fun store beginning => do
    match ← readEntry beginning with
    | some entry => return store.write beginning entry
    | none => return store) store

/-- The files that a command line may read. -/
def readFiles (env : Environment) (args : List String) : IO FileStore := do
  let directory ← IO.currentDir
  let store := FileStore.emptyAt (Path.ofText directory.toString).names
  let home := match Settings.homeDirectory store.host env with
    | .ok home => [(home.join (.ofText Settings.homeFile)).toText]
    | .error _ => []
  (Settings.projectFile :: home ++ Command.mentionedPaths args).foldlM addPath store

/-- How the command is called. -/
def usage : String :=
  "Usage: codetally scan [OPTIONS] FILES...\n\n" ++
  "Measures source files: lines, lines of code, comment lines.\n\n" ++
  "  -l, --language NAME           parse every file as this language\n" ++
  "  -b, --backend NAME            auto, tree-sitter or lexer\n" ++
  "      --ignore-header-comments  leave out the comment a file starts with\n" ++
  "      --count-header-comments   count the comment a file starts with\n" ++
  "  -w, --workers N               parallel workers, 1 to 32\n" ++
  "  -f, --format NAME             rich or json\n" ++
  "  -c, --config FILE             settings file\n" ++
  "  -v, --verbose                 show all events\n" ++
  "  -q, --quiet                   show errors only\n" ++
  "      --help                    show this text"

/-- Prints what a command line answers. -/
def print (outcome : Command.Outcome) : IO Unit := do
  for e in outcome.events do
    if e.isShown outcome.threshold then IO.eprintln e.toText
  match outcome.output with
  | .silent => if outcome.exit = 0 then IO.println usage else IO.eprintln usage
  | .document report => IO.println (JsonText.document report)
  | .lines rows => for row in rows do IO.println ("  ".intercalate row)
  | .broken fault => IO.eprintln ("codetally: " ++ fault.message?.getD "the scan broke down")

end Terminal
end LineMetrics

/-- Runs a command line; there are no grammars. -/
def main (args : List String) : IO UInt32 := do
  let env ← LineMetrics.Terminal.readEnvironment
  let files ← LineMetrics.Terminal.readFiles env args
  let outcome := LineMetrics.Command.run files env .empty args
  LineMetrics.Terminal.print outcome
  return outcome.exit.toUInt32

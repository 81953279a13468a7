import LineMetrics.Encoding.Utf8
import LineMetrics.Listing
import LineMetrics.Settings.Environment
import LineMetrics.Storage.FileStore
import LineMetrics.Toml.Document

/-!
# Layers of settings

The settings of a run are merged from layers, each of which wins over those before it: the file in
the home directory, the file in the working directory, a file given by name, the environment, and
overrides that are not null (specification, section 8).  A file's settings are those of its
`codetally` table, or its own entries if it has no such table.  After merging, unknown keys are
refused, the least one first.
-/

namespace LineMetrics

namespace Settings

/-- The table of a settings file that holds the settings. -/
def tableName : String := "codetally"

/-- The name of the settings file in the home directory. -/
def homeFile : String := ".codetally.toml"

/-- The name of the settings file in the working directory. -/
def projectFile : String := "codetally.toml"

/-- The settings of a document. -/
def ofDocument (entries : Toml.Entries) : Toml.Entries :=
  match Toml.valueAt? tableName entries with
  | some (.table t) => t
  | _ => entries

/-- A settings file that cannot be used, and why. -/
def unusable (path reason : String) : Fault :=
  .failure (.configuration s!"Invalid config file '{path}': {reason}" [])

/-- The settings of a file; what is wrong with a malformed document is not told. -/
def ofFile (files : FileStore) (path : String) : Except Fault Toml.Entries :=
  match files.read path with
  | .error fault => .error (unusable path (fault.reason path))
  | .ok bytes =>
    match Encoding.strictUtf8? bytes.toList with
    | none => .error .malformedUtf8
    | some text =>
      match Toml.document files.host.readRoom text with
      | .ok entries => .ok (ofDocument entries)
      | .error .malformed => .error (unusable path "<toml>")
      | .error (.tooLong digits) => .error (.badValue (Numeral.tooLongReason digits))
      | .error .tooDeep => .error (.tooDeep Value.tooDeepToRead)

/-- A home directory by its text: without slashes at its end, and the root if nothing is left. -/
def homeOf (text : String) : Except Fault Path :=
  let kept := (text.toList.reverse.dropWhile (· = '/')).reverse
  match kept with
  | [] => .ok (.ofText "/")
  | '~' :: _ => .error .homeless
  | _ => .ok (.ofText (String.ofList kept))

/-- The home directory: that of the variable `HOME` or, where it is not set, that of the account. -/
def homeDirectory (host : Host) (env : Environment) : Except Fault Path :=
  match (env.get? "HOME").or host.accountHome with
  | some text => homeOf text
  | none => .error .homeless

/-- The layer of a file that need not be there. -/
def optionalFile (files : FileStore) (path : Path) : Except Fault Toml.Entries :=
  let path := path.toText
  match files.probe path with
  | .ok (some _) => ofFile files path
  | .ok none => .ok []
  | .error fault => .error fault

/-- The layer of a file that was asked for. -/
def requestedFile (files : FileStore) (path : Option Path) : Except Fault Toml.Entries :=
  match path with
  | none => .ok []
  | some path =>
    let path := path.toText
    match files.probe path with
    | .ok (some _) => ofFile files path
    | .ok none => .error (.failure (.configuration s!"Config file not found: {path}" []))
    | .error fault => .error fault

/-- The layer of the environment. -/
def environmentLayer (env : Environment) : Except Fault (List (String × Value)) :=
  match env.settings with
  | .ok entries => .ok entries
  | .error failure => .error (.failure failure)

/-- The overrides that say something. -/
def givenOverrides (overrides : List (String × Value)) : List (String × Value) :=
  overrides.filter fun e => match e.2 with
    | .null => false
    | _ => true

/-- The layers of a run, the weakest first. -/
def layers (files : FileStore) (env : Environment) (file : Option Path)
    (overrides : List (String × Value)) : Except Fault (List (List (String × Value))) := do
  let home ← homeDirectory files.host env
  let homeLayer ← optionalFile files (home.join (.ofText homeFile))
  let projectLayer ← optionalFile files (files.base.join (.ofText projectFile))
  let fileLayer ← requestedFile files file
  let environment ← environmentLayer env
  return [homeLayer, projectLayer, fileLayer, environment, givenOverrides overrides]

/-- The layers as one: each key with the value of the strongest layer that has it. -/
def merge (layers : List (List (String × Value))) : Listing String Value :=
  layers.foldl (fun merged layer => merged.update (.ofList layer)) .empty

/-- The least key that is no field's. -/
def unknownKey? (merged : Listing String Value) : Option String :=
  (merged.keys.filter fun k => (Field.ofKey? k).isNone).foldl
    (fun least k => match least with
      | none => some k
      | some l => if k < l then some k else some l) none

/-- The settings of merged layers, with room to show a value that is refused. -/
def ofMerged (room : Nat) (merged : Listing String Value) : Except Fault Settings :=
  match unknownKey? merged with
  | some k => do
    let value ← ((merged.get? k).getD .null).shown room
    throw (.failure (.invalidSetting k value "unknown configuration key"))
  | none =>
    match ofEntries merged.entries with
    | .error (.badValue message) =>
      .error (.failure (.configuration s!"Invalid configuration: {message}" []))
    | result => result

/-- The settings of a run. -/
def load (files : FileStore) (env : Environment) (file : Option Path)
    (overrides : List (String × Value)) : Except Fault Settings := do
  let layers ← layers files env file overrides
  ofMerged files.host.showRoom (merge layers)

end Settings
end LineMetrics

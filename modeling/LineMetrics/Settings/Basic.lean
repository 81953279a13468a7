import LineMetrics.Failure

/-!
# Settings

The settings of a scan, one value for each field (specification, section 8).  A value keeps the type
it was given; checking looks at no more than the rules below need, in this order, and a value that a
rule cannot be applied to is a type fault.

| field | rule |
| --- | --- |
| parser backend | `auto`, `tree-sitter` or `lexer` |
| workers | null or at least 1 |
| largest file size in MB | above 0 |
| suppression marker | not empty |
| project name | not empty |
-/

namespace LineMetrics

/-- The fields of the settings. -/
inductive Field
  | language
  | backend
  | ignoreHeader
  | marker
  | encoding
  | workers
  | maxFileSize
  | projectName
  deriving Repr, DecidableEq

/-- The types that fields are declared with. -/
inductive FieldType
  | text
  | bool
  | int
  | real
  deriving Repr, DecidableEq

namespace Field

/-- All fields, in the order of their declaration. -/
def all : List Field :=
  [language, backend, ignoreHeader, marker, encoding, workers, maxFileSize, projectName]

/-- The key of a field in files and overrides. -/
def key : Field → String
  | language => "language"
  | backend => "parser_backend"
  | ignoreHeader => "ignore_header_comments"
  | marker => "no_sonar_marker"
  | encoding => "encoding"
  | workers => "workers"
  | maxFileSize => "max_file_size_mb"
  | projectName => "project_name"

/-- The declared type of a field. -/
def type : Field → FieldType
  | ignoreHeader => .bool
  | workers => .int
  | maxFileSize => .real
  | _ => .text

/-- The value of a field that nothing sets. -/
def default : Field → Value
  | language | workers => .null
  | backend => .text "auto"
  | ignoreHeader => .bool false
  | marker => .text "NOSONAR"
  | encoding => .text "utf-8"
  | maxFileSize => .real (.ofDecimal false 10 0)
  | projectName => .text "Objective-C Project"

/-- The field of a key. -/
def ofKey? (k : String) : Option Field := all.find? fun f => f.key = k

theorem mem_all (f : Field) : f ∈ all := by cases f <;> decide

end Field

/-- A value for each field. -/
structure Settings where
  get : Field → Value

namespace Settings

/-- The names of the parser backends. -/
def backends : List String := ["auto", "tree-sitter", "lexer"]

/-- Whether a value names a parser backend. -/
def isBackend : Value → Bool
  | .text s => backends.contains s
  | _ => false

/-- What the rules say about settings. -/
inductive Verdict
  | valid
  /-- A rule is broken, in words. -/
  | broken (message : String)
  /-- A rule cannot be applied to a value of its type. -/
  | inapplicable
  deriving Repr, DecidableEq

/-- The verdict of a rule that asks whether a comparison holds. -/
def verdict (broken : Option Bool) (message : String) : Verdict :=
  match broken with
  | none => .inapplicable
  | some true => .broken message
  | some false => .valid

/-- The rules in the order in which they are applied. -/
def verdicts (s : Settings) : List Verdict :=
  let named := ", ".intercalate backends
  [verdict (some !isBackend (s.get .backend)) s!"parser_backend must be one of {named}",
   match s.get .workers with
   | .null => .valid
   | workers => verdict (workers.lessThan? 1) "workers must be at least 1",
   verdict ((s.get .maxFileSize).lessThan? 0 |>.map fun below =>
     below || (s.get .maxFileSize).equalsInt 0) "max_file_size_mb must be positive",
   verdict (some !(s.get .marker).isSet) "no_sonar_marker must not be empty",
   verdict (some !(s.get .projectName).isSet) "project_name must not be empty"]

/-- The settings if they pass every rule, and else the first verdict against them. -/
def check (s : Settings) : Except Fault Settings :=
  match s.verdicts.find? fun v => v ≠ .valid with
  | some (.broken message) => .error (.badValue message)
  | some .inapplicable => .error .wrongType
  | _ => .ok s

/-- The settings that give some fields by their keys and leave the others as they are by default. -/
def ofEntries (entries : List (String × Value)) : Except Fault Settings :=
  if entries.all fun e => (Field.ofKey? e.1).isSome then
    check ⟨fun f => ((entries.find? fun e => e.1 = f.key).map Prod.snd).getD f.default⟩
  else .error .wrongType

/-- The settings that nothing sets. -/
def default : Settings := ⟨Field.default⟩

/-- The bytes of a megabyte, twice a factor of 1024. -/
def kilo : Nat := 1024

/-- The largest file size in bytes: the megabytes times 1024 times 1024, without a fraction. -/
def maxFileBytes (s : Settings) : Except Fault Int :=
  match s.get .maxFileSize with
  | .bool b => .ok ((if b then 1 else 0) * kilo * kilo)
  | .int n => .ok (n * kilo * kilo)
  | .real x =>
    let bytes := (x.scaleBy kilo).scaleBy kilo
    match bytes.truncate?, bytes with
    | some n, _ => .ok n
    | none, .nan => .error (.badValue "cannot convert float NaN to integer")
    | none, _ => .error .overflow
  | _ => .error .wrongType

/-- Whether the setting of a field is set to something. -/
def isOn (s : Settings) (f : Field) : Bool := (s.get f).isSet

/-- Whether files are scanned by more than one worker, given how many files there are. -/
def isParallel (s : Settings) (files : Nat) : Bool :=
  s.isOn .workers && !(s.get .workers).equalsInt 1 && files ≠ 1

/-- Whether a pool starts workers: it does until there are as many as asked for, so it starts none
if their number is not a number. -/
def startsWorkers (s : Settings) : Bool :=
  match s.get .workers with
  | .real .nan => false
  | _ => true

end Settings
end LineMetrics

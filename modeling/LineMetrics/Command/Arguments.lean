import LineMetrics.Command.Console
import LineMetrics.Number.Numeral

/-!
# Arguments of the command line

The command line is `scan`, options and files in any order.  A long option takes its value from
behind an equals sign or from the next argument, a short one from the rest of its argument or from
the next one; short options without values can share a dash.  Of an option that is given several
times the last one counts.  Everything behind `--` is a file.

Help wins over every complaint about values, but not over an option that does not exist or lacks its
value.  Values are looked at in the order in which their options were first given, files last; a
path that cannot be looked up at all ends the program there.
-/

namespace LineMetrics
namespace Command

/-- The options of the `scan` command. -/
inductive Opt
  | language
  | backend
  | ignoreHeader
  | countHeader
  | workers
  | format
  | config
  | verbose
  | quiet
  | help
  deriving Repr, DecidableEq

namespace Opt

/-- All options. -/
def all : List Opt :=
  [language, backend, ignoreHeader, countHeader, workers, format, config, verbose, quiet, help]

/-- The long name of an option. -/
def long : Opt → String
  | language => "--language"
  | backend => "--backend"
  | ignoreHeader => "--ignore-header-comments"
  | countHeader => "--count-header-comments"
  | workers => "--workers"
  | format => "--format"
  | config => "--config"
  | verbose => "--verbose"
  | quiet => "--quiet"
  | help => "--help"

/-- The letter of an option that has a short form. -/
def short? : Opt → Option Char
  | language => some 'l'
  | backend => some 'b'
  | workers => some 'w'
  | format => some 'f'
  | config => some 'c'
  | verbose => some 'v'
  | quiet => some 'q'
  | _ => none

/-- Whether the option takes a value. -/
def takesValue : Opt → Bool
  | language | backend | workers | format | config => true
  | _ => false

/-- The option of a long name. -/
def ofLong? (name : String) : Option Opt := all.find? fun o => o.long = name

/-- The option of a letter. -/
def ofShort? (c : Char) : Option Opt := all.find? fun o => o.short? = some c

end Opt

/-- An option as it was given, with its value if it takes one. -/
structure Given where
  opt : Opt
  value : String
  deriving Repr, DecidableEq

/-- What one argument is. -/
inductive Reading
  /-- A file. -/
  | file
  /-- The mark behind which everything is a file. -/
  | stop
  /-- Complete options. -/
  | options (given : List Given)
  /-- Options, the last of which takes the next argument. -/
  | awaiting (given : List Given) (opt : Opt)
  | misuse
  deriving Repr, DecidableEq

/-- The options of letters that share a dash, behind those already read. -/
def readLetters (given : List Given) : List Char → Reading
  | [] => .options given
  | c :: rest =>
    match Opt.ofShort? c with
    | none => .misuse
    | some o =>
      if !o.takesValue then readLetters (given ++ [⟨o, ""⟩]) rest
      else if rest.isEmpty then .awaiting given o
      else .options (given ++ [⟨o, String.ofList rest⟩])

/-- The option of a long name, with the value behind the equals sign if there is one. -/
def readLong (options : List Opt) (arg : List Char) : Reading :=
  let name := String.ofList (arg.takeWhile (· ≠ '='))
  let explicit := (arg.dropWhile (· ≠ '=')).drop 1
  let hasValue := arg.contains '='
  match options.find? fun o => o.long = name with
  | none => .misuse
  | some o =>
    if o.takesValue then
      if hasValue then .options [⟨o, String.ofList explicit⟩] else .awaiting [] o
    else if hasValue then .misuse
    else .options [⟨o, ""⟩]

/-- What an argument is; a dash alone is a file. -/
def read (arg : String) : Reading :=
  match arg.toList with
  | ['-', '-'] => .stop
  | '-' :: '-' :: rest => readLong Opt.all ('-' :: '-' :: rest)
  | '-' :: c :: rest => readLetters [] (c :: rest)
  | _ => .file

/-- Options and files, in the order in which they were given. -/
structure Collected where
  given : List Given
  files : List String
  deriving Repr, DecidableEq

/-- The options and files of arguments, behind those already collected; `none` for an option that
does not exist or lacks its value. -/
def collect (done : Collected) : List String → Option Collected
  | [] => some done
  | arg :: rest =>
    match read arg with
    | .file => collect { done with files := done.files ++ [arg] } rest
    | .stop => some { done with files := done.files ++ rest }
    | .options given => collect { done with given := done.given ++ given } rest
    | .misuse => none
    | .awaiting given o =>
      match rest with
      | [] => none
      | value :: rest => collect { done with given := done.given ++ given ++ [⟨o, value⟩] } rest

/-- The demand that cannot be met. -/
def Demand.misuse : Demand := .refused .misuse

namespace Collected

/-- The value of an option, the last one given. -/
def value? (c : Collected) (o : Opt) : Option String :=
  (c.given.reverse.find? fun g => g.opt = o).map Given.value

/-- Whether an option is given. -/
def has (c : Collected) (o : Opt) : Bool := (c.value? o).isSome

/-- Which of the two header options was given last. -/
def ignoreHeader? (c : Collected) : Option Bool :=
  (c.given.reverse.find? fun g => g.opt = .ignoreHeader ∨ g.opt = .countHeader).map fun g =>
    g.opt = .ignoreHeader

end Collected

/-- Names of parser backends that the command accepts. -/
def backendChoices : List String := ["auto", "tree-sitter", "lexer"]

/-- The form of a report by its name, in any case. -/
def format? (s : String) : Option Format :=
  let folded := String.ofList (Text.foldCase s.toList)
  if folded = "rich" then some .table else if folded = "json" then some .json else none

/-- The number of workers in a text, from 1 to 32. -/
def workers? (s : String) : Option Int :=
  match Numeral.int s.toList with
  | .ok n => if 1 ≤ n ∧ n ≤ 32 then some n else none
  | .error _ => none

/-- A value that has to be there. -/
def required (holds : Bool) : Except Refusal Unit := if holds then .ok () else .error .misuse

/-- Checks a path that has to pass a test. -/
def checkPath (test : String → Bool) (path : String) : Except Refusal Unit :=
  if path.contains Path.nul then .error .nulPath else required (test path)

/-- Checks the value of an option. -/
def checkValue (store : FileStore) (c : Collected) (o : Opt) : Except Refusal Unit :=
  match o, c.value? o with
  | .backend, some s => required (backendChoices.contains s)
  | .workers, some s => required (workers? s).isSome
  | .format, some s => required (format? s).isSome
  | .config, some s => checkPath store.isFile s
  | _, _ => .ok ()

/-- The request of collected arguments, if all values are acceptable and all files are there. -/
def request (store : FileStore) (c : Collected) : Except Refusal Request := do
  (c.given.map Given.opt).eraseDups.forM (checkValue store c)
  required !c.files.isEmpty
  c.files.forM (checkPath store.pathExists)
  return {
    files := c.files
    language := c.value? .language
    backend := c.value? .backend
    workers := (c.value? .workers).bind workers?
    config := c.value? .config
    ignoreHeader := c.ignoreHeader?
    format := ((c.value? .format).bind format?).getD .table
    verbose := c.has .verbose
    quiet := c.has .quiet }

/-- What the arguments behind `scan` ask for. -/
def scanDemand (store : FileStore) (args : List String) : Demand :=
  match collect ⟨[], []⟩ args with
  | none => .misuse
  | some c =>
    if c.has .help then .help
    else match request store c with
      | .ok request => .scan request
      | .error refusal => .refused refusal

/-- What the arguments ask for, `helped` if help was asked for in front of them. -/
def demandFrom (store : FileStore) (helped : Bool) : List String → Demand
  | [] => if helped then .help else .misuse
  | arg :: rest =>
    let command (args : List String) : Demand :=
      if helped then .help
      else match args with
        | "scan" :: rest => scanDemand store rest
        | _ => .misuse
    match arg.toList with
    | ['-', '-'] => command rest
    | '-' :: '-' :: name =>
      match readLong [.help] ('-' :: '-' :: name) with
      | .options _ => demandFrom store true rest
      | _ => .misuse
    | '-' :: _ :: _ => .misuse
    | _ => command (arg :: rest)

/-- The paths that a command line names: the files, and the settings file. -/
def mentionedPaths (args : List String) : List String :=
  match collect ⟨[], []⟩ ((args.dropWhile (· ≠ "scan")).drop 1) with
  | none => []
  | some c => c.files ++ (c.value? .config).toList

/-- What a command line asks for. -/
def demand (store : FileStore) (args : List String) : Demand := demandFrom store false args

end Command
end LineMetrics

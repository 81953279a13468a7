import LineMetrics.Value

/-!
# Failures

A `Failure` is a condition the program reports in its own words: a message and named details
(specification, section 7).  Failures fall into classes, each with a parent, so that a caller can
handle all analysis failures alike.  A `Fault` is whatever ends an operation: a failure, or a value
of the wrong type or out of range that no part of the program accounts for.
-/

namespace LineMetrics

/-- Named details of a failure, in the order they are shown. -/
abbrev Details := List (String × Value)

instance : Coe String Value := ⟨.text⟩

/-- The classes of failures. -/
inductive FailureClass
  | general
  | analysis
  | fileAccess
  | parse
  | unsupportedLanguage
  | precondition
  | invariant
  | configuration
  | invalidSetting
  deriving Repr, DecidableEq

/-- The class that a class refines. -/
def FailureClass.parent : FailureClass → Option FailureClass
  | .general => none
  | .fileAccess | .parse | .unsupportedLanguage => some .analysis
  | .invalidSetting => some .configuration
  | .analysis | .precondition | .invariant | .configuration => some .general

/-- The class and those it refines, the most specific first. -/
def FailureClass.ancestry (c : FailureClass) : List FailureClass :=
  match c.parent with
  | none => [c]
  | some p =>
    match p.parent with
    | none => [c, p]
    | some q => [c, p, q]

/-- A condition that the program reports.  Its parts keep whatever value they were given, except
those that are only ever shown. -/
inductive Failure
  | general (message : Value) (details : Details)
  | analysis (message : Value) (details : Details)
  /-- A file that cannot be read. -/
  | fileAccess (path : String) (reason : Value)
  /-- A file that is not well-formed. -/
  | parse (path : String) (language reason : Value)
  /-- A language without a parser. -/
  | unsupportedLanguage (language : Value) (supported : List String)
  /-- Input that a scan cannot start from. -/
  | precondition (path : String) (reason : Value)
  /-- A broken contract between parser, visitors and ledger. -/
  | invariant (reason : Value) (details : Details)
  | configuration (message : Value) (details : Details)
  /-- A setting with an unusable value. -/
  | invalidSetting (key value reason : Value)
  deriving Repr, BEq

namespace Failure

/-- The class of a failure. -/
def failureClass : Failure → FailureClass
  | general .. => .general
  | analysis .. => .analysis
  | fileAccess .. => .fileAccess
  | parse .. => .parse
  | unsupportedLanguage .. => .unsupportedLanguage
  | precondition .. => .precondition
  | invariant .. => .invariant
  | configuration .. => .configuration
  | invalidSetting .. => .invalidSetting

/-- The message without details. -/
def message : Failure → Value
  | general message _ | analysis message _ | configuration message _ => message
  | fileAccess path _ => s!"Cannot access file: {path}"
  | parse path language _ => s!"Failed to parse {language.toText} file: {path}"
  | unsupportedLanguage language _ => s!"Unsupported language: {language.toText}"
  | precondition path _ => s!"Invalid scan input: {path}"
  | invariant reason _ => s!"Invariant violated: {reason.toText}"
  | invalidSetting key value _ => s!"Invalid configuration for {key.toText}: {value.toText}"

/-- The details, in the order they are shown. -/
def details : Failure → Details
  | general _ details | analysis _ details | configuration _ details
  | invariant _ details => details
  | fileAccess path reason => [("filepath", path), ("reason", reason)]
  | parse path language reason => [("filepath", path), ("language", language), ("reason", reason)]
  | unsupportedLanguage language supported =>
    [("language", language), ("supported", ", ".intercalate supported)]
  | precondition path reason => [("path", path), ("reason", reason)]
  | invalidSetting key value reason => [("key", key), ("value", value.toText), ("reason", reason)]

/-- The cause that a failure names, if its class has one. -/
def reason? : Failure → Option Value
  | fileAccess _ reason | parse _ _ reason | precondition _ reason | invariant reason _
  | invalidSetting _ _ reason => some reason
  | _ => none

/-- The language that a failure names, if its class has one. -/
def language? : Failure → Option Value
  | parse _ language _ | unsupportedLanguage language _ => some language
  | _ => none

/-- The setting that a failure names, if its class has one. -/
def key? : Failure → Option Value
  | invalidSetting key _ _ => some key
  | _ => none

/-- The message, followed by the details in brackets if there are any. -/
def toText (f : Failure) : String :=
  let message := f.message.toText
  match f.details with
  | [] => message
  | details =>
    let shown := ", ".intercalate (details.map fun (k, v) => k ++ "=" ++ v.toText)
    s!"{message} ({shown})"

/-- Whether the failure can be told: a message alone has to be text. -/
def isTellable (f : Failure) : Bool :=
  !f.details.isEmpty || match f.message with
    | .text _ => true
    | _ => false

/-- Whether a scan may record the failure and go on: it concerns one file's analysis. -/
def isAnalysis (f : Failure) : Bool := f.failureClass.ancestry.contains .analysis

end Failure

/-- Whatever ends an operation. -/
inductive Fault
  | failure (f : Failure)
  /-- A value outside the range that an operation accepts. -/
  | badValue (message : String)
  /-- An operation on a value of a type that it is not defined on. -/
  | wrongType
  /-- A part of a value that values of its type do not have. -/
  | missingPart
  /-- A look-up under a name that does not exist. -/
  | unknownName
  /-- A text encoding that does not exist. -/
  | unknownEncoding
  /-- Bytes that an encoding refuses altogether, such as text without its byte order mark. -/
  | undecodable
  /-- Settings that are not UTF-8 text. -/
  | malformedUtf8
  /-- A number too large for the operation. -/
  | overflow
  /-- A value or tree of too many levels for the room that is left to go into it. -/
  | tooDeep (message : String)
  /-- A home directory that cannot be determined. -/
  | homeless
  /-- Markup whose closing tag has no opening one. -/
  | badMarkup (message : String)
  /-- A look-up in the file store that the operating system refuses, or that links lead in a
  circle. -/
  | systemRefusal (message : String)
  /-- A value that has no place in a table. -/
  | unrenderable (value : Value)
  deriving Repr, BEq

/-- The value, if it is not too deep for the room there is and holds no integer too long to be
shown. -/
def Value.shown (room : Nat) (v : Value) : Except Fault Value :=
  if room < v.depth then .error (.tooDeep tooDeepToShow)
  else if v.isShowable then .ok v else .error (.badValue Numeral.unshowable)

/-- What is told about a fault; faults of type, name, encoding and range are told by their kind
alone. -/
def Fault.message? : Fault → Option String
  | .failure f => some f.toText
  | .badValue message | .badMarkup message | .systemRefusal message | .tooDeep message =>
    some message
  | .homeless => some "Could not determine home directory."
  | .unrenderable value =>
    let shown := value.quoted
    some (s!"Unable to render {shown}; A str, Segment or object with " ++
      "__rich_console__ method is required")
  | _ => none

end LineMetrics

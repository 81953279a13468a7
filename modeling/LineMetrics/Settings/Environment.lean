import LineMetrics.Number.Numeral
import LineMetrics.Settings.Basic
import LineMetrics.Text.Quoted

/-!
# Settings from the environment

Each field can be set by an environment variable, whose text is read by the field's declared type
(specification, section 8).
-/

namespace LineMetrics

/-- Environment variables by name. -/
abbrev Environment := List (String × String)

namespace Environment

/-- The value of a variable. -/
def get? (env : Environment) (name : String) : Option String :=
  (env.find? fun e => e.1 = name).map Prod.snd

/-- The name of the variable that sets a field. -/
def nameFor (f : Field) : String := "CODETALLY_" ++ f.key.toUpper

/-- The value that a text denotes for a field, or why it denotes none. -/
def parse (type : FieldType) (s : String) : Except String Value :=
  match type with
  | .text => .ok (.text s)
  | .bool =>
    let word := String.ofList (Text.lower s.toList)
    if ["true", "1", "yes", "on"].contains word then .ok (.bool true)
    else if ["false", "0", "no", "off"].contains word then .ok (.bool false)
    else .error s!"expected true/false, got '{s}'"
  | .int =>
    match Numeral.int s.toList with
    | .ok n => .ok (.int n)
    | .error fault => .error (Numeral.intReason s fault)
  | .real =>
    match Numeral.real? s.toList with
    | some x => .ok (.real x)
    | none =>
      let shown := Text.quoted s
      .error s!"could not convert string to float: {shown}"

/-- The fields that the environment sets, by their keys and in the order of their declaration. -/
def settings (env : Environment) : Except Failure (List (String × Value)) :=
  Field.all.foldlM (fun found f =>
    match env.get? (nameFor f) with
    | none => .ok found
    | some s =>
      match parse f.type s with
      | .ok v => .ok (found ++ [(f.key, v)])
      | .error reason => .error (.invalidSetting (nameFor f) (.text s) reason)) []

end Environment
end LineMetrics

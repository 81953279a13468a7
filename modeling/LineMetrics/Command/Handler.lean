import LineMetrics.Failure
import LineMetrics.Literal.Meaning
import LineMetrics.Text.Blank

/-!
# Handlers in markup

A tag that starts with `@` names a handler for an event; its parameters give the handler's name and,
in brackets, its arguments, or the arguments alone.  Arguments are literals.  They are looked at
when the tag is closed.
-/

namespace LineMetrics
namespace Handler

/-- Whether a character may be part of a handler's name. -/
def isNameChar (c : Char) : Bool := Text.isWord c || c = '.'

/-- The arguments among trimmed parameters: what stands in brackets behind a name, nothing behind a
name alone, and otherwise everything. -/
def arguments (parameters : List Char) : List Char :=
  let name := parameters.takeWhile isNameChar
  let rest := parameters.drop name.length
  if rest.isEmpty then "()".toList
  else if rest.head? = some '(' && rest.getLast? = some ')' && !rest.contains '\n' then rest
  else parameters

/-- Checks the parameters of a handler. -/
def check (parameters : List Char) : Except Fault Unit :=
  let literal := arguments (Text.trim parameters)
  let given := Text.quoted (String.ofList parameters)
  let shown := Text.quoted (String.ofList literal)
  match Literal.fault? literal with
  | none => .ok ()
  | some (.syntactic message) => .error (.badMarkup s!"error parsing {shown} in {given}; {message}")
  | some (.semantic message) => .error (.badMarkup s!"error parsing {given}; {message}")

end Handler
end LineMetrics

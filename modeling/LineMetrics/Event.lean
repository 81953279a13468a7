import LineMetrics.Failure
import LineMetrics.Measure.Sheet

/-!
# Events

What a scan reports while it runs (specification, section 9).  Each event has a level, the channel
it is reported on, and a message.  How much is shown depends on two switches: `quiet` shows errors
only and wins over `verbose`, which shows everything; without them warnings and errors are shown.
-/

namespace LineMetrics

/-- How grave an event is. -/
inductive Level
  | debug
  | info
  | warning
  | error
  deriving Repr, DecidableEq

namespace Level

/-- The level in words. -/
def name : Level → String
  | debug => "DEBUG"
  | info => "INFO"
  | warning => "WARNING"
  | error => "ERROR"

/-- The levels by gravity. -/
def rank : Level → Nat
  | debug => 0
  | info => 1
  | warning => 2
  | error => 3

/-- The least level that is shown. -/
def threshold (verbose quiet : Bool) : Level :=
  if quiet then error else if verbose then debug else warning

end Level

/-- The root of all channels. -/
def rootChannel : String := "codetally"

/-- The full name of a channel: names that do not start with the root's are put below it. -/
def channelName (name : String) : String :=
  if rootChannel.toList.isPrefixOf name.toList then name else s!"{rootChannel}.{name}"

/-- Something that happened in a scan. -/
inductive Event
  /-- A scanner was set up, with its parser and visitors in words. -/
  | ready (parser : String) (visitors : List String)
  | usesGrammar (grammar : String)
  | usesLexer (language : String)
  | grammarBroken (grammar reason : String)
  | measured (path : String) (measures : Measures)
  | skipped (path : String) (failure : Failure)
  /-- Earlier measures of a file give way to new ones. -/
  | replaced (path : String)
  /-- Earlier measures of a file are withdrawn, because it failed. -/
  | dropped (path : String)
  | complete (good bad : Nat)

namespace Event

/-- The level of an event. -/
def level : Event → Level
  | ready .. | usesGrammar _ | measured .. => .debug
  | usesLexer _ | complete .. => .info
  | grammarBroken .. | skipped .. | replaced _ | dropped _ => .warning

/-- The channel of an event. -/
def channel (e : Event) : String :=
  channelName <| match e with
    | ready .. | measured .. | skipped .. | complete .. => "scanner"
    | usesGrammar _ | usesLexer _ => "scanning.factory"
    | grammarBroken .. => "scanning.treesitter_parser"
    | replaced _ | dropped _ => "infrastructure.index"

/-- Measures with their labels. -/
def measuresText (ms : Measures) : String :=
  ", ".intercalate (ms.entries.map fun (m, n) => s!"{m.label}={n}")

/-- The message of an event. -/
def message : Event → String
  | ready parser visitors =>
    let shown := ", ".intercalate visitors
    s!"Initialized AstScanner with {parser} parser and visitors [{shown}]"
  | usesGrammar grammar => s!"Using tree-sitter grammar '{grammar}'"
  | usesLexer language =>
    s!"No tree-sitter grammar for {language}, using the built-in lexer. " ++
      "For grammar-based parsing: pip install codetally[parsing]"
  | grammarBroken grammar reason => s!"Cannot load tree-sitter grammar '{grammar}': {reason}"
  | measured path measures => s!"Measured {path}: {measuresText measures}"
  | skipped path failure => s!"Skipping {path}: {failure.toText}"
  | replaced path => s!"Replacing measures for re-scanned file {path}"
  | dropped path => s!"Dropping earlier measures for {path}: re-scan failed"
  | complete good bad => s!"Scan complete: {good} measured, {bad} failed"

/-- Whether the event is shown, given the least level that is. -/
def isShown (threshold : Level) (e : Event) : Bool := threshold.rank ≤ e.level.rank

/-- The event as one line. -/
def toText (e : Event) : String := s!"{e.level.name} {e.channel}: {e.message}"

end Event
end LineMetrics

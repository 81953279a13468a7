import LineMetrics.Literal.Format
import LineMetrics.Literal.Reading

/-!
# Syntax of literals

An expression is read twice: first as it should be, and if that fails once more with hints.  The
first mistake is told, or that the syntax is wrong.  But a character that no token holds, further on
in the text, goes before a mistake in the grammar, and so does an unclosed bracket on a line above.

An expression inside of a format text is read in the same way, on its own and in brackets.
-/

namespace LineMetrics
namespace Literal

/-- Reads a source by a rule, from the beginning. -/
def Source.read (source : Source) (rule : Rule) (state : State) : Option Tree × State :=
  rule.read source (maxLevel + 1)
    { state with
      place := 0, level := 0,
      kept := Array.replicate (source.tokens.placed.size + 2) [] }

/-- What is told of the rest of a source in which reading failed: a character that no token holds,
or a bracket that is open on a line above the last token that was looked at.  -/
def Source.restMistake? (source : Source) (state : State) : Option Mistake :=
  match source.tokens.stop with
  | none => none
  | some stop =>
    if source.tokens.placed.size < state.seen then none
    else if stop.isStray then some (source.stopped stop)
    else match stop.bracket, source.tokens.placed[state.seen - 1]? with
      | some bracket, some last =>
        if bracket.line < last.line then some (source.told bracket.unclosedReason) else none
      | _, _ => none

/-- The mistake in a source, given the state after reading it without hints and after reading it
with them.  -/
def Source.mistake (source : Source) (plain hinted : State) : Mistake :=
  let placed := source.tokens.placed
  match hinted.mistake with
  | some .tooDeep => .tooDeep
  | some mistake =>
    let sawEnd := match placed[hinted.seen - 1]? with
      | some last => last.atEnd
      | none => true
    if sawEnd then mistake else (source.restMistake? hinted).getD mistake
  | none =>
    match placed[plain.seen - 1]?.map Placed.token with
    | some Token.indent => source.told "unexpected indent"
    | some Token.dedent => source.told "unexpected unindent"
    | _ => (source.restMistake? hinted).getD (source.told "invalid syntax")

/-- The tree of a source, or the mistake in it. -/
def Source.tree (source : Source) : Except Mistake Tree :=
  let rule := if source.isField then Rule.field else Rule.whole
  match source.read rule ⟨0, 0, none, #[], 0, false⟩ with
  | (some tree, _) => .ok tree
  | (none, plain) =>
    if plain.mistake = some .tooDeep then .error .tooDeep
    else
      let (_, hinted) := source.read rule { plain with hints := true }
      .error (source.mistake plain hinted)

/-- What is wrong with an expression inside of a format text, on a line; `fuel` bounds how often
format texts lie in each other. -/
def fieldMistake? : (fuel : Nat) → Format.Check
  | 0 => fun _ _ => none
  | fuel + 1 => fun line s =>
    let tokens := tokens (Format.flaw? (fieldMistake? fuel)) line s
    match (Source.mk tokens true).tree with
    | .error mistake => some mistake
    | .ok _ => none

/-- The tree of an expression, or the mistake in it. -/
def parse (s : List Char) : Except Mistake Tree :=
  (Source.mk (tokens (Format.flaw? (fieldMistake? s.length)) 1 s) false).tree

end Literal
end LineMetrics

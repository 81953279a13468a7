import LineMetrics.Literal.Grammar
import LineMetrics.Literal.Layout

/-!
# Reading by a grammar

Tokens are read by descent from a rule.  Reading fails quietly where a term does not match, and the
next alternative is tried from the same place; it fails for good at the first mistake, which an
action tells, or the tokens where cutting stopped.  How far the tokens were looked at is kept,
because what is told in the end depends on it.

Rules, choices and repetitions lie at most `maxLevel` deep in each other.  The descent is bounded by
that number, so it always comes to an end.
-/

namespace LineMetrics
namespace Literal

/-- What is read. -/
structure Source where
  tokens : Tokens
  /-- Whether it is an expression inside of a format text. -/
  isField : Bool

namespace Source

/-- A message about the source. -/
def say (source : Source) (message : String) : String :=
  if source.isField then "f-string: " ++ message else message

/-- A mistake in the source. -/
def told (source : Source) (message : String) : Mistake := .told (source.say message)

/-- What is wrong with a quoted text of the source. -/
def flawed (source : Source) : Flaw → Mistake
  | .here message => source.told message
  | .inside mistake => mistake

/-- What is told where cutting stopped. -/
def stopped (source : Source) (stop : Stop) : Mistake :=
  if stop.isStray then .told stop.message else source.told stop.message

end Source

/-- What a rule read at a place, and the place behind. -/
structure Kept where
  rule : Rule
  tree : Option Tree
  place : Nat

/-- Where reading is. -/
structure State where
  place : Nat
  /-- How many tokens were looked at; one more than there are if cutting stopped. -/
  seen : Nat
  mistake : Option Mistake
  /-- What was read at each place. -/
  kept : Array (List Kept)
  level : Nat
  /-- Whether hints are followed. -/
  hints : Bool

/-- A step of reading. -/
abbrev Reading := State → Option Tree × State

/-- The deepest that rules, choices and repetitions lie in each other. -/
def maxLevel : Nat := 6000

namespace State

/-- The state at another place. -/
def moved (state : State) (place : Nat) : State := { state with place := place }

/-- The state after a mistake; the first one counts. -/
def fail (state : State) (mistake : Mistake) : State :=
  { state with mistake := state.mistake.or (some mistake) }

/-- What a rule read at the current place, if it is kept. -/
def kept? (state : State) (rule : Rule) : Option Kept :=
  (state.kept[state.place]?.getD []).find? fun k => k.rule = rule

/-- Keeps what a rule read at a place. -/
def keep (state : State) (start : Nat) (k : Kept) : State :=
  { state with kept := state.kept.modify start fun others =>
      k :: others.filter fun other => other.rule ≠ k.rule }

end State

/-- Looks at the next token. -/
def peek (source : Source) (state : State) : Option Placed × State :=
  match source.tokens.placed[state.place]? with
  | some placed =>
    (some placed, { state with seen := max state.seen (state.place + 1) })
  | none =>
    if state.place < state.seen then (none, state)
    else
      let seen := { state with seen := state.place + 1 }
      match source.tokens.stop with
      | some stop => (none, seen.fail (source.stopped stop))
      | none => (none, seen)

/-- Takes a token. -/
def take (source : Source) (accepts : Token → Bool) : Reading := fun state =>
  match peek source state with
  | (some placed, state) =>
    if accepts placed.token then (some (.leaf placed.token), state.moved (state.place + 1))
    else (none, state)
  | (none, state) => (none, state)

/-- Takes a number that can be a value. -/
def takeNumber (source : Source) : Reading := fun state =>
  match take source (fun
      | .number .. => true
      | _ => false) state with
  | (some (.leaf (.number isImaginary fault)), state) =>
    match fault with
    | some message => (none, state.fail (source.told message))
    | none => (some (.leaf (.number isImaginary none)), state)
  | (_, state) => (none, state)

/-- Reads one level deeper. -/
def deeper (reading : Reading) : Reading := fun state =>
  if maxLevel ≤ state.level then (none, state.fail .tooDeep)
  else if state.mistake.isSome then (none, state)
  else
    let level := state.level
    let (tree, state) := reading { state with level := level + 1 }
    (tree, { state with level := level })

/-- Reads again and again, at most `n` times. -/
def repeated (reading : Reading) : (n : Nat) → List Tree → State → List Tree × State
  | 0, trees, state => (trees.reverse, state)
  | n + 1, trees, state =>
    let start := state.place
    match reading state with
    | (some tree, state) => repeated reading n (tree :: trees) state
    | (none, state) => (trees.reverse, state.moved start)

/-- A comma and what follows it. -/
def behindComma (source : Source) (reading : Reading) : Reading := fun state =>
  match take source (· = .mark ",") state with
  | (some _, state) => reading state
  | (none, state) => (none, state)

/-- Reads something without taking it. -/
def looking (shouldFind : Bool) (reading : Reading) : Reading := fun state =>
  let start := state.place
  let (tree, state) := reading state
  (if tree.isSome = shouldFind then some .absent else none, state.moved start)

/-- The brackets that are open behind the last token that was taken. -/
def levelBehind (source : Source) (state : State) : Nat :=
  (source.tokens.placed[state.place - 1]?.map (·.level)).getD 0

/-- Does an action. -/
def act (source : Source) (action : Action) (trees : List Tree) : Reading := fun state =>
  match action (levelBehind source state) trees with
  | .tree tree => (some tree, state)
  | .reject => (none, state)
  | .mistake message => (none, state.fail (source.told message))
  | .flaw flaw => (none, state.fail (source.flawed flaw))

mutual

/-- Reads a term, given how rules are read. -/
def readTerm (source : Source) (call : Rule → Reading) : Term → Reading
  | .token accepts => take source accepts
  | .number => takeNumber source
  | .rule r => call r
  | .choice alternatives => deeper (readChoice source call alternatives)
  | .maybe term => fun state =>
    let (tree, state) := readTerm source call term state
    if state.mistake.isSome then (none, state) else (some (tree.getD .absent), state)
  | .many term => deeper fun state =>
    let (trees, state) :=
      repeated (readTerm source call term) (source.tokens.placed.size + 1) [] state
    (some (.node .group trees), state)
  | .some term => deeper fun state =>
    let (trees, state) :=
      repeated (readTerm source call term) (source.tokens.placed.size + 1) [] state
    if trees.isEmpty || state.mistake.isSome then (none, state)
    else (some (.node .group trees), state)
  | .listed term => deeper fun state =>
    match readTerm source call term state with
    | (none, state) => (none, state)
    | (some first, state) => deeper (fun state =>
      let (trees, state) := repeated (behindComma source (readTerm source call term))
        (source.tokens.placed.size + 1) [] state
      (some (.node .group (first :: trees)), state)) state
  | .ahead term => looking true (readTerm source call term)
  | .notAhead term => looking false (readTerm source call term)
  | .commit => fun state => (some .absent, state)

/-- Reads terms in a row, and says whether it was committed to them. -/
def readRow (source : Source) (call : Rule → Reading) (committed : Bool)
    (trees : List Tree) : List Term → State → Option (List Tree) × Bool × State
  | [], state => (some trees.reverse, committed, state)
  | term :: rest, state =>
    match readTerm source call term state with
    | (none, state) => (none, committed, state)
    | (some tree, state) =>
      let commits := match term with
        | .commit => true
        | _ => false
      readRow source call (committed || commits) (tree :: trees) rest state

/-- Reads the first alternative that matches. -/
def readChoice (source : Source) (call : Rule → Reading) : List Alternative → Reading
  | [], state => (none, state)
  | .mk terms isHint action :: rest, state =>
    if state.mistake.isSome then (none, state)
    else if isHint && !state.hints then readChoice source call rest state
    else
      let start := state.place
      match readRow source call false [] terms state with
      | (some trees, _, state) => act source action trees state
      | (none, committed, state) =>
        if committed then (none, state.moved start)
        else readChoice source call rest (state.moved start)

end

/-- Looks up what a rule read at the current place, or reads it. -/
def looked (source : Source) (rule : Rule) (reading : Reading) : Reading := fun state =>
  match peek source state with
  | (_, state) =>
    if state.mistake.isSome then (none, state)
    else match state.kept? rule with
      | some k => (k.tree, state.moved k.place)
      | none => reading state

/-- Reads a rule once at a place. -/
def readOnce (rule : Rule) (reading : Reading) : Reading := fun state =>
  let start := state.place
  let (tree, state) := reading state
  if tree.isNone && state.mistake.isSome then (none, state)
  else (tree, state.keep start ⟨rule, tree, state.place⟩)

/-- Reads a rule that starts with itself, from the longest reading so far on, at most `n` times. -/
def grow (rule : Rule) (reading : Reading) (start : Nat) :
    (n : Nat) → (longest : Option Tree) → (place : Nat) → Reading
  | 0, longest, place, state => (longest, state.moved place)
  | n + 1, longest, place, state =>
    let (tree, state) := reading ((state.keep start ⟨rule, longest, place⟩).moved start)
    if state.mistake.isSome then (none, state)
    else if tree.isNone || state.place ≤ place then (longest, state.moved place)
    else grow rule reading start n tree state.place state

/-- Reads a rule, with `fuel` levels left. -/
def Rule.read (source : Source) : (fuel : Nat) → Rule → Reading
  | 0, _ => fun state => (none, state.fail .tooDeep)
  | fuel + 1, rule => deeper fun state =>
    let definition := rule.definition
    let reading := readChoice source (Rule.read source fuel) definition.alternatives
    match definition.manner with
    | .anew => reading state
    | .once => looked source rule (readOnce rule reading) state
    | .growing => looked source rule (fun state =>
        grow rule (deeper reading) state.place (source.tokens.placed.size + 2) none state.place
          state) state
    | .plainly =>
      let hints := state.hints
      let (tree, state) := reading { state with hints := false }
      (tree, { state with hints := hints })

end Literal
end LineMetrics

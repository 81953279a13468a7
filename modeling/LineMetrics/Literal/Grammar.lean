import LineMetrics.Literal.Tree

/-!
# The grammar of expressions

The grammar is a value.  A rule has alternatives, which are tried in order; an alternative is a row
of terms, and an action that makes a tree of what the terms read.  An alternative that is a hint
looks for a common mistake: its rule reads what is no expression, and its actions tell what is wrong
with it.  Hints are followed only once reading without them has failed.

Some rules keep what they read at a place; those that start with themselves grow from the shortest
reading to longer ones, so that operators take their operands from the left.  The rules below are in
the order of what binds loosest.

The square brackets of a tag stand around every literal, and none stand in one.  So the grammar has
no lists, and no elements of them.
-/

namespace LineMetrics
namespace Literal

/-- What an action makes of what was read. -/
inductive Outcome
  | tree (tree : Tree)
  /-- Nothing, and no other alternative is tried. -/
  | reject
  | mistake (message : String)
  /-- What is wrong with a quoted text. -/
  | flaw (flaw : Flaw)

/-- An action: makes something of trees, given how many brackets are open behind them. -/
abbrev Action := Nat → List Tree → Outcome

/-- The rules. -/
inductive Rule
  | whole | field
  | expressions | expression | yielding | starExpressions | starExpression
  | starNamedExpressions | starNamedExpression | assignment | namedExpression
  | disjunction | conjunction | inversion | comparison | compared
  | bitOr | bitXor | bitAnd | shift | sum | product | factor | power | awaited | primary | atom
  | group | function | parameters | allParameters | positionalOnly | positionalOnlyDefaults
  | restParameters | tableParameter | plainParameter | defaultParameter | anyParameter | parameter
  | defaultValue
  | texts | tuple | setDisplay | tableDisplay | tableItems | tableItem | pair
  | clauses | clause | setComprehension | generator | tableComprehension
  | arguments | givenArguments | namedArguments | starredArgument | namedOrStarred
  | namedOrUnpacked
  | targets | target | plainTarget | targetAtom | targetTuple | targetPrimary | targetGoesOn
  | wrongArguments | wrongNamedArgument | unhinted | wrongPrint | wrongExpression
  | wrongNamedExpression | wrongComprehension | wrongTableComprehension | wrongParameters
  | earlierDefault | wrongRest | wrongTableParameter | wrongTarget | wrongGroup | wrongItems
  | wrongItem | wrongDefault
  deriving Repr, DecidableEq

mutual

/-- A term of an alternative. -/
inductive Term
  /-- A token of a kind. -/
  | token (accepts : Token → Bool)
  /-- A number that can be a value. -/
  | number
  | rule (rule : Rule)
  /-- One of some alternatives. -/
  | choice (alternatives : List Alternative)
  /-- A term that may be left out. -/
  | maybe (term : Term)
  /-- A term any number of times. -/
  | many (term : Term)
  /-- A term at least once. -/
  | some (term : Term)
  /-- A term at least once, with commas between. -/
  | listed (term : Term)
  /-- A term that follows but is not taken. -/
  | ahead (term : Term)
  /-- A term that does not follow. -/
  | notAhead (term : Term)
  /-- No other alternative is tried from here on. -/
  | commit

/-- An alternative. -/
inductive Alternative
  | mk (terms : List Term) (isHint : Bool) (action : Action)

end

/-- How a rule is read. -/
inductive Manner
  /-- Anew every time. -/
  | anew
  /-- Once at a place. -/
  | once
  /-- From the shortest reading on. -/
  | growing
  /-- Without hints. -/
  | plainly
  deriving Repr, DecidableEq

/-- What a rule reads. -/
structure Definition where
  manner : Manner
  alternatives : List Alternative

/-! ### Actions -/

/-- The tree at a place. -/
def pick (i : Nat) : Action := fun _ trees => .tree (trees.getD i .absent)

/-- A node of all trees. -/
def nodeOf (kind : Kind) : Action := fun _ trees => .tree (.node kind trees)

/-- A node of the tree at a place. -/
def nodeAt (kind : Kind) (i : Nat) : Action := fun _ trees =>
  .tree (.node kind [trees.getD i .absent])

/-- A node of the parts of the tree at a place. -/
def nodeOfParts (kind : Kind) (i : Nat) : Action := fun _ trees =>
  .tree (.node kind (trees.getD i .absent).parts)

/-- A node of the first tree and the parts of the second. -/
def nodeOfList (kind : Kind) : Action := fun _ trees =>
  match trees with
  | first :: rest :: _ => .tree (.node kind (first :: rest.parts))
  | _ => .reject

/-- A node of a key and its value, with a colon between. -/
def pairOf : Action := fun _ trees =>
  .tree (.node .pair [trees.getD 0 .absent, trees.getD 2 .absent])

/-- A call of the first tree with the parts of the one at a place. -/
def callOf (i : Nat) : Action := fun _ trees =>
  .tree (.node .call [trees.getD 0 .absent, .node .group (trees.getD i .absent).parts])

/-- A mistake. -/
def tell (message : String) : Action := fun _ _ => .mistake message

/-- A mistake with the expression at a place in its message. -/
def tellOf (i : Nat) (message : String → String) : Action := fun _ trees =>
  .mistake (message (trees.getD i .absent).words)

/-- Quoted texts in a row, which have to be without flaw and all text or all bytes.  Texts of the
other kind are told before what is wrong inside of a format text. -/
def textsOf (areBytes : Option Bool) : List Tree → Option Flaw
  | .leaf (.text kind flaw) :: rest =>
    let mixed : Option Flaw :=
      if areBytes = some (decide (kind ≠ .bytes)) then
        some (.here "cannot mix bytes and nonbytes literals")
      else none
    (if kind = .format then mixed.or flaw else flaw.or mixed).or
      (textsOf (some (decide (kind = .bytes))) rest)
  | _ => none

/-- Whether a tree is a name that once started a statement of its own. -/
def isOldStatement : Tree → Bool
  | .leaf (.name word) => word = "print" || word = "exec"
  | _ => false

/-- Two expressions in a row, the first one at a place: a comma is missing, if brackets are open. -/
def missingComma (i : Nat) : Action := fun level trees =>
  if isOldStatement (trees.getD i .absent) || level = 0 then .reject
  else .mistake "invalid syntax. Perhaps you forgot a comma?"

/-- A name and an expression: brackets are missing, if the name is known for it. -/
def missingBrackets : Action := fun _ trees =>
  match trees with
  | .leaf (.name word) :: _ =>
    if isOldStatement (.leaf (.name word)) then
      .mistake s!"Missing parentheses in call to '{word}'. Did you mean {word}(...)?"
    else .reject
  | _ => .reject

/-- Something that cannot be assigned to. -/
def cannotAssign (words : String) : String := s!"cannot assign to {words}"

/-- The expression at a place as a target. -/
def targetOf (i : Nat) : Action := fun _ trees =>
  match (trees.getD i .absent).invalidTarget? with
  | some target => .mistake (cannotAssign target.words)
  | none => .reject

/-- Whether an argument has neither a name nor is unpacked from a table. -/
def isPositional (argument : Tree) : Bool :=
  !argument.isKind .namedArgument && !argument.isKind .unpacked

/-- A generator without brackets of its own, which only a single argument can be. -/
def bareGenerator : Action := fun _ trees =>
  if ((trees.getD 0 .absent).parts.filter isPositional).length ≤ 1 then .reject
  else .mistake "Generator expression must be parenthesized"

/-- An argument without a name behind one with a name. -/
def latePositional : Action := fun _ trees =>
  if (trees.getD 0 .absent).parts.any (Tree.isKind .unpacked) then
    .mistake "positional argument follows keyword argument unpacking"
  else .mistake "positional argument follows keyword argument"

/-! ### Terms -/

namespace Grammar

/-- A keyword or a mark. -/
def word (w : String) : Term := .token fun token => token = .keyword w || token = .mark w

/-- A name. -/
def name : Term := .token fun
  | .name _ => true
  | _ => false

/-- Quoted text. -/
def text : Term := .token fun
  | .text .. => true
  | _ => false

/-- Names that start a statement in some places. -/
def softWords : List String := ["_", "case", "match"]

/-- The beginning of a name that starts a statement in some places. -/
def softWord : Term := .token fun
  | .name w => softWords.any fun soft => w.toList.isPrefixOf soft.toList
  | _ => false

instance : Coe String Term := ⟨word⟩

instance : Coe Rule Term := ⟨.rule⟩

/-- An alternative with an action. -/
def row (terms : List Term) (action : Action) : Alternative := .mk terms false action

/-- An alternative of one term, or whose first term is all that counts. -/
def only (terms : List Term) : Alternative := .mk terms false (pick 0)

/-- A hint. -/
def hint (rule : Rule) : Alternative := .mk [rule] true (pick 0)

/-- One of some words. -/
def oneOf (words : List String) : Term := .choice (words.map fun w => only [word w])

/-- A term behind a word. -/
def behind (w : String) (term : Term) : Term := .choice [row [w, term] (pick 1)]

/-- One of some rules. -/
def either (rules : List Rule) : Term := .choice (rules.map fun r => only [.rule r])

/-- An expression that is not followed by an assignment. -/
def unassigned : Term := .choice [only [Rule.assignment], only [Rule.expression, .notAhead ":="]]

/-- An argument without a name. -/
def positional : Term := .choice [only [Rule.starredArgument], only [unassigned, .notAhead "="]]

/-- The tokens that show that an assignment goes on. -/
def assigns : Term := oneOf ["=", ":="]

open Rule

/-- What stands between commas, as a tuple if there is a comma. -/
def tupleWith (element : Rule) : List Alternative :=
  [row [element, .some (behind "," element), .maybe ","] (nodeOfList .tuple),
   row [element, ","] (nodeAt .tuple 0),
   only [element]]

/-- Operators on a rule that starts with itself. -/
def leftToRight (self operand : Rule) (operators : List String) : List Alternative :=
  (operators.map fun w => row [self, word w, operand] (nodeOf .binary)) ++ [only [operand]]

/-- What an expression is compared with, behind an operator. -/
def comparedBy (operators : List String) : Alternative :=
  only [.choice [row (operators.map word ++ [.rule bitOr]) (nodeOf .group)]]

/-- What is told of a name that is assigned where it should be compared. -/
def meantComparison : String := "invalid syntax. Maybe you meant '==' or ':=' instead of '='?"

/-- What is told of a generator among other arguments. -/
def bareGeneratorReason : String := "Generator expression must be parenthesized"

/-- What is told of a target that needs brackets. -/
def openTarget : String := "did you forget parentheses around the comprehension target?"

/-- What is told of a star in front of a value. -/
def starredValue : String := "cannot use a starred expression in a dictionary value"

/-- What is told of a missing value. -/
def missingValue : String := "expression expected after dictionary key and ':'"

/-- The mistakes of a key and its value. -/
def wrongPairs : List Alternative :=
  [row [expression, ":", "*", bitOr] (tell starredValue),
   row [expression, ":", .ahead (oneOf ["\x7d", ","])] (tell missingValue)]

/-- A clause behind its first words. -/
def clauseBody : List Term :=
  ["for", targets, "in", .commit, disjunction, .many (behind "if" disjunction)]

/-- The definitions of expressions, from the loosest to the tightest. -/
def expressionRules : Rule → Definition
  | whole => ⟨.anew, [only [expressions, .many (.token (· = .newline)), .token (· = .ending)]]⟩
  | field => ⟨.anew, [only [starExpressions]]⟩
  | expressions => ⟨.anew, tupleWith expression⟩
  | expression => ⟨.once,
      [hint wrongExpression, hint wrongPrint,
       row [disjunction, "if", disjunction, "else", expression] (nodeOf .conditional),
       only [disjunction], only [function]]⟩
  | yielding => ⟨.anew,
      [row ["yield", "from", expression] (nodeAt .yielding 2),
       row ["yield", .maybe starExpressions] (nodeAt .yielding 1)]⟩
  | starExpressions => ⟨.anew, tupleWith starExpression⟩
  | starExpression => ⟨.once, [row ["*", bitOr] (nodeAt .starred 1), only [expression]]⟩
  | starNamedExpressions => ⟨.anew, [only [.listed starNamedExpression, .maybe ","]]⟩
  | starNamedExpression => ⟨.anew,
      [row ["*", bitOr] (nodeAt .starred 1), only [namedExpression]]⟩
  | assignment => ⟨.anew, [row [name, ":=", .commit, expression] (nodeOf .named)]⟩
  | namedExpression => ⟨.anew,
      [only [assignment], hint wrongNamedExpression, only [expression, .notAhead ":="]]⟩
  | disjunction => ⟨.once,
      [row [conjunction, .some (behind "or" conjunction)] (nodeOfList .boolean),
       only [conjunction]]⟩
  | conjunction => ⟨.once,
      [row [inversion, .some (behind "and" inversion)] (nodeOfList .boolean), only [inversion]]⟩
  | inversion => ⟨.once, [row ["not", inversion] (nodeOf .unary), only [comparison]]⟩
  | comparison => ⟨.anew, [row [bitOr, .some compared] (nodeOf .comparison), only [bitOr]]⟩
  | compared => ⟨.anew,
      [["=="], ["!="], ["<="], ["<"], [">="], [">"], ["not", "in"], ["in"], ["is", "not"],
       ["is"]].map comparedBy⟩
  | bitOr => ⟨.growing, leftToRight bitOr bitXor ["|"]⟩
  | bitXor => ⟨.growing, leftToRight bitXor bitAnd ["^"]⟩
  | bitAnd => ⟨.growing, leftToRight bitAnd shift ["&"]⟩
  | shift => ⟨.growing, leftToRight shift sum ["<<", ">>"]⟩
  | sum => ⟨.growing, leftToRight sum product ["+", "-"]⟩
  | product => ⟨.growing, leftToRight product factor ["*", "/", "//", "%", "@"]⟩
  | factor => ⟨.once,
      (["+", "-", "~"].map fun sign => row [word sign, factor] (nodeOf .unary)) ++ [only [power]]⟩
  | power => ⟨.anew, [row [awaited, "**", factor] (nodeOf .binary), only [awaited]]⟩
  | awaited => ⟨.once, [row ["await", primary] (nodeAt .awaiting 1), only [primary]]⟩
  | primary => ⟨.growing,
      [row [primary, ".", name] (nodeAt .attribute 0),
       row [primary, generator] (fun _ trees =>
         .tree (.node .call [trees.getD 0 .absent, .node .group (trees.drop 1)])),
       row [primary, "(", .maybe arguments, ")"] (callOf 2),
       only [atom]]⟩
  | atom => ⟨.anew,
      [only [name], only ["True"], only ["False"], only ["None"],
       row [.ahead text, texts] (pick 1), only [.number],
       row [.ahead "(", either [tuple, group, generator]] (pick 1),
       row [.ahead "\x7b", either [tableDisplay, setDisplay, tableComprehension, setComprehension]]
        (pick 1),
       only ["..."]]⟩
  | group => ⟨.anew,
      [row ["(", either [yielding, namedExpression], ")"] (pick 1), hint wrongGroup]⟩
  | _ => ⟨.anew, []⟩

/-- The definitions of functions and their parameters. -/
def functionRules : Rule → Definition
  | function => ⟨.anew, [row ["lambda", .maybe parameters, ":", expression] (nodeAt .lambda 3)]⟩
  | parameters => ⟨.anew, [hint wrongParameters, only [allParameters]]⟩
  | allParameters => ⟨.anew,
      [only [positionalOnly, .many plainParameter, .many defaultParameter, .maybe restParameters],
       only [positionalOnlyDefaults, .many defaultParameter, .maybe restParameters],
       only [.some plainParameter, .many defaultParameter, .maybe restParameters],
       only [.some defaultParameter, .maybe restParameters],
       only [restParameters]]⟩
  | positionalOnly => ⟨.anew,
      [only [.some plainParameter, "/", ","], only [.some plainParameter, "/", .ahead ":"]]⟩
  | positionalOnlyDefaults => ⟨.anew,
      [only [.many plainParameter, .some defaultParameter, "/", ","],
       only [.many plainParameter, .some defaultParameter, "/", .ahead ":"]]⟩
  | restParameters => ⟨.anew,
      [hint wrongRest,
       only ["*", plainParameter, .many anyParameter, .maybe tableParameter],
       only ["*", ",", .some anyParameter, .maybe tableParameter],
       only [tableParameter]]⟩
  | tableParameter => ⟨.anew, [hint wrongTableParameter, only ["**", plainParameter]]⟩
  | plainParameter => ⟨.anew, [only [parameter, ","], only [parameter, .ahead ":"]]⟩
  | defaultParameter => ⟨.anew,
      [only [parameter, defaultValue, ","], only [parameter, defaultValue, .ahead ":"]]⟩
  | anyParameter => ⟨.anew,
      [only [parameter, .maybe defaultValue, ","],
       only [parameter, .maybe defaultValue, .ahead ":"]]⟩
  | parameter => ⟨.anew, [only [name]]⟩
  | defaultValue => ⟨.anew, [row ["=", expression] (pick 1), hint wrongDefault]⟩
  | _ => ⟨.anew, []⟩

/-- The definitions of quoted texts, brackets and what stands in them. -/
def displayRules : Rule → Definition
  | texts => ⟨.once,
      [row [.some text] fun _ trees =>
        let pieces := (trees.getD 0 .absent).parts
        match textsOf none pieces with
        | some flaw => .flaw flaw
        | none => .tree (.node .texts pieces)]⟩
  | tuple => ⟨.anew,
      [row ["(", .maybe (.choice [row [starNamedExpression, ",", .maybe starNamedExpressions]
          fun _ trees => .tree (.node .group
            (trees.getD 0 .absent :: (trees.getD 2 .absent).parts))]), ")"]
        (nodeOfParts .tuple 1)]⟩
  | setDisplay => ⟨.anew, [row ["\x7b", starNamedExpressions, "\x7d"] (nodeOfParts .set 1)]⟩
  | tableDisplay => ⟨.anew,
      [row ["\x7b", .maybe tableItems, "\x7d"] (nodeOfParts .table 1),
       only ["\x7b", wrongItems, "\x7d"]]⟩
  | tableItems => ⟨.anew, [only [.listed tableItem, .maybe ","]]⟩
  | tableItem => ⟨.anew, [row ["**", bitOr] (nodeAt .unpacked 1), only [pair]]⟩
  | pair => ⟨.anew, [row [expression, ":", expression] pairOf]⟩
  | clauses => ⟨.anew, [only [.some clause]]⟩
  | clause => ⟨.anew,
      [row (word "async" :: clauseBody) (nodeOf .group), row clauseBody (nodeOf .group),
       hint wrongTarget]⟩
  | setComprehension => ⟨.anew,
      [row ["\x7b", namedExpression, clauses, "\x7d"] (nodeAt .setComprehension 1),
       hint wrongComprehension]⟩
  | generator => ⟨.anew,
      [row ["(", unassigned, clauses, ")"] (nodeAt .generator 1), hint wrongComprehension]⟩
  | tableComprehension => ⟨.anew,
      [row ["\x7b", pair, clauses, "\x7d"] (nodeAt .tableComprehension 1),
       hint wrongTableComprehension]⟩
  | arguments => ⟨.once,
      [only [givenArguments, .maybe ",", .ahead ")"], hint wrongArguments]⟩
  | givenArguments => ⟨.anew,
      [row [.listed positional, .maybe (behind "," namedArguments)] fun _ trees =>
        .tree (.node .group ((trees.getD 0 .absent).parts ++ (trees.getD 1 .absent).parts)),
       only [namedArguments]]⟩
  | namedArguments => ⟨.anew,
      [row [.listed namedOrStarred, ",", .listed namedOrUnpacked] fun _ trees =>
        .tree (.node .group ((trees.getD 0 .absent).parts ++ (trees.getD 2 .absent).parts)),
       only [.listed namedOrStarred], only [.listed namedOrUnpacked]]⟩
  | starredArgument => ⟨.anew, [row ["*", expression] (nodeAt .starred 1)]⟩
  | namedOrStarred => ⟨.anew,
      [hint wrongNamedArgument, row [name, "=", expression] (nodeAt .namedArgument 2),
       only [starredArgument]]⟩
  | namedOrUnpacked => ⟨.anew,
      [hint wrongNamedArgument, row [name, "=", expression] (nodeAt .namedArgument 2),
       row ["**", expression] (nodeAt .unpacked 1)]⟩
  | targets => ⟨.anew,
      [only [target, .notAhead ","], only [target, .many (behind "," target), .maybe ","]]⟩
  | target => ⟨.once,
      [only ["*", .choice [row [.notAhead "*", target] (pick 1)]], only [plainTarget]]⟩
  | plainTarget => ⟨.once,
      [only [targetPrimary, ".", name, .notAhead targetGoesOn], only [targetAtom]]⟩
  | targetAtom => ⟨.anew,
      [only [name], only ["(", plainTarget, ")"], only ["(", .maybe targetTuple, ")"]]⟩
  | targetTuple => ⟨.anew,
      [only [target, .some (behind "," target), .maybe ","], only [target, ","]]⟩
  | targetPrimary => ⟨.growing,
      [only [targetPrimary, ".", name, .ahead targetGoesOn],
       only [targetPrimary, generator, .ahead targetGoesOn],
       only [targetPrimary, "(", .maybe arguments, ")", .ahead targetGoesOn],
       only [atom, .ahead targetGoesOn]]⟩
  | targetGoesOn => ⟨.anew, [only ["("], only ["["], only ["."]]⟩
  | _ => ⟨.anew, []⟩

/-- The definitions of hints. -/
def hintRules : Rule → Definition
  | unhinted => ⟨.plainly,
      [row [disjunction, "if", disjunction, "else", expression] (nodeOf .conditional),
       only [disjunction], only [function]]⟩
  | wrongExpression => ⟨.anew,
      [row [.notAhead (.choice [only [name, text], only [softWord]]), disjunction, unhinted]
        (missingComma 1),
       row [disjunction, "if", disjunction, .notAhead (oneOf ["else", ":"])]
        (tell "expected 'else' after 'if' expression")]⟩
  | wrongPrint => ⟨.anew, [row [name, .notAhead "(", starExpressions] missingBrackets]⟩
  | wrongNamedExpression => ⟨.once,
      [row [expression, ":=", expression]
        (tellOf 0 fun words => s!"cannot use assignment expressions with {words}"),
       row [name, "=", bitOr, .notAhead assigns] (tell meantComparison),
       row [.notAhead (.choice [only [tuple], only [generator], only ["True"], only ["None"],
            only ["False"]]), bitOr, "=", bitOr, .notAhead assigns]
        (tellOf 1 fun words =>
          s!"cannot assign to {words} here. Maybe you meant '==' instead of '='?")]⟩
  | wrongArguments => ⟨.anew,
      [row [givenArguments, ",", "*"]
        (tell "iterable argument unpacking follows keyword argument unpacking"),
       row [expression, clauses, ",",
          .maybe (.choice [only [givenArguments], only [expression, clauses]])]
        (tell bareGeneratorReason),
       row [name, "=", expression, clauses] (tell meantComparison),
       row [givenArguments, clauses] bareGenerator,
       row [givenArguments, ",", expression, clauses] (tell bareGeneratorReason),
       row [givenArguments, ",", givenArguments] latePositional]⟩
  | wrongNamedArgument => ⟨.anew,
      [row [oneOf ["True", "False", "None"], "="] (tellOf 0 cannotAssign),
       row [name, "=", expression, clauses] (tell meantComparison),
       row [.notAhead (.choice [only [name, "="]]), expression, "="]
        (tell "expression cannot contain assignment, perhaps you meant \"==\"?")]⟩
  | wrongComprehension => ⟨.anew,
      [row [oneOf ["[", "(", "\x7b"], starredArgument, clauses]
        (tell "iterable unpacking cannot be used in comprehension"),
       row [oneOf ["[", "\x7b"], starNamedExpression, ",", starNamedExpressions, clauses]
        (tell openTarget),
       row [oneOf ["[", "\x7b"], starNamedExpression, ",", clauses] (tell openTarget)]⟩
  | wrongTableComprehension => ⟨.anew,
      [row ["\x7b", "**", bitOr, clauses, "\x7d"]
        (tell "dict unpacking cannot be used in dict comprehension")]⟩
  | wrongTarget => ⟨.anew, [row [.maybe "async", "for", starExpressions] (targetOf 2)]⟩
  | wrongGroup => ⟨.anew,
      [row ["(", starredArgument, ")"] (tell "cannot use starred expression here"),
       row ["(", "**", expression, ")"] (tell "cannot use double starred expression here")]⟩
  | wrongItems => ⟨.anew, only [.listed tableItem, ",", wrongItem] :: wrongPairs⟩
  | wrongItem => ⟨.anew,
      row [expression, .notAhead ":"] (tell "':' expected after dictionary key") :: wrongPairs⟩
  | _ => ⟨.anew, []⟩

/-- The parameters behind which positional ones end. -/
def slashes : Term := either [positionalOnly, positionalOnlyDefaults]

/-- The definitions of hints for parameters. -/
def parameterHints : Rule → Definition
  | wrongDefault => ⟨.anew,
      [row ["=", .ahead (oneOf [")", ","])] (tell "expected default value expression")]⟩
  | wrongParameters => ⟨.anew,
      [row [.many plainParameter, earlierDefault, plainParameter]
        (tell "non-default argument follows default argument"),
       row [.many plainParameter, "(", .listed parameter, .maybe ",", ")"]
        (tell "Lambda expression parameters cannot be parenthesized"),
       row ["/", ","] (tell "at least one argument must precede /"),
       row [slashes, .many anyParameter, "/"] (tell "/ may appear only once"),
       row [.maybe slashes, .many anyParameter, "*",
          .choice [only [","], only [plainParameter]], .many anyParameter, "/"]
        (tell "/ must be ahead of *"),
       row [.some anyParameter, "/", "*"] (tell "expected comma between / and *")]⟩
  | earlierDefault => ⟨.anew, [only [positionalOnlyDefaults], only [.some defaultParameter]]⟩
  | wrongRest => ⟨.anew,
      [row ["*", .choice [only [":"], only [",", oneOf [":", "**"]]]]
        (tell "named arguments must follow bare *"),
       row ["*", parameter, "="] (tell "var-positional argument cannot have default value"),
       row ["*", .choice [only [plainParameter], only [","]], .many anyParameter, "*",
          .choice [only [plainParameter], only [","]]]
        (tell "* argument may appear only once")]⟩
  | wrongTableParameter => ⟨.anew,
      [row ["**", parameter, "="] (tell "var-keyword argument cannot have default value"),
       row ["**", parameter, ",", parameter]
        (tell "arguments cannot follow var-keyword argument"),
       row ["**", parameter, ",", oneOf ["*", "**", "/"]]
        (tell "arguments cannot follow var-keyword argument")]⟩
  | _ => ⟨.anew, []⟩

end Grammar

open Grammar in
/-- What a rule reads. -/
def Rule.definition (rule : Rule) : Definition :=
  match rule with
  | .whole | .field | .expressions | .expression | .yielding | .starExpressions
  | .starExpression | .starNamedExpressions | .starNamedExpression | .assignment
  | .namedExpression | .disjunction | .conjunction | .inversion | .comparison | .compared
  | .bitOr | .bitXor | .bitAnd | .shift | .sum | .product | .factor | .power | .awaited
  | .primary | .atom | .group => expressionRules rule
  | .function | .parameters | .allParameters | .positionalOnly | .positionalOnlyDefaults
  | .restParameters | .tableParameter | .plainParameter | .defaultParameter | .anyParameter
  | .parameter | .defaultValue => functionRules rule
  | .wrongParameters | .earlierDefault | .wrongRest | .wrongTableParameter | .wrongDefault =>
    parameterHints rule
  | .unhinted | .wrongArguments | .wrongNamedArgument | .wrongPrint | .wrongExpression
  | .wrongNamedExpression | .wrongComprehension | .wrongTableComprehension | .wrongTarget
  | .wrongGroup | .wrongItems | .wrongItem => hintRules rule
  | _ => displayRules rule

end Literal
end LineMetrics

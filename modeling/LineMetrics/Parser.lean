import LineMetrics.Grammar.Catalog
import LineMetrics.Grammar.Normal
import LineMetrics.Settings.Basic
import LineMetrics.Syntax.Flat

/-!
# Parsers

A parser makes the syntax tree of a file's text, by lexemes alone or by a grammar (specification,
section 2).  Which one depends on the backend setting and on the grammars there are: `lexer` and
`tree-sitter` ask for one of them, and `auto` takes the language's grammar if it is installed.
-/

namespace LineMetrics

/-- How text is parsed. -/
inductive Backend
  | lexer
  | grammar
  deriving Repr, DecidableEq

/-- The name of a backend. -/
def Backend.name : Backend → String
  | .lexer => "lexer"
  | .grammar => "tree-sitter"

/-- A parser of a language. -/
structure Parser where
  backend : Backend
  language : Language

namespace Parser

/-- The syntax tree of a text. -/
def parse (p : Parser) (catalog : Catalog) (path : String) (s : List Char) :
    Except Failure SyntaxTree :=
  match p.backend with
  | .lexer =>
    match Syntax.flatTree path p.language.name s with
    | .ok tree => .ok tree
    | .error fault => .error (.parse path p.language.name fault.reason)
  | .grammar =>
    match Syntax.grammarTree path p.language s (catalog.parse p.language.grammar s) with
    | .ok tree => .ok tree
    | .error fault => .error (.parse path p.language.name fault.reason)

/-- Whether there is room for the levels of the tree that the parser has to go into; by lexemes it
goes into none. -/
def fits (p : Parser) (room : Nat) (catalog : Catalog) (s : List Char) : Bool :=
  match p.backend with
  | .lexer => true
  | .grammar => (catalog.parse p.language.grammar s).all fun root =>
    root.levels p.language.commentTypes ≤ room

/-- What is wrong with a tree that there is no room for. -/
def tooDeep : String := "maximum recursion depth exceeded"

/-- The syntax tree of a text, in the room that there is. -/
def parseWithin (p : Parser) (room : Nat) (catalog : Catalog) (path : String) (s : List Char) :
    Except Fault SyntaxTree :=
  match p.parse catalog path s with
  | .error failure => .error (.failure failure)
  | .ok tree => if p.fits room catalog s then .ok tree else .error (.tooDeep tooDeep)

/-- The parser of a language by its grammar, which has to work. -/
def byGrammar (catalog : Catalog) (language : Language) : Except Failure Parser :=
  if catalog.isLoaded language.grammar then .ok ⟨.grammar, language⟩
  else .error (.unsupportedLanguage language.name catalog.installed)

/-- The language that a value names, the fallback for a value that is not set. -/
def languageOf (name : Value) : Except Fault Language :=
  if name.isSet then Language.ofValue name else .ok .fallback

/-- The parser of a language by the backend that the settings ask for, with what is reported on the
way. -/
def choose (catalog : Catalog) (settings : Settings) (language : Language) :
    List Event × Except Failure Parser :=
  match settings.get .backend with
  | .text "lexer" => ([], .ok ⟨.lexer, language⟩)
  | .text "tree-sitter" => (catalog.loadEvents, byGrammar catalog language)
  | _ =>
    if catalog.installed.contains language.grammar then
      (.usesGrammar language.grammar :: catalog.loadEvents, byGrammar catalog language)
    else ([.usesLexer language.name], .ok ⟨.lexer, language⟩)

/-- The parser for a language by name, or for the one that the settings name if it is null. -/
def create (catalog : Catalog) (settings : Settings) (language : Value) :
    List Event × Except Fault Parser :=
  let name := if language.isSet then language else settings.get .language
  match languageOf name with
  | .error fault => ([], .error fault)
  | .ok language =>
    let (events, result) := choose catalog settings language
    (events, match result with
      | .ok parser => .ok parser
      | .error failure => .error (.failure failure))

end Parser
end LineMetrics

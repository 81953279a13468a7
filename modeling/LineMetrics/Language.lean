import LineMetrics.Comment
import LineMetrics.Failure
import LineMetrics.Storage.Path

/-!
# Languages

What the scanner knows about a language: the file extensions it goes by, its grammar, and what its
comments look like (specification, section 2).
-/

namespace LineMetrics

/-- A language that can be measured. -/
structure Language where
  name : String
  /-- File extensions in lower case, with their dot. -/
  extensions : List String
  /-- Name of the grammar that parses the language. -/
  grammar : String
  families : List CommentFamily
  families_ne_nil : families ≠ []
  /-- Grammar types of comment nodes. -/
  commentTypes : List String

namespace Language

/-- Objective-C. -/
def objc : Language where
  name := "objc"
  extensions := [".m", ".mm", ".h"]
  grammar := "objc"
  families := CommentFamily.ofC
  families_ne_nil := CommentFamily.ofC_ne_nil
  commentTypes := ["comment"]

/-- C. -/
def c : Language where
  name := "c"
  extensions := [".c", ".h"]
  grammar := "c"
  families := CommentFamily.ofC
  families_ne_nil := CommentFamily.ofC_ne_nil
  commentTypes := ["comment"]

/-- The languages, in the order in which extensions are tried. -/
def all : List Language := [objc, c]

/-- The language of files that nothing else decides. -/
def fallback : Language := objc

/-- The names of all languages in alphabetical order. -/
def names : List String := ["c", "objc"]

/-- The language of a name. -/
def find? (name : String) : Option Language := all.find? fun l => l.name = name

/-- The language of a name, or the failure that names those there are. -/
def named (name : String) : Except Failure Language :=
  match find? name with
  | some language => .ok language
  | none => .error (.unsupportedLanguage name names)

/-- The language that a value names; a value that cannot be a key names none.  A key has no parts,
so there is always room to show it. -/
def ofValue (name : Value) : Except Fault Language :=
  if !name.isKey then .error .wrongType
  else
    let found := match name with
      | .text s => named s
      | other => .error (.unsupportedLanguage other names)
    match found, name.shown 0 with
    | .ok language, _ => .ok language
    | .error _, .error fault => .error fault
    | .error failure, .ok _ => .error (.failure failure)

/-- The analyzer of the language's comments. -/
def analyzer (l : Language) : CommentAnalyzer := .ofList l.families l.families_ne_nil

/-- The language of a file by its extension, in any case.  An extension of `default` means
`default`, which also stands for unknown extensions. -/
def ofPath (path : Path) (default : Language) : Language :=
  let extension := path.extension
  if default.extensions.contains extension then default
  else (all.find? fun l => l.extensions.contains extension).getD default

/-- The language of a file by its extension, the default given by name. -/
def detect (default : String) (path : Path) : Except Fault Language :=
  match find? default with
  | some language => .ok (ofPath path language)
  | none => .error .unknownName

end Language
end LineMetrics

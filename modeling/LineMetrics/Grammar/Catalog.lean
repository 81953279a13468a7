import LineMetrics.Event
import LineMetrics.Grammar.RawNode
import LineMetrics.Listing

/-!
# The catalogue of grammars

Which grammars are installed, and which of those work (specification, section 2).  An installed
grammar works if it offers an entry point, under its own name or the general one, and loading it
does not fail.
-/

namespace LineMetrics

/-- An installed grammar. -/
structure Grammar where
  /-- The names of the functions it offers. -/
  entryPoints : List String
  /-- What loading it fails with, if it fails. -/
  loadFault : Option String
  /-- The tree of a text, if the grammar's parser has one. -/
  parse : List Char → Option RawNode

/-- The installed grammars by name. -/
abbrev Catalog := Listing String Grammar

namespace Grammar

/-- The entry point that every grammar may offer. -/
def generalEntryPoint : String := "language"

/-- Whether the grammar of a name offers an entry point. -/
def hasEntryPoint (name : String) (g : Grammar) : Bool :=
  let ownEntryPoint := generalEntryPoint ++ "_" ++ name
  g.entryPoints.contains ownEntryPoint || g.entryPoints.contains generalEntryPoint

/-- Whether the grammar of a name works. -/
def works (name : String) (g : Grammar) : Bool := g.hasEntryPoint name && g.loadFault.isNone

end Grammar

namespace Catalog

/-- The names of the installed grammars. -/
def installed (c : Catalog) : List String := c.keys

/-- The grammars that work. -/
def loaded (c : Catalog) : List (String × Grammar) := c.entries.filter fun (name, g) => g.works name

/-- Whether the grammar of a name works. -/
def isLoaded (c : Catalog) (name : String) : Bool := c.loaded.any fun e => e.1 = name

/-- What is reported when the grammars are loaded. -/
def loadEvents (c : Catalog) : List Event :=
  c.entries.filterMap fun (name, g) =>
    if g.hasEntryPoint name then g.loadFault.map (Event.grammarBroken name) else none

/-- The tree of a text by the grammar of a name, if that works and has one. -/
def parse (c : Catalog) (name : String) (s : List Char) : Option RawNode :=
  match c.loaded.find? fun e => e.1 = name with
  | some (_, g) => g.parse s
  | none => none

end Catalog
end LineMetrics

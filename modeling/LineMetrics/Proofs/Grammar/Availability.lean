import LineMetrics.Parser
import LineMetrics.Proofs.Listing

/-!
# Which parser there is

Two questions decide on a parser by the grammar of a language: the backend `auto` asks whether the
grammar is installed, and the parser itself whether it works (specification, section 2).  A grammar
that works is installed (`Catalog.isLoaded_iff`), but not the other way round.  So `auto` gives the
parser by the grammar if that works and the one by lexemes if it is not installed; where a grammar
is installed and does not work, `auto` gives none, although lexemes need no grammar
(`Parser.create_auto`).
-/

namespace LineMetrics

namespace Catalog

variable {c : Catalog} {name : String}

/-- A grammar is installed if the catalog has one under its name. -/
theorem mem_installed_iff : name ∈ c.installed ↔ ∃ g, c.get? name = some g := by
  rw [installed, Listing.keys, List.mem_map]
  constructor
  · rintro ⟨⟨_, g⟩, hmem, rfl⟩
    exact ⟨g, Listing.mem_entries_iff.1 hmem⟩
  · rintro ⟨g, hg⟩
    exact ⟨(name, g), Listing.mem_entries_iff.2 hg, rfl⟩

/-- **A grammar is loaded** if it is installed and works. -/
theorem isLoaded_iff :
    c.isLoaded name = true ↔ ∃ g, c.get? name = some g ∧ g.works name = true := by
  rw [isLoaded, List.any_eq_true]
  constructor
  · rintro ⟨⟨other, g⟩, hmem, hname⟩
    obtain rfl : other = name := of_decide_eq_true hname
    obtain ⟨hentry, hworks⟩ := List.mem_filter.1 hmem
    exact ⟨g, Listing.mem_entries_iff.1 hentry, hworks⟩
  · rintro ⟨g, hg, hworks⟩
    have hentry : (name, g) ∈ c.entries := Listing.mem_entries_iff.2 hg
    exact ⟨(name, g), List.mem_filter.2 ⟨hentry, hworks⟩, decide_eq_true rfl⟩

/-- Asking whether a name is among those installed is looking it up. -/
theorem contains_installed (c : Catalog) (name : String) :
    c.installed.contains name = (c.get? name).isSome := by
  rw [Bool.eq_iff_iff, List.contains_iff_mem, mem_installed_iff, Option.isSome_iff_exists]

/-- A grammar is loaded if it is there and works. -/
theorem isLoaded_eq (c : Catalog) (name : String) :
    c.isLoaded name = ((c.get? name).any fun g => g.works name) := by
  rw [Bool.eq_iff_iff, isLoaded_iff, Option.any_eq_true]

end Catalog

namespace Parser

variable {catalog : Catalog} {settings : Settings} {name : Value} {language : Language}

/-- What the backend `auto` chooses for a language. -/
theorem choose_auto (hauto : settings.get .backend = .text "auto") (language : Language) :
    choose catalog settings language =
      match catalog.get? language.grammar with
      | none => ([.usesLexer language.name], .ok ⟨.lexer, language⟩)
      | some g =>
        (.usesGrammar language.grammar :: catalog.loadEvents,
          if g.works language.grammar then .ok ⟨.grammar, language⟩
          else .error (.unsupportedLanguage language.name catalog.installed)) := by
  rw [choose, hauto, Catalog.contains_installed, byGrammar, Catalog.isLoaded_eq]
  cases catalog.get? language.grammar <;> rfl

/-- **The backend `auto`** and a language that is known: with a grammar that works there is a parser
by the grammar, without the grammar one by lexemes, and there is none exactly if the grammar is
installed and does not work.  The failure then names the language among those there are grammars
for. -/
theorem create_auto (hauto : settings.get .backend = .text "auto")
    (hlanguage : languageOf (if name.isSet then name else settings.get .language) = .ok language) :
    (create catalog settings name =
      match catalog.get? language.grammar with
      | none => ([.usesLexer language.name], .ok ⟨.lexer, language⟩)
      | some g =>
        (.usesGrammar language.grammar :: catalog.loadEvents,
          if g.works language.grammar then .ok ⟨.grammar, language⟩
          else .error (.failure (.unsupportedLanguage language.name catalog.installed)))) ∧
    ((∃ parser, (create catalog settings name).2 = .ok parser) ↔
      ∀ g, catalog.get? language.grammar = some g → g.works language.grammar = true) := by
  have hcreate : create catalog settings name =
      match catalog.get? language.grammar with
      | none => ([.usesLexer language.name], .ok ⟨.lexer, language⟩)
      | some g =>
        (.usesGrammar language.grammar :: catalog.loadEvents,
          if g.works language.grammar then .ok ⟨.grammar, language⟩
          else .error (.failure (.unsupportedLanguage language.name catalog.installed))) := by
    rw [create]
    dsimp only
    rw [hlanguage]
    dsimp only
    rw [choose_auto hauto]
    cases catalog.get? language.grammar with
    | none => rfl
    | some g =>
      dsimp only
      by_cases hworks : g.works language.grammar = true
      · rw [if_pos hworks, if_pos hworks]
      · rw [if_neg hworks, if_neg hworks]
  refine ⟨hcreate, ?_⟩
  rw [hcreate]
  cases catalog.get? language.grammar with
  | none => exact ⟨fun _ _ hg => (nomatch hg), fun _ => ⟨⟨.lexer, language⟩, rfl⟩⟩
  | some g =>
    dsimp only
    by_cases hworks : g.works language.grammar = true
    · rw [if_pos hworks]
      refine ⟨fun _ g' hg => ?_, fun _ => ⟨⟨.grammar, language⟩, rfl⟩⟩
      exact Option.some.inj hg ▸ hworks
    · rw [if_neg hworks]
      refine ⟨fun ⟨parser, hparser⟩ => ?_, fun h => absurd (h g rfl) hworks⟩
      exact nomatch hparser

/-- A catalogue with the grammar of Objective-C, which works or fails when it is loaded. -/
def objcOnly (loadFault : Option String) : Catalog :=
  Listing.empty.put "objc" ⟨["language"], loadFault, fun _ => none⟩

/-- The grammar of Objective-C works. -/
theorem create_auto_objc :
    let catalog := objcOnly none
    let language := Language.objc
    Settings.default.get .backend = .text "auto" ∧
    languageOf (if Value.null.isSet then .null else Settings.default.get .language) =
      .ok language ∧
    (create catalog .default .null =
      match catalog.get? language.grammar with
      | none => ([.usesLexer language.name], .ok ⟨.lexer, language⟩)
      | some g =>
        (.usesGrammar language.grammar :: catalog.loadEvents,
          if g.works language.grammar then .ok ⟨.grammar, language⟩
          else .error (.failure (.unsupportedLanguage language.name catalog.installed)))) ∧
    ((∃ parser, (create catalog .default .null).2 = .ok parser) ↔
      ∀ g, catalog.get? language.grammar = some g → g.works language.grammar = true) :=
  have hlanguage : languageOf (if Value.null.isSet then .null
      else Settings.default.get .language) = .ok .objc := rfl
  ⟨rfl, hlanguage, create_auto rfl hlanguage⟩

/-- **No parser with `auto`:** the grammar of Objective-C fails when it is loaded, and what would
need no grammar is not tried. -/
theorem create_auto_broken :
    Settings.default.get .backend = .text "auto" ∧ Language.objc ∈ Language.all ∧
      (create (objcOnly (some "bad ABI")) .default (.text "objc")).2 =
        .error (.failure (.unsupportedLanguage (.text "objc") ["objc"])) :=
  ⟨rfl, List.mem_cons_self, rfl⟩

end Parser
end LineMetrics

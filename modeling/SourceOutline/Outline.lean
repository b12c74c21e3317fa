import SourceOutline.Diagnostic
import SourceOutline.Entity.Import
import SourceOutline.Grammar
import SourceOutline.Store.Normalize

/-!
The outline of a source text: its tree, its diagnostics, and the functions, classes and imports that are
read off the tree.
-/
namespace SourceOutline

/-- A text that has been parsed. -/
structure Parsed where
  store : Store
  root : NodeId
  language : Language
  diagnostics : List Diagnostic
  source : String

def Parsed.hasErrors (p : Parsed) : Bool := SourceOutline.hasErrors p.diagnostics

/-- A grammar with the settings that texts are parsed under. -/
structure Parser where
  grammar : Grammar
  settings : Settings

namespace Parser

/-- The parser for a tag; there is none for a tag that no grammar exists for. -/
def ofTag? (engine : Engine) (tag : String) (settings : Settings) : Logged (Option Parser) :=
  match Language.ofTag? tag with
  | none => pure none
  | some language =>
    if language.hasGrammar then do
      let grammar ← Grammar.load engine language
      pure (some ⟨grammar, settings⟩)
    else pure none

/-- Parses a text. The engine's tree is searched for diagnostics only if its root is marked. -/
def parse (p : Parser) (source : String) : Logged Parsed := do
  let octets := Text.Utf8.octets source
  let tree ← p.grammar.read octets
  let (root, store) := tree.normalize octets
  let diagnostics := if tree.label.hasError then tree.diagnostics p.settings.reportMissingNodes else []
  Logged.tell (if tree.label.hasError then [.diagnosticsFound diagnostics.length] else [])
  pure { store, root, language := p.grammar.language, diagnostics, source }

end Parser

structure Outline where
  parsed : Parsed
  functions : List Entity.Function
  classes : List Entity.Class
  imports : List Entity.Import

namespace Outline

/-- The outline of a parsed text. -/
def ofParsed (settings : Settings) (p : Parsed) : Outline where
  parsed := p
  functions := p.store.functions settings p.root
  classes := p.store.classes settings p.root
  imports := p.store.imports p.root

/-- Parses a text of the language with a given tag and reads its outline. -/
def read (engine : Engine) (source tag : String) (settings : Settings) : Logged Outline := do
  match ← Parser.ofTag? engine tag settings with
  | none => Logged.fail (.unsupportedTag tag)
  | some parser =>
    let parsed ← parser.parse source
    pure (ofParsed settings parsed)

end Outline

end SourceOutline

import SourceOutline.Outline
import SourceOutline.Proofs.Diagnostic.Marked
import SourceOutline.Proofs.Normalize.Tree

/-! The diagnostics of a parsed text against its tree. The errors are the error nodes of the tree in the
order of a walk, if the engine passes its marks on upwards. A text is marked as broken also where the
engine only put missing nodes in, and these are warnings at most. -/
namespace SourceOutline

namespace Parser

/-- The engine's tree of a text. -/
def tree (p : Parser) (source : String) : RawTree := p.grammar.parse (Text.Utf8.octets source)

/-- What a text is parsed to. -/
def parsed (p : Parser) (source : String) : Parsed where
  store := ((p.tree source).normalize (Text.Utf8.octets source)).2
  root := ((p.tree source).normalize (Text.Utf8.octets source)).1
  language := p.grammar.language
  diagnostics := (p.tree source).diagnostics p.settings.reportMissingNodes
  source := source

/-- Parsing always gives a result, and leaving the search out of an unmarked tree hides nothing. -/
theorem result_parse (p : Parser) (source : String) :
    (p.parse source).result = .ok (p.parsed source) := by
  have hguard : (if (p.tree source).label.hasError then
      (p.tree source).diagnostics p.settings.reportMissingNodes else []) =
        (p.tree source).diagnostics p.settings.reportMissingNodes := by
    split_ifs with h
    · rfl
    · exact (RawTree.diagnostics_of_not_hasError _ (Bool.eq_false_iff.mpr h)).symm
  change Except.ok _ = Except.ok _
  rw [parsed, ← hguard]
  rfl

/-- The errors of the engine's tree and the error nodes of the walk start at the same places. -/
theorem positions_misplaced (p : Parser) (source : String) :
    ((p.tree source).preorder.filter (·.isError)).map (·.misplaced.position) =
      (((p.parsed source).store.walk (p.parsed source).root).filter (p.parsed source).store.isError).map
        fun n => ((p.parsed source).store.span n).start := by
  have hwalk := (p.tree source).forall₂_walk_normalize (Text.Utf8.octets source)
  have hsame : List.Forall₂ ((p.parsed source).store.Carries (Text.Utf8.octets source))
      ((p.tree source).preorder.filter (·.isError))
      (((p.parsed source).store.walk (p.parsed source).root).filter (p.parsed source).store.isError) := by
    apply List.rel_filter _ hwalk
    intro l n hcarries
    simp only [RawNode.isError, Store.isError, parsed, hcarries.kind_eq]
  rw [← List.forall₂_eq_eq_eq, List.forall₂_map_left_iff, List.forall₂_map_right_iff]
  exact hsame.imp fun l n hcarries => by rw [hcarries.span_eq]; rfl

/-- Parsing gives a result. Its errors stand, in order, for the error nodes that a walk over its tree
meets, and it has errors just if the tree has an error node. -/
theorem errors_eq_walk (p : Parser) (source : String) (h : (p.tree source).FlagsClosed) :
    ∃ result, (p.parse source).result = .ok result ∧
      (result.diagnostics.filter (·.severity == .error)).map (·.position) =
        ((result.store.walk result.root).filter result.store.isError).map
          (fun n => (result.store.span n).start) ∧
      (result.hasErrors = true ↔
        ∃ n ∈ result.store.walk result.root, result.store.isError n = true) := by
  refine ⟨p.parsed source,p.result_parse source,?_⟩
  have hpositions : ((p.parsed source).diagnostics.filter (·.severity == .error)).map (·.position) =
      (((p.parsed source).store.walk (p.parsed source).root).filter
        (p.parsed source).store.isError).map (fun n => ((p.parsed source).store.span n).start) := by
    rw [parsed, h.errors_diagnostics, List.map_map]
    exact p.positions_misplaced source
  refine ⟨hpositions,?_⟩
  have hempty := congrArg List.isEmpty hpositions
  rw [List.isEmpty_map, List.isEmpty_map] at hempty
  rw [Parsed.hasErrors, hasErrors_eq_isEmpty, hempty]
  simp

/-- The parser of an engine that gives one and the same tree. -/
def giving (tree : RawTree) (settings : Settings) : Parser := ⟨⟨.python, fun _ => tree⟩, settings⟩

/-- The tree of `f(=` with one error inside another and a bracket that the engine put in. -/
def nestedErrors : RawTree :=
  .node ⟨"module", 0, 3, ⟨⟨0, 0⟩, ⟨0, 3⟩⟩, true, false⟩ [
    .node ⟨"ERROR", 0, 3, ⟨⟨0, 0⟩, ⟨0, 3⟩⟩, true, false⟩ [
      .node ⟨"identifier", 0, 1, ⟨⟨0, 0⟩, ⟨0, 1⟩⟩, false, false⟩ [],
      .node ⟨"(", 1, 2, ⟨⟨0, 1⟩, ⟨0, 2⟩⟩, false, false⟩ [],
      .node ⟨"ERROR", 2, 3, ⟨⟨0, 2⟩, ⟨0, 3⟩⟩, true, false⟩ [
        .node ⟨"=", 2, 3, ⟨⟨0, 2⟩, ⟨0, 3⟩⟩, false, false⟩ []]],
    .node ⟨")", 3, 3, ⟨⟨0, 3⟩, ⟨0, 3⟩⟩, true, true⟩ []]

theorem errors_eq_walk_nestedErrors :
    nestedErrors.FlagsClosed ∧
    ∃ result, ((giving nestedErrors {}).parse "f(=").result = .ok result ∧
      (result.diagnostics.filter (·.severity == .error)).map (·.position) =
        ((result.store.walk result.root).filter result.store.isError).map
          (fun n => (result.store.span n).start) ∧
      (result.hasErrors = true ↔
        ∃ n ∈ result.store.walk result.root, result.store.isError n = true) := by
  have hclosed : nestedErrors.FlagsClosed := by decide
  exact ⟨hclosed,errors_eq_walk (giving nestedErrors {}) "f(=" hclosed⟩

/-- Parsing a marked text gives errors just if the engine's tree has an error node. If it has none, the
engine put nodes in, and there are diagnostics just if these are asked for. -/
theorem hasErrors_of_marked (p : Parser) (source : String) (hexact : (p.tree source).FlagsExact)
    (hroot : (p.tree source).label.hasError = true) :
    ∃ result, (p.parse source).result = .ok result ∧
      (result.hasErrors = true ↔ ∃ u ∈ (p.tree source).subtrees, u.label.isError = true) ∧
      (result.hasErrors = false → (∃ u ∈ (p.tree source).subtrees, u.label.isMissing = true) ∧
        (result.diagnostics ≠ [] ↔ p.settings.reportMissingNodes = true)) := by
  have hiff := hexact.closed.hasErrors_diagnostics p.settings.reportMissingNodes
  refine ⟨p.parsed source,p.result_parse source,hiff,?_⟩
  intro hnone
  have hno : ∀ u ∈ (p.tree source).subtrees, u.label.isError = false := by
    intro u hu
    by_contra herror
    have herrors := hiff.mpr ⟨u,hu,eq_true_of_ne_false herror⟩
    exact Bool.eq_false_iff.mp hnone herrors
  exact ⟨hexact.exists_missing hroot hno,hexact.diagnostics_ne_nil_iff hroot hno _⟩

/-- The tree of `def f(:`, in which the engine put a closing bracket. -/
def unclosedParameters : RawTree :=
  .node ⟨"module", 0, 8, ⟨⟨0, 0⟩, ⟨1, 0⟩⟩, true, false⟩ [
    .node ⟨"function_definition", 0, 7, ⟨⟨0, 0⟩, ⟨0, 7⟩⟩, true, false⟩ [
      .node ⟨"def", 0, 3, ⟨⟨0, 0⟩, ⟨0, 3⟩⟩, false, false⟩ [],
      .node ⟨"identifier", 4, 5, ⟨⟨0, 4⟩, ⟨0, 5⟩⟩, false, false⟩ [],
      .node ⟨"parameters", 5, 6, ⟨⟨0, 5⟩, ⟨0, 6⟩⟩, true, false⟩ [
        .node ⟨"(", 5, 6, ⟨⟨0, 5⟩, ⟨0, 6⟩⟩, false, false⟩ [],
        .node ⟨")", 6, 6, ⟨⟨0, 6⟩, ⟨0, 6⟩⟩, true, true⟩ []],
      .node ⟨":", 6, 7, ⟨⟨0, 6⟩, ⟨0, 7⟩⟩, false, false⟩ [],
      .node ⟨"block", 7, 7, ⟨⟨0, 7⟩, ⟨0, 7⟩⟩, false, false⟩ []]]

/-- A text may be marked as broken and still be parsed without an error. -/
theorem not_hasErrors_unclosedParameters :
    unclosedParameters.FlagsExact ∧ unclosedParameters.label.hasError = true ∧
    ∃ result, ((giving unclosedParameters {}).parse "def f(:\n").result = .ok result ∧
      result.hasErrors = false := by
  refine ⟨by decide,rfl,_,result_parse _ _,?_⟩
  rw [Parsed.hasErrors, parsed, RawTree.diagnostics_eq]
  decide

theorem hasErrors_of_marked_unclosedParameters :
    unclosedParameters.FlagsExact ∧ unclosedParameters.label.hasError = true ∧
    ∃ result, ((giving unclosedParameters { reportMissingNodes := true }).parse
        "def f(:\n").result = .ok result ∧
      (result.hasErrors = true ↔ ∃ u ∈ unclosedParameters.subtrees, u.label.isError = true) ∧
      (result.hasErrors = false →
        (∃ u ∈ unclosedParameters.subtrees, u.label.isMissing = true) ∧
        (result.diagnostics ≠ [] ↔
          (giving unclosedParameters { reportMissingNodes := true }).settings.reportMissingNodes =
            true)) := by
  have hexact : unclosedParameters.FlagsExact := by decide
  exact ⟨hexact,rfl,hasErrors_of_marked (giving unclosedParameters { reportMissingNodes := true })
    "def f(:\n" hexact rfl⟩

end Parser

end SourceOutline

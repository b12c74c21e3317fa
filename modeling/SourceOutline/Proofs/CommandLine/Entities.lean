import SourceOutline.CommandLine.Run
import SourceOutline.Proofs.Json.Reading

/-! The report on the entities of a file. A program that reads the report gets the functions, classes and
imports of the outline back, with every field and in their order. -/
namespace SourceOutline

namespace Json

def text? : Json → Option String
  | str text => some text
  | _ => none

/-- A text or null, which stands for none; anything else is neither. -/
def optionalText? : Json → Option (Option String)
  | null => some none
  | str text => some (some text)
  | _ => none

def count? : Json → Option ℕ
  | int (.ofNat n) => some n
  | _ => none

def flag? : Json → Option Bool
  | bool b => some b
  | _ => none

/-- The items of an array, all of which have to be read. -/
def items? {α : Type} (read : Json → Option α) : Json → Option (List α)
  | arr vs => vs.mapM read
  | _ => none

/-- What is read under a key; nothing if there is no such key. -/
def field? {α : Type} (read : Json → Option α) (key : String) (v : Json) : Option α :=
  (v.get? key).bind read

@[simp] lemma text?_str (text : String) : text? (str text) = some text := rfl

@[simp] lemma optionalText?_ofText? (text : Option String) :
    optionalText? (ofText? text) = some text := by
  cases text <;> rfl

@[simp] lemma count?_int (n : ℕ) : count? (int n) = some n := rfl

@[simp] lemma flag?_bool (b : Bool) : flag? (bool b) = some b := rfl

lemma items?_map {α : Type} {read : Json → Option α} {write : α → Json}
    (h : ∀ x, read (write x) = some x) (xs : List α) : items? read (arr (xs.map write)) = some xs := by
  rw [items?]
  induction xs with
  | nil => rfl
  | cons x xs ih => simp [h, ih]

@[simp] lemma items?_texts (texts : List String) : items? text? (arr (texts.map str)) = some texts :=
  items?_map text?_str texts

end Json

namespace Entity

def Parameter.ofJson? (v : Json) : Option Parameter := do
  let name ← v.field? Json.text? "name"
  let typeText ← v.field? Json.optionalText? "type"
  let value ← v.field? Json.optionalText? "default_value"
  pure { name, typeText, value }

def Function.ofJson? (v : Json) : Option Function := do
  let name ← v.field? Json.text? "name"
  let parameters ← v.field? (Json.items? Parameter.ofJson?) "parameters"
  let body ← v.field? Json.text? "body"
  let startLine ← v.field? Json.count? "start_line"
  let endLine ← v.field? Json.count? "end_line"
  let isAsync ← v.field? Json.flag? "is_async"
  let decorators ← v.field? (Json.items? Json.text?) "decorators"
  pure { name, parameters, body, startLine, endLine, isAsync, decorators }

def Class.ofJson? (v : Json) : Option Class := do
  let name ← v.field? Json.text? "name"
  let superclasses ← v.field? (Json.items? Json.text?) "superclasses"
  let methods ← v.field? (Json.items? Function.ofJson?) "methods"
  let startLine ← v.field? Json.count? "start_line"
  let endLine ← v.field? Json.count? "end_line"
  let decorators ← v.field? (Json.items? Json.text?) "decorators"
  pure { name, superclasses, methods, startLine, endLine, decorators }

def ImportedName.ofJson? (v : Json) : Option ImportedName := do
  let name ← v.field? Json.text? "name"
  let knownAs ← v.field? Json.optionalText? "alias"
  pure { name, knownAs }

def ImportForm.ofJson? : Json → Option ImportForm
  | .str "direct" => some direct
  | .str "from" => some ofModule
  | _ => none

def Import.ofJson? (v : Json) : Option Import := do
  let form ← v.field? ImportForm.ofJson? "kind"
  let source ← v.field? Json.text? "module"
  let names ← v.field? (Json.items? ImportedName.ofJson?) "names"
  let knownAs ← v.field? Json.optionalText? "alias"
  let startLine ← v.field? Json.count? "start_line"
  pure { form, source, names, knownAs, startLine }

lemma Parameter.ofJson?_toJson (p : Parameter) : ofJson? p.toJson = some p := by
  simp [ofJson?, toJson, Json.field?, Json.get?]

lemma Function.ofJson?_toJson (f : Function) : ofJson? f.toJson = some f := by
  have hparameters := Json.items?_map Parameter.ofJson?_toJson f.parameters
  simp [ofJson?, toJson, Json.field?, Json.get?, hparameters]

lemma Class.ofJson?_toJson (c : Class) : ofJson? c.toJson = some c := by
  have hmethods := Json.items?_map Function.ofJson?_toJson c.methods
  simp [ofJson?, toJson, Json.field?, Json.get?, hmethods]

lemma ImportedName.ofJson?_toJson (n : ImportedName) : ofJson? n.toJson = some n := by
  simp [ofJson?, toJson, Json.field?, Json.get?]

@[simp] lemma ImportForm.ofJson?_name (form : ImportForm) : ofJson? (.str form.name) = some form := by
  cases form <;> rfl

lemma Import.ofJson?_toJson (i : Import) : ofJson? i.toJson = some i := by
  have hnames := Json.items?_map ImportedName.ofJson?_toJson i.names
  simp [ofJson?, toJson, Json.field?, Json.get?, hnames]

end Entity

namespace CommandLine

/-- What a program gets from the report on entities: functions, classes and imports. -/
def readEntities? (output : String) :
    Option (List Entity.Function × List Entity.Class × List Entity.Import) := do
  let v ← Json.read? output.toList
  let functions ← v.field? (Json.items? Entity.Function.ofJson?) "functions"
  let classes ← v.field? (Json.items? Entity.Class.ofJson?) "classes"
  let imports ← v.field? (Json.items? Entity.Import.ofJson?) "imports"
  pure (functions, classes, imports)

/-- The report is a text in ASCII that denotes the outline as JSON and nothing else, and the entities of the
outline are what is read from it. -/
theorem entities_output_read (console : Markup.Console) (log : List Log.Entry) (path : Path) (o : Outline) :
    let output := (Command.entities.result console log path o).output
    Json.IsAscii output.toList ∧ (∀ v, Json.IsText output.toList v ↔ v = o.toJson) ∧
      readEntities? output = some (o.functions, o.classes, o.imports) := by
  intro output
  have htext : Json.IsText output.toList o.toJson := Json.isText_render o.toJson
  refine ⟨Json.isAscii_render o.toJson,?_,?_⟩
  · intro v
    constructor
    · intro hv
      exact hv.unique htext
    · rintro rfl
      exact htext
  · have hfunctions := Json.items?_map Entity.Function.ofJson?_toJson o.functions
    have hclasses := Json.items?_map Entity.Class.ofJson?_toJson o.classes
    have himports := Json.items?_map Entity.Import.ofJson?_toJson o.imports
    simp [readEntities?, Json.read?_of_isText htext, Outline.toJson, Json.field?, Json.get?, hfunctions,
      hclasses, himports]

end CommandLine

end SourceOutline

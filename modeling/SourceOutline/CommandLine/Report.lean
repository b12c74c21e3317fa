import SourceOutline.Json.Writer
import SourceOutline.Markup.Render
import SourceOutline.Outline

/-!
What a command prints about an outline: a line of markup for the file and one for each diagnostic, or
the outline as JSON.
-/
namespace SourceOutline

namespace Entity

def Parameter.toJson (p : Parameter) : Json := .obj [
  ("name", .str p.name), ("type", Json.ofText? p.typeText), ("default_value", Json.ofText? p.value)]

def Function.toJson (f : Function) : Json := .obj [
  ("name", .str f.name), ("parameters", .arr (f.parameters.map Parameter.toJson)),
  ("body", .str f.body), ("start_line", .int f.startLine), ("end_line", .int f.endLine),
  ("is_async", .bool f.isAsync), ("decorators", .arr (f.decorators.map Json.str))]

def Class.toJson (c : Class) : Json := .obj [
  ("name", .str c.name), ("superclasses", .arr (c.superclasses.map Json.str)),
  ("methods", .arr (c.methods.map Function.toJson)), ("start_line", .int c.startLine),
  ("end_line", .int c.endLine), ("decorators", .arr (c.decorators.map Json.str))]

def ImportedName.toJson (n : ImportedName) : Json := .obj [
  ("name", .str n.name), ("alias", Json.ofText? n.knownAs)]

def ImportForm.name : ImportForm → String
  | direct => "direct"
  | ofModule => "from"

def Import.toJson (i : Import) : Json := .obj [
  ("kind", .str i.form.name), ("module", .str i.source),
  ("names", .arr (i.names.map ImportedName.toJson)), ("alias", Json.ofText? i.knownAs),
  ("start_line", .int i.startLine)]

end Entity

namespace Outline

def toJson (o : Outline) : Json := .obj [
  ("functions", .arr (o.functions.map Entity.Function.toJson)),
  ("classes", .arr (o.classes.map Entity.Class.toJson)),
  ("imports", .arr (o.imports.map Entity.Import.toJson))]

/-- The markup of the line about a file. -/
def headline (path : String) (o : Outline) : String :=
  path ++ ": " ++ Nat.repr (o.parsed.store.countFrom o.parsed.root) ++ " nodes, " ++
    Nat.repr o.parsed.diagnostics.length ++ " diagnostics"

end Outline

def Severity.color : Severity → String
  | error => "red"
  | warning => "yellow"

/-- The markup of the line about a diagnostic. -/
def Diagnostic.line (d : Diagnostic) : String :=
  "  [" ++ d.severity.color ++ "]" ++ d.severity.name ++ "[/" ++ d.severity.color ++ "] " ++ d.message

namespace Markup

/-- What is printed for some lines before one whose markup is wrong, and whether there is no such line. -/
def Console.printLines (console : Console) : List String → List Char × Bool
  | [] => ([], true)
  | line :: lines =>
    match console.print? line.toList with
    | none => ([], false)
    | some text =>
      let (rest, done) := console.printLines lines
      (text ++ rest, done)

end Markup

namespace Outline

/-- The report on the diagnostics of a file, as far as its markup is right. -/
def diagnosticsReport (console : Markup.Console) (path : String) (o : Outline) : String × Bool :=
  let (text, done) := console.printLines (o.headline path :: o.parsed.diagnostics.map Diagnostic.line)
  (String.ofList text, done)

/-- The report on the entities of a file. -/
def entitiesReport (o : Outline) : String := o.toJson.render ++ "\n"

end Outline

end SourceOutline

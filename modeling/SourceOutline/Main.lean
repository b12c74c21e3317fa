import SourceOutline.CommandLine.Run
import SourceOutline.Json.Reader
import SourceOutline.Markup.Literal
import SourceOutline.RawTree.Records

/-!
The program. The grammar engine runs before it and hands its tree over on standard input, as JSON.
-/
namespace SourceOutline.CommandLine

def usageText : String :=
  "Usage: source-outline [--help] [-v | --version] (parse | entities) FILE [-l | --language TAG]\n"

/-- What a path leads to on this machine. -/
def lookUp (path : Path) : IO Entry := do
  try
    return .file (← IO.FS.readBinFile path.toText).data
  catch
    | .inappropriateType .. => return .directory
    | _ => return .absent

/-- The engine that gives the tree which a text holds. -/
def engineOf (text : String) : Engine :=
  match Json.read? text.toList >>= RawTree.ofJson? with
  | some tree => .ready fun _ => tree
  | none => .broken "no syntax tree on standard input"

/-- The console that the program prints on. Where nothing else is said it has eighty columns. -/
def currentConsole : IO Markup.Console := do
  let columns := ((← IO.getEnv "COLUMNS").bind String.toNat?).getD 80
  return ⟨columns, Markup.isLiteral⟩

/-- The directory that the program runs in, as far as a request needs it. -/
def surroundings (request : Request) : IO Directory := do
  let location := Path.ofText ((← IO.getEnv "PWD").getD ".")
  match request with
  | .run _ file _ =>
    let path := Path.ofText file
    let source ← lookUp path
    let settings ← lookUp settingsPath
    let entry (p : Path) : Entry :=
      if p = path then source else if p = settingsPath then settings else .absent
    return ⟨location, entry⟩
  | _ => return ⟨location, fun _ => .absent⟩

/-- Prints what an outcome leaves behind. -/
def Outcome.print : Outcome → IO UInt32
  | .usage exitCode => do
    (if exitCode = 0 then IO.print else IO.eprint) usageText
    return UInt32.ofNat exitCode
  | .done result => do
    IO.print result.output
    IO.eprint result.errors
    return UInt32.ofNat result.exitCode

end SourceOutline.CommandLine

open SourceOutline.CommandLine in
/-- Runs the arguments. The tree is read only for a request that has a file to report on. -/
def main (arguments : List String) : IO UInt32 := do
  let request := Request.ofArguments arguments
  let d ← surroundings request
  let text ←
    match request with
    | .run .. => (← IO.getStdin).readToEnd
    | _ => pure ""
  (run (engineOf text) (← currentConsole) d arguments).print

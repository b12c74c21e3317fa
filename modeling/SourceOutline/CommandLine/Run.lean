import SourceOutline.CommandLine.Arguments
import SourceOutline.CommandLine.Path
import SourceOutline.CommandLine.Report

/-!
What a command line leads to. Both commands get ready in the same way and fail in the same ways before
they report: the file has to exist, to be text and to be in a language that there is a parser for.
-/
namespace SourceOutline.CommandLine

/-- Why a command ends before its report. -/
inductive Stop where
  | noFile (path : String)
  | notText (place : Text.Utf8.Malformed)
  | failure (cause : Failure)
  /-- A fault of the settings that is not warned of. -/
  | settings (fault : Settings.Fault)
deriving DecidableEq, Repr

/-- What ended a command that did not end by itself. -/
inductive Crash where
  | settings (fault : Settings.Fault)
  | markup
deriving DecidableEq, Repr

/-- What a command leaves behind. -/
structure Result where
  exitCode : Nat
  output : String
  errors : String
  crash : Option Crash := none
deriving DecidableEq, Repr, Inhabited

/-- What a command line leads to. The text of help and of usage is of no account. -/
inductive Outcome where
  | usage (exitCode : Nat)
  | done (result : Result)
deriving DecidableEq, Repr, Inhabited

/-- The name of the settings file. -/
def settingsName : List Char := ['.', 'a', 'r', 'b', 'o', 'r']

/-- The path of the settings file. -/
def settingsPath : Path := ⟨[], [settingsName]⟩

/-- The text of the program's version. -/
def versionText : String := "arbor version 0.1.0\n"

/-- What is said of a stop before a report, and the code that the command ends with. -/
def Stop.report : Stop → Option (Nat × String)
  | noFile path => some (1, "File not found: " ++ path)
  | notText place => some (2, place.message)
  | failure (.unsupportedTag tag) => some (1, (Failure.unsupportedTag tag).message)
  | failure (.noGrammar language) => some (1, (Failure.noGrammar language).message)
  | failure (.engine language reason) => some (2, (Failure.engine language reason).message)
  | settings _ => none

/-- Reads a file: it has to be there and to be text. -/
def readSource (entry : Entry) (path : String) : Except Stop String :=
  match entry with
  | .file content =>
    match Text.ofFile content with
    | .ok chars => .ok (String.ofList chars)
    | .error place => .error (.notText place)
  | _ => .error (.noFile path)

/-- What comes of the settings file of a directory. -/
def Directory.settings (d : Directory) : Except Settings.Fault Settings.Loaded :=
  Settings.load (d.location.append settingsPath).toText (d.entry settingsPath)

/-- Reads a file, then the settings, then the outline of the file. -/
def prepare (engine : Engine) (d : Directory) (path : Path) (language : String) :
    List Log.Entry × Except Stop Outline :=
  match readSource (d.entry path) path.toText with
  | .error stop => ([], .error stop)
  | .ok source =>
    match d.settings with
    | .error fault => ([], .error (.settings fault))
    | .ok loaded =>
      let read := Outline.read engine source language loaded.settings
      (loaded.warnings.map .settings ++ read.log, read.result.mapError .failure)

/-- Lines, each with its end. -/
def lines (texts : List String) : String := String.join (texts.map (· ++ "\n"))

/-- What a stop before a report leaves behind. -/
def Stop.result (log : List Log.Entry) (stop : Stop) : Result :=
  match stop.report with
  | some (exitCode, message) =>
    { exitCode, output := "", errors := lines (Log.shown log ++ ["Error: " ++ message]) }
  | none =>
    let crash : Option Crash :=
      match stop with
      | settings fault => some (.settings fault)
      | _ => none
    { exitCode := 1, output := "", errors := lines (Log.shown log), crash }

/-- What the report of a command leaves behind. -/
def Command.result (command : Command) (console : Markup.Console) (log : List Log.Entry) (path : Path)
    (o : Outline) : Result :=
  let errors := lines (Log.shown log)
  match command with
  | parse =>
    let (output, complete) := o.diagnosticsReport console path.toText
    if complete then { exitCode := if o.parsed.hasErrors then 1 else 0, output, errors }
    else { exitCode := 1, output, errors, crash := some .markup }
  | entities => { exitCode := 0, output := o.entitiesReport, errors }

/-- Runs a command on a file. -/
def Command.run (command : Command) (engine : Engine) (console : Markup.Console) (d : Directory)
    (file language : String) : Result :=
  let path := Path.ofText file
  match prepare engine d path language with
  | (log, .error stop) => stop.result log
  | (log, .ok o) => command.result console log path o

/-- Runs a command line. -/
def run (engine : Engine) (console : Markup.Console) (d : Directory) (arguments : List String) : Outcome :=
  match Request.ofArguments arguments with
  | .help => .usage 0
  | .misuse => .usage 2
  | .version => .done { exitCode := 0, output := versionText, errors := "" }
  | .nothing => .done { exitCode := 0, output := "", errors := "" }
  | .run command file language => .done (command.run engine console d file language)

end SourceOutline.CommandLine

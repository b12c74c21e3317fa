/-!
The arguments of the command line. Options of the whole program come first, then the name of a command,
then the options and the one file of that command in any order; two hyphens end the options.
-/
namespace SourceOutline.CommandLine

/-- An option: its names, and whether it has a value. -/
structure Switch (α : Type) where
  meaning : α
  long : List Char
  short : Option Char := none
  takesValue : Bool := false
deriving Repr

/-- The options and the other arguments that some arguments give, both in order. -/
structure Given (α : Type) where
  options : List (α × List Char) := []
  others : List (List Char) := []
deriving Repr

/-- An argument that stands for one or more options, or for a part of one. -/
inductive Found (α : Type) where
  /-- These options, with nothing else to be read for them. -/
  | options (found : List (α × List Char))
  /-- These options, and the value of the last one is the next argument. -/
  | needsValue (found : List (α × List Char)) (meaning : α)
  | unknown
deriving Repr

/-- Options of one letter that stand in one argument; one that takes a value takes the rest of it. -/
def letters {α : Type} (switches : List (Switch α)) : List Char → List (α × List Char) → Found α
  | [], found => .options found.reverse
  | c :: rest, found =>
    match switches.find? (·.short == some c) with
    | none => .unknown
    | some s =>
      if s.takesValue then
        if rest.isEmpty then .needsValue found.reverse s.meaning
        else .options ((s.meaning, rest) :: found).reverse
      else letters switches rest ((s.meaning, []) :: found)

/-- The option that an argument with a hyphen in front stands for. -/
def option {α : Type} (switches : List (Switch α)) (argument : List Char) : Found α :=
  let name := argument.takeWhile (· != '=')
  let value := argument.drop name.length
  match switches.find? (·.long == name) with
  | some s =>
    match s.takesValue, value with
    | true, _ :: value => .options [(s.meaning, value)]
    | true, [] => .needsValue [] s.meaning
    | false, [] => .options [(s.meaning, [])]
    | false, _ => .unknown
  | none =>
    match argument with
    | '-' :: '-' :: _ => .unknown
    | _ :: rest => letters switches rest []
    | [] => .unknown

/-- Reads arguments. Unless options may stand anywhere, the first other argument ends them. -/
def readArguments {α : Type} (switches : List (Switch α)) (anywhere : Bool) :
    List (List Char) → Option (Given α)
  | [] => some {}
  | argument :: rest =>
    if argument = ['-', '-'] then some { others := rest }
    else if argument.head? = some '-' ∧ 1 < argument.length then
      match option switches argument with
      | .unknown => none
      | .options found =>
        (readArguments switches anywhere rest).map fun given =>
          { given with options := found ++ given.options }
      | .needsValue found meaning =>
        match rest with
        | [] => none
        | value :: rest =>
          (readArguments switches anywhere rest).map fun given =>
            { given with options := found ++ (meaning, value) :: given.options }
    else if anywhere then
      (readArguments switches anywhere rest).map fun given =>
        { given with others := argument :: given.others }
    else some { others := argument :: rest }

/-- The commands. -/
inductive Command where
  /-- Reports the diagnostics of a file. -/
  | parse
  /-- Prints the outline of a file. -/
  | entities
deriving DecidableEq, Repr, Inhabited

def Command.name : Command → String
  | parse => "parse"
  | entities => "entities"

def Command.ofName? (name : List Char) : Option Command :=
  [parse, entities].find? (·.name.toList == name)

/-- What is asked for. -/
inductive Request where
  | version
  | help
  /-- The arguments are wrong. -/
  | misuse
  | nothing
  | run (command : Command) (file language : String)
deriving DecidableEq, Repr, Inhabited

/-- The options of the whole program. -/
inductive ProgramOption where
  | help
  | version
deriving DecidableEq, Repr

def programSwitches : List (Switch ProgramOption) := [
  { meaning := .help, long := "--help".toList },
  { meaning := .version, long := "--version".toList, short := some 'v' }]

/-- The options of a command. -/
inductive CommandOption where
  | help
  | language
deriving DecidableEq, Repr

def commandSwitches : List (Switch CommandOption) := [
  { meaning := .help, long := "--help".toList },
  { meaning := .language, long := "--language".toList, short := some 'l', takesValue := true }]

namespace Request

/-- What the first option of the program asks for, before any command is looked at. -/
def ofOption : ProgramOption → Request
  | .help => help
  | .version => version

/-- Reads the arguments of a command. Of several languages the last one counts. -/
def ofCommand (command : Command) (arguments : List (List Char)) : Request :=
  match readArguments commandSwitches true arguments with
  | none => misuse
  | some given =>
    if given.options.any (·.1 == .help) then help
    else
      match given.others with
      | [file] =>
        let language := given.options.getLast?.elim "python" fun option => String.ofList option.2
        run command (String.ofList file) language
      | _ => misuse

/-- Reads the name of a command and its arguments. A name with a hyphen in front may be an option. -/
def ofName (name : List Char) (arguments : List (List Char)) : Request :=
  match Command.ofName? name with
  | some command => ofCommand command arguments
  | none =>
    if name.head? = some '-' then
      match readArguments programSwitches false (name :: arguments) with
      | some ⟨(meaning, _) :: _, _⟩ => ofOption meaning
      | _ => misuse
    else misuse

/-- Reads all arguments. -/
def ofArguments (arguments : List String) : Request :=
  if arguments.isEmpty then misuse
  else
    match readArguments programSwitches false (arguments.map String.toList) with
    | none => misuse
    | some ⟨(meaning, _) :: _, _⟩ => ofOption meaning
    | some ⟨[], []⟩ => nothing
    | some ⟨[], name :: rest⟩ => ofName name rest

end Request

end SourceOutline.CommandLine

import SourceOutline.Settings.Basic
import SourceOutline.Value.Written
import SourceOutline.Yaml.Meaning

/-!
Settings read from a YAML file. A depth that cannot be used sets everything back to the usual settings;
a flag that is no truth value sets back only itself. A file that is absent or holds no section for the
parser is no fault.
-/
namespace SourceOutline.Settings

/-- Why a settings file is not used. -/
inductive Fault where
  | directory (path : String)
  | yaml (fault : Yaml.Fault)
  /-- The depth is a value of another kind than a number or a text. -/
  | depthKind (name : String)
  | depthText (fault : Decimal.IntegerFault) (written : List Char)
  | depthNaN
  | depthInfinite
  | depthNotPositive (depth : Int)
  /-- A number in a message has too many digits to be written. -/
  | tooLongToWrite
deriving DecidableEq, Repr

namespace Fault

/-- Whether a fault is one that is warned of; of the others the caller is told. -/
def isForeseen : Fault → Bool
  | yaml fault => fault.isForeseen
  | depthInfinite => false
  | _ => true

/-- What is said of the fault of the file at a path. -/
def message (path : String) : Fault → String
  | directory path => "[Errno 21] Is a directory: " ++ String.ofList (Text.quote (Text.symbols path))
  | yaml fault => fault.message path
  | depthKind name =>
    "int() argument must be a string, a bytes-like object or a real number, not '" ++ name ++ "'"
  | depthText fault written => Yaml.integerMessage fault 10 written
  | depthNaN => "cannot convert float NaN to integer"
  | depthInfinite => "cannot convert float infinity to integer"
  | depthNotPositive depth =>
    "max_decorator_depth must be positive, got " ++
      String.ofList ((Decimal.writeInteger? depth).getD [])
  | tooLongToWrite =>
    "Exceeds the limit (4300 digits) for integer string conversion; " ++
      "use sys.set_int_max_str_digits() to increase the limit"

end Fault

/-- What a reader of settings warns of. -/
inductive Warning where
  /-- The file at this path is not used. -/
  | ignored (path : String) (fault : Fault)
  /-- The value of this flag, as it is written, is no truth value. -/
  | notBoolean (key : String) (written : List Char)
deriving DecidableEq, Repr

def Warning.message : Warning → String
  | ignored path fault => "Ignoring invalid config at " ++ path ++ ": " ++ fault.message path
  | notBoolean key written =>
    "Ignoring non-boolean value for " ++ key ++ ": " ++ String.ofList written

/-- Settings and what was warned of while they were read. -/
structure Loaded where
  settings : Settings := {}
  warnings : List Warning := []
deriving DecidableEq, Repr, Inhabited

instance : DecidableEq (Except Fault Loaded)
  | .ok a, .ok b => decidable_of_iff (a = b) ⟨congrArg Except.ok, Except.ok.inj⟩
  | .error f, .error g => decidable_of_iff (f = g) ⟨congrArg Except.error, Except.error.inj⟩
  | .ok _, .error _ | .error _, .ok _ => isFalse fun h => by cases h

/-- The whole number that a value counts as, fractions being cut off. -/
def wholeNumber (v : Value) : Except Fault Int :=
  let ofText (written : List Char) (chars : Option (List Char)) : Except Fault Int :=
    match chars with
    | none => .error (.depthText .malformed written)
    | some chars => (Decimal.readInteger 10 chars).mapError fun fault => .depthText fault written
  match v with
  | .atom (.bool b) => .ok b.toInt
  | .atom (.int i) => .ok i
  | .atom (.float x) =>
    match Decimal.Binary64.ofFloat x with
    | .nan => .error .depthNaN
    | .infinite _ => .error .depthInfinite
    | .finite negative mantissa exponent =>
      let n : Int := Decimal.Binary64.wholePart mantissa exponent
      .ok (if negative then -n else n)
  | .atom (.text symbols) => ofText (Text.quote symbols) (Text.chars? symbols)
  | .atom (.octets octets) =>
    ofText (Text.quoteOctets octets) <|
      octets.mapM fun b => if b < 0x80 then some (Char.ofNat b.toNat) else none
  | v => .error (.depthKind v.kindName)

/-- The depth that a section gives: a positive whole number. -/
def depthOf (v : Option Value) : Except Fault Int :=
  match v with
  | none => .ok ({} : Settings).maxDecoratorDepth
  | some v => do
    let depth ← wholeNumber v
    if 1 ≤ depth then pure depth
    else if (Decimal.writeInteger? depth).isSome then .error (.depthNotPositive depth)
    else .error .tooLongToWrite

/-- The flag that a section gives under a key: the usual one if there is none, and also, with a warning, if
what is there is no truth value. -/
def flagOf (key : String) (usual : Bool) (v : Option Value) : Except Fault (Bool × List Warning) :=
  match v with
  | none => .ok (usual, [])
  | some (.atom (.bool b)) => .ok (b, [])
  | some v =>
    match v.write? with
    | some written => .ok (usual, [.notBoolean key written])
    | none => .error .tooLongToWrite

/-- The settings that the values of a section give. A fault comes with the warnings before it. -/
def ofSection (depth typed missing : Option Value) : Loaded ⊕ List Warning × Fault :=
  let usual : Settings := {}
  match depthOf depth with
  | .error fault => .inr ([], fault)
  | .ok maxDecoratorDepth =>
    match flagOf "typed_default_parameters" usual.typedDefaultParameters typed with
    | .error fault => .inr ([], fault)
    | .ok (typedDefaultParameters, typedWarnings) =>
      match flagOf "report_missing_nodes" usual.reportMissingNodes missing with
      | .error fault => .inr (typedWarnings, fault)
      | .ok (reportMissingNodes, missingWarnings) =>
        .inl {
          settings := { maxDecoratorDepth, typedDefaultParameters, reportMissingNodes }
          warnings := typedWarnings ++ missingWarnings }

/-- The settings that a document gives: the usual ones unless it holds a section for the parser. -/
def ofDocument (document : Value) : Loaded ⊕ List Warning × Fault :=
  match document.entries? with
  | none => .inl {}
  | some entries =>
    match ((lookup entries "parser").getD (.map [])).entries? with
    | none => .inl {}
    | some options =>
      ofSection (lookup options "max_decorator_depth") (lookup options "typed_default_parameters")
        (lookup options "report_missing_nodes")

/-- The value that a settings file holds. -/
def readDocument (content : Octets) : Except Fault Value :=
  (Yaml.load (Yaml.Source.ofFile content)).mapError .yaml

/-- Settings after a fault: the usual ones with a warning, if the fault is one that is warned of. -/
def recover (path : String) (warnings : List Warning) (fault : Fault) : Except Fault Loaded :=
  if fault.isForeseen then .ok { warnings := warnings ++ [.ignored path fault] } else .error fault

/-- The settings that the file at a path gives. -/
def load (path : String) (entry : Entry) : Except Fault Loaded :=
  match entry with
  | .absent => .ok {}
  | .directory => recover path [] (.directory path)
  | .file content =>
    match readDocument content with
    | .error fault => recover path [] fault
    | .ok document =>
      match ofDocument document with
      | .inl loaded => .ok loaded
      | .inr (warnings, fault) => recover path warnings fault

end SourceOutline.Settings

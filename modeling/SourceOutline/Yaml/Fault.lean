import SourceOutline.Calendar
import SourceOutline.Decimal.Integer
import SourceOutline.Text.File
import SourceOutline.Text.Quoted

/-!
Why a YAML text denotes no value, and what is said of it. Whatever breaks a rule of YAML itself is told with
its place in the text; the other faults come from the file, or from a scalar that claims to be a number, a
truth value or a time and is none.
-/
namespace SourceOutline.Yaml

/-- A place in a text. -/
structure Mark where
  line : Nat := 0
  column : Nat := 0
deriving DecidableEq, Repr, Inhabited

/-- A place in the file at a path; lines and columns are counted from one. -/
def Mark.message (path : String) (m : Mark) : String :=
  "  in \"" ++ path ++ "\", line " ++ Nat.repr (m.line + 1) ++ ", column " ++ Nat.repr (m.column + 1)

/-- What breaks a rule of YAML, and where. -/
structure Breach where
  problem : String
  place : Mark
  /-- In the course of what it was met. -/
  context : Option String := none
  /-- Where that had begun. -/
  start : Option Mark := none
deriving DecidableEq, Repr, Inhabited

/-- The lines that tell of a broken rule. A place is not told twice. -/
def Breach.message (path : String) (b : Breach) : String :=
  let start := (b.start.filter (· != b.place)).map (Mark.message path)
  "\n".intercalate (b.context.toList ++ start.toList ++ [b.problem, b.place.message path])

inductive Fault where
  /-- A rule of YAML is broken. -/
  | breach (b : Breach)
  /-- A character that may not stand in a YAML text, and how many characters are before it. -/
  | forbidden (c : Char) (index : Nat)
  /-- The file is not text. -/
  | notText (place : Text.Utf8.Malformed)
  /-- An escape stands for no code point. -/
  | noCodePoint
  /-- An escape stands for a number that is too great even to be looked up. -/
  | hugeCodePoint
  | integer (fault : Decimal.IntegerFault) (base : Nat) (written : List Char)
  | float (text : List Text.Symbol)
  /-- A word that is neither true nor false, in lower case. -/
  | truthValue (word : List Text.Symbol)
  | calendar (fault : CalendarFault)
  /-- A time that is written as a map. -/
  | timeOfMap
  /-- A number without any digit or sign to start with. -/
  | emptyNumber
  /-- A time that has not the form of one. -/
  | noTime
  /-- A number in base sixty with a place value beyond all floating-point numbers. -/
  | hugePlaceValue
  /-- A mapping stands for its own value. -/
  | endless
deriving DecidableEq, Repr

namespace Fault

/-- A broken rule that is told without what it was met in. -/
def plain (place : Mark) (problem : String) : Fault := .breach { problem, place }

/-- A broken rule that is met in the course of something. -/
def within (context : String) (start place : Mark) (problem : String) : Fault :=
  .breach { problem, place, context := some context, start := some start }

instance : Inhabited Fault := ⟨plain {} ""⟩

/-- Whether a fault is one that readers of settings provide for. -/
def isForeseen : Fault → Bool
  | hugeCodePoint | emptyNumber | noTime | hugePlaceValue | endless => false
  | _ => true

end Fault

/-- What is said of a text that is no whole number. A long text is shown in part. -/
def integerMessage (fault : Decimal.IntegerFault) (base : Nat) (written : List Char) : String :=
  match fault with
  | .malformed =>
    "invalid literal for int() with base " ++ Nat.repr base ++ ": " ++ String.ofList (written.take 200)
  | .tooLong digits =>
    "Exceeds the limit (4300 digits) for integer string conversion: value has " ++ Nat.repr digits ++
      " digits; use sys.set_int_max_str_digits() to increase the limit"

/-- The hexadecimal number of a character, with at least four digits. -/
def writeCode (c : Char) : String :=
  String.ofList (if c.toNat < 0x10000 then Text.hexDigits 4 c.toNat else Nat.toDigits 16 c.toNat)

def Fault.message (path : String) : Fault → String
  | breach b => b.message path
  | forbidden c index =>
    "unacceptable character #x" ++ writeCode c ++ ": special characters are not allowed\n  in \"" ++ path ++
      "\", position " ++ Nat.repr index
  | notText place => place.message
  | noCodePoint => "chr() arg not in range(0x110000)"
  | hugeCodePoint => "Python int too large to convert to C int"
  | integer fault base written => integerMessage fault base written
  | float text => "could not convert string to float: " ++ String.ofList (Text.quote text)
  | truthValue word => String.ofList (Text.quote word)
  | calendar fault => fault.message
  | timeOfMap => "expected string or bytes-like object, got 'list'"
  | emptyNumber => "string index out of range"
  | noTime => "'NoneType' object has no attribute 'groupdict'"
  | hugePlaceValue => "int too large to convert to float"
  | endless => "maximum recursion depth exceeded"

/-- A text as it is shown in messages. -/
def quoted (text : List Char) : String := String.ofList (Text.quote (text.map .char))

end SourceOutline.Yaml

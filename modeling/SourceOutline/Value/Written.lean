import SourceOutline.Decimal.Integer
import SourceOutline.Decimal.Layout
import SourceOutline.Value.Basic

/-!
Values as they are written in a message. Only a whole number that is too long keeps a value from being
written.
-/
namespace SourceOutline

/-- Texts with a separator between each two. -/
def separate (separator : List Char) : List (List Char) → List Char
  | [] => []
  | [text] => text
  | text :: texts => text ++ separator ++ separate separator texts

/-- Numbers in parentheses behind a name. -/
def writeCall (name : String) (arguments : List (List Char)) : List Char :=
  name.toList ++ '(' :: separate [',', ' '] arguments ++ [')']

def writeNat (n : Nat) : List Char := Nat.toDigits 10 n

/-- A zone by its distance from the common time. -/
def writeZone (minutes : Int) : List Char :=
  if minutes = 0 then "datetime.timezone.utc".toList
  else writeCall "datetime.timezone" [writeDistance minutes]

def Day.parts (d : Day) : List (List Char) := [d.year, d.month, d.day].map writeNat

def Day.write (d : Day) : List Char := writeCall "datetime.date" d.parts

/-- Seconds are left out when they and all finer parts are nought. -/
def Moment.write (m : Moment) : List Char :=
  let fine :=
    if m.microsecond ≠ 0 then [m.second, m.microsecond]
    else if m.second ≠ 0 then [m.second]
    else []
  let zone := m.zone.elim [] fun minutes => ["tzinfo=".toList ++ writeZone minutes]
  writeCall "datetime.datetime" (m.day.parts ++ ([m.hour, m.minute] ++ fine).map writeNat ++ zone)

/-- The text of an atom, unless it is a number that is too long. -/
def Atom.write? : Atom → Option (List Char)
  | null => some "None".toList
  | bool true => some "True".toList
  | bool false => some "False".toList
  | int i => Decimal.writeInteger? i
  | float x => some (Decimal.valueLayout.writeBinary (.ofFloat x))
  | text symbols => some (Text.quote symbols)
  | octets bytes => some (Text.quoteOctets bytes)
  | day d => some d.write
  | moment m => some m.write

namespace Value

mutual

/-- The text of a value, unless it holds a number that is too long. -/
def write? : Value → Option (List Char)
  | .atom a => a.write?
  | .list items => do
    let texts ← writeAll? items
    pure ('[' :: separate [',', ' '] texts ++ [']'])
  | .map entries => do
    let texts ← writeEntries? entries
    pure ('{' :: separate [',', ' '] texts ++ ['}'])
  | .set [] => some (writeCall "set" [])
  | .set members => do
    let texts ← members.mapM Atom.write?
    pure ('{' :: separate [',', ' '] texts ++ ['}'])
  | .pairs entries => do
    let texts ← writePairs? entries
    pure ('[' :: separate [',', ' '] texts ++ [']'])
  | .listAgain => some "[...]".toList
  | .mapAgain => some ['{', '.', '.', '.', '}']

def writeAll? : List Value → Option (List (List Char))
  | [] => some []
  | v :: vs => do
    let text ← write? v
    let texts ← writeAll? vs
    pure (text :: texts)

def writeEntries? : List (Atom × Value) → Option (List (List Char))
  | [] => some []
  | (k, v) :: entries => do
    let key ← k.write?
    let text ← write? v
    let texts ← writeEntries? entries
    pure ((key ++ [':', ' '] ++ text) :: texts)

def writePairs? : List (Value × Value) → Option (List (List Char))
  | [] => some []
  | (k, v) :: entries => do
    let key ← write? k
    let text ← write? v
    let texts ← writePairs? entries
    pure ((['('] ++ key ++ [',', ' '] ++ text ++ [')']) :: texts)

end

/-- What kind of value stands where a number is wanted. -/
def kindName : Value → String
  | .atom .null => "NoneType"
  | .atom (.bool _) => "bool"
  | .atom (.int _) => "int"
  | .atom (.float _) => "float"
  | .atom (.text _) => "str"
  | .atom (.octets _) => "bytes"
  | .atom (.day _) => "datetime.date"
  | .atom (.moment _) => "datetime.datetime"
  | .list _ | .pairs _ | .listAgain => "list"
  | .map _ | .mapAgain => "dict"
  | .set _ => "set"

end Value

end SourceOutline

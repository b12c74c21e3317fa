import SourceOutline.Decimal.Fraction
import SourceOutline.Text.Base64
import SourceOutline.Text.LowerCase
import SourceOutline.Value.Basic
import SourceOutline.Yaml.Fault
import SourceOutline.Yaml.Tag

/-!
What scalars denote. The tag says what a scalar claims to be; a scalar that was tagged by its form is
what it claims in all but a few odd forms.
-/
namespace SourceOutline.Yaml

open Text (Symbol)

def withoutBars (text : List Symbol) : List Symbol := text.filter (· != .char '_')

def lowerSymbol : Symbol → List Symbol
  | .char c => (Text.lowerChar c).map .char
  | s => [s]

/-- The parts of a text between its colons. -/
def colonParts : List Symbol → List (List Symbol)
  | [] => [[]]
  | s :: rest =>
    match colonParts rest with
    | part :: parts => if s = .char ':' then [] :: part :: parts else (s :: part) :: parts
    | [] => [[s]]

/-- A text without its sign, and whether the sign is a minus. There has to be a first character. -/
def takeSign (text : List Symbol) : Except Fault (Bool × List Symbol) :=
  match text with
  | [] => .error .emptyNumber
  | .char '-' :: rest => .ok (true, rest)
  | .char '+' :: rest => .ok (false, rest)
  | _ => .ok (false, text)

/-- Reads a whole number in a base. -/
def intIn (base : Nat) (text : List Symbol) : Except Fault Int :=
  match Text.chars? text with
  | none => .error (.integer .malformed base (Text.quote text))
  | some chars =>
    match Decimal.readInteger base chars with
    | .ok i => .ok i
    | .error fault => .error (.integer fault base (Text.quote text))

/-- A whole number without its sign: a mark or a nought says that it is in base 2, 16 or 8, and colons
that it is in base 60. -/
def unsignedInt (text : List Symbol) : Except Fault Int :=
  match text with
  | [] => .error .emptyNumber
  | [.char '0'] => .ok 0
  | .char '0' :: .char 'b' :: digits => intIn 2 digits
  | .char '0' :: .char 'x' :: digits => intIn 16 digits
  | .char '0' :: _ => intIn 8 text
  | _ =>
    if text.contains (.char ':') then do
      let parts ← (colonParts text).mapM (intIn 10)
      pure (parts.foldl (fun n part => n * 60 + part) 0)
    else intIn 10 text

def intOf (text : List Symbol) : Except Fault Int := do
  let (negative, text) ← takeSign (withoutBars text)
  let n ← unsignedInt text
  pure (if negative then -n else n)

def floatPart (text : List Symbol) : Except Fault Float :=
  match (Text.chars? text).bind Decimal.readFloat? with
  | some x => .ok x
  | none => .error (.float text)

/-- The least whole number that is beyond all finite double-precision values. -/
def tooLarge : Nat := Nat.pow 2 1024 - Nat.pow 2 970

/-- Adds up parts in base 60, the lowest first, from a place value on. -/
def addParts : List Float → Nat → Float → Except Fault Float
  | [], _, sum => .ok sum
  | part :: parts, place, sum =>
    if tooLarge ≤ place then .error .hugePlaceValue
    else addParts parts (place * 60) (sum + part * Float.ofNat place)

def floatOf (text : List Symbol) : Except Fault Float := do
  let (negative, text) ← takeSign ((withoutBars text).flatMap lowerSymbol)
  let signed (x : Float) : Float := if negative then -x else x
  if text = Text.symbols ".inf" then pure (signed (1.0 / 0.0))
  else if text = Text.symbols ".nan" then pure (0.0 / 0.0)
  else if text.contains (.char ':') then
    let parts ← (colonParts text).mapM floatPart
    let sum ← addParts parts.reverse 1 0.0
    pure (signed sum)
  else
    let x ← floatPart text
    pure (signed x)

/-- The words for the truth values, in lower case. -/
def truthWords : List (String × Bool) := [
  ("yes", true), ("no", false), ("true", true), ("false", false), ("on", true), ("off", false)]

def boolOf (text : List Symbol) : Except Fault Bool :=
  let word := text.flatMap lowerSymbol
  match truthWords.find? fun entry => Text.symbols entry.1 == word with
  | some (_, b) => .ok b
  | none => .error (.truthValue word)

def digitsNat (digits : List Char) : Nat := Nat.ofDigitChars 10 digits 0

/-- The first six digits of a fraction of a second, as microseconds. -/
def microseconds (fraction : List Char) : Nat :=
  let digits := fraction.take 6
  digitsNat (digits ++ List.replicate (6 - digits.length) '0')

/-- The minutes that a zone is ahead; it has to be less than a day off. -/
def zoneMinutes : ZoneText → Except CalendarFault Int
  | .common => .ok 0
  | .offset negative hours minutes =>
    let n : Int := digitsNat hours * 60 + digitsNat minutes
    let n := if negative then -n else n
    if n.natAbs < 1440 then .ok n else .error (.zone n)

/-- The day or moment of a stamp. The zone is looked at first, then the day, then the time. -/
def StampText.atom (stamp : StampText) : Except CalendarFault Atom := do
  let day := Day.of (digitsNat stamp.year) (digitsNat stamp.month) (digitsNat stamp.day)
  match stamp.time with
  | none =>
    let d ← day
    pure (.day d)
  | some time =>
    let zone ← time.zone.mapM zoneMinutes
    let d ← day
    let m ← Moment.of d (digitsNat time.hour) (digitsNat time.minute) (digitsNat time.second)
      (microseconds time.fraction) zone
    pure (.moment m)

def stampOf (text : List Symbol) : Except Fault Atom :=
  match (Text.chars? text).bind fun chars => stampText? (dropLastBreak chars) with
  | none => .error .noTime
  | some stamp => stamp.atom.mapError .calendar

/-- Whether a code point is one of ASCII. -/
def isAscii (s : Symbol) : Bool := s.code < 0x80

/-- What is said of a text that is not all ASCII: where the first run of other code points is. -/
def asciiMessage (text : List Symbol) : String :=
  let start := (text.takeWhile isAscii).length
  let run := (text.drop start).takeWhile fun s => !isAscii s
  let place :=
    match run with
    | [s] => "character '" ++ String.ofList (Text.escapeCode s.code) ++ "' in position " ++ Nat.repr start
    | _ => "characters in position " ++ Nat.repr start ++ "-" ++ Nat.repr (start + run.length - 1)
  "'ascii' codec can't encode " ++ place ++ ": ordinal not in range(128)"

/-- Octets in base 64, written in ASCII. -/
def binaryOf (place : Mark) (text : List Symbol) : Except Fault (List UInt8) :=
  if text.all isAscii then
    (Text.Base64.decode (Text.chars text)).mapError fun fault =>
      .plain place ("failed to decode base64 data: " ++ fault.message)
  else .error (.plain place ("failed to convert base64 data into ascii: " ++ asciiMessage text))

/-- The fault of a tag that stands for no kind of value. -/
def undefinedTag (place : Mark) (tag : Tag) : Fault :=
  .plain place ("could not determine a constructor for the tag " ++ quoted tag.name)

/-- What a scalar at a place denotes under a tag for scalars. -/
def scalarAtom (place : Mark) (tag : Tag) (text : List Symbol) : Except Fault Atom :=
  match tag with
  | .null => .ok .null
  | .bool => (boolOf text).map .bool
  | .int => (intOf text).map .int
  | .float => (floatOf text).map .float
  | .binary => (binaryOf place text).map .octets
  | .timestamp => stampOf text
  | .text => .ok (.text text)
  | _ => .error (undefinedTag place tag)

end SourceOutline.Yaml

import SourceOutline.Yaml.Cursor

/-!
The tags of scalars that are written without one. The form of a plain scalar decides; whatever has none
of the forms below is a text.
-/
namespace SourceOutline.Yaml

inductive Tag where
  | null
  | bool
  | int
  | float
  | binary
  | timestamp
  | orderedMap
  | pairs
  | set
  | text
  | sequence
  | mapping
  /-- The key under which a mapping takes over the entries of others. -/
  | merge
  /-- The key under which a mapping gives the scalar that it may stand for. -/
  | value
  /-- A tag that stands for no kind of value. -/
  | unknown (name : List Char)
deriving DecidableEq, Repr, Inhabited

namespace Tag

/-- The tags that have a meaning, by what stands behind their common start. -/
def known : List (String × Tag) := [
  ("null", null), ("bool", bool), ("int", int), ("float", float), ("binary", binary),
  ("timestamp", timestamp), ("omap", orderedMap), ("pairs", pairs), ("set", set), ("str", text),
  ("seq", sequence), ("map", mapping), ("merge", merge), ("value", value)]

/-- A tag written out, from what stands behind the common start. -/
def fullName (name : String) : List Char := "tag:yaml.org,2002:".toList ++ name.toList

/-- The meaning of a tag that is written out. -/
def ofName (name : List Char) : Tag :=
  ((known.find? fun entry => fullName entry.1 == name).map (·.2)).getD (unknown name)

/-- A tag written out. -/
def name : Tag → List Char
  | unknown name => name
  | tag => ((known.find? (·.2 == tag)).map fun entry => fullName entry.1).getD []

end Tag

def isDigit (c : Char) : Bool := '0' ≤ c && c ≤ '9'

def isDigitOrBar (c : Char) : Bool := isDigit c || c == '_'

/-- A text without a sign at its start. -/
def dropSign : List Char → List Char
  | '-' :: rest | '+' :: rest => rest
  | text => text

/-- Whether a text is a run of at least one character of a class. -/
def isRun (p : Char → Bool) (text : List Char) : Bool := !text.isEmpty && text.all p

/-- Whether a text is one to two digits that stand for less than sixty. -/
def isSixtieth : List Char → Bool
  | [d] => isDigit d
  | [t, d] => '0' ≤ t && t ≤ '5' && isDigit d
  | _ => false

/-- The parts of a text between the places of a mark. -/
def splitAt (mark : Char) : List Char → List (List Char)
  | [] => [[]]
  | c :: rest =>
    match splitAt mark rest with
    | part :: parts => if c = mark then [] :: part :: parts else (c :: part) :: parts
    | [] => [[c]]

/-- Whether a text is empty or an exponent with its sign. -/
def isExponent : List Char → Bool
  | [] => true
  | e :: sign :: digits => (e == 'e' || e == 'E') && (sign == '-' || sign == '+') && isRun isDigit digits
  | _ => false

/-- Whether a text is a whole number in base 2, 8, 10, 16 or 60. -/
def hasIntForm (text : List Char) : Bool :=
  match dropSign text with
  | '0' :: 'b' :: digits => isRun (fun c => c == '0' || c == '1' || c == '_') digits
  | '0' :: 'x' :: digits =>
    isRun (fun c => c.isDigit || ('a' ≤ c && c ≤ 'f') || ('A' ≤ c && c ≤ 'F') || c == '_') digits
  | '0' :: digits => digits.all fun c => ('0' ≤ c && c ≤ '7') || c == '_'
  | c :: rest =>
    isDigit c &&
      match splitAt ':' rest with
      | first :: parts => first.all isDigitOrBar && parts.all isSixtieth
      | [] => false
  | [] => false

/-- Whether a text is a number with a point: in base 10, with or without an exponent, in base 60, or one
of the words for infinity and for no number. -/
def hasFloatForm (text : List Char) : Bool :=
  let afterPoint (rest : List Char) : Bool := isExponent (rest.dropWhile isDigitOrBar)
  (match text with
    | '.' :: d :: rest => isDigit d && afterPoint rest
    | _ => false) ||
  (match dropSign text with
    | d :: rest =>
      isDigit d &&
        match rest.dropWhile isDigitOrBar with
        | '.' :: rest => afterPoint rest
        | ':' :: rest =>
          match (splitAt ':' rest).reverse with
          | last :: parts =>
            parts.all isSixtieth && isSixtieth (last.takeWhile (· != '.')) &&
              (match last.dropWhile (· != '.') with
                | '.' :: rest => rest.all isDigitOrBar
                | _ => false)
          | [] => false
        | _ => false
    | [] => false) ||
  [".inf", ".Inf", ".INF"].any (·.toList == dropSign text) ||
  [".nan", ".NaN", ".NAN"].any (·.toList == text)

/-- The digits at the start of a text, if there are at least and at most so many, and the rest. -/
def takeDigits (least most : Nat) (text : List Char) : Option (List Char × List Char) :=
  let digits := (text.take most).takeWhile isDigit
  if least ≤ digits.length then some (digits, text.drop digits.length) else none

/-- Takes one character off a text if it is the given one. -/
def takeMark (mark : Char) (text : List Char) : Option (List Char) :=
  match text with
  | c :: rest => if c = mark then some rest else none
  | [] => none

/-- The zone of a time. -/
inductive ZoneText where
  | common
  | offset (negative : Bool) (hours minutes : List Char)
deriving DecidableEq, Repr

/-- The time of day of a date: all of it digits. -/
structure TimeText where
  hour : List Char
  minute : List Char
  second : List Char
  fraction : List Char
  zone : Option ZoneText
deriving DecidableEq, Repr

/-- A date or a time as it is written, its parts being digits. -/
structure StampText where
  year : List Char
  month : List Char
  day : List Char
  time : Option TimeText
deriving DecidableEq, Repr

/-- Reads the zone at the end of a time. -/
def zoneText? (text : List Char) : Option (Option ZoneText) :=
  match text.dropWhile fun c => c == ' ' || c == '\t' with
  | [] => if text.isEmpty then some none else none
  | ['Z'] => some (some .common)
  | sign :: rest => do
    if sign ≠ '-' ∧ sign ≠ '+' then none
    let (hours, rest) ← takeDigits 1 2 rest
    match rest with
    | [] => pure (some (.offset (sign == '-') hours []))
    | ':' :: rest =>
      let (minutes, rest) ← takeDigits 2 2 rest
      if rest.isEmpty then pure (some (.offset (sign == '-') hours minutes)) else none
    | _ => none

/-- Reads the time of day behind a date. -/
def timeText? (text : List Char) : Option TimeText := do
  let rest ←
    match text with
    | 'T' :: rest | 't' :: rest => some rest
    | ' ' :: rest | '\t' :: rest => some (rest.dropWhile fun c => c == ' ' || c == '\t')
    | _ => none
  let (hour, rest) ← takeDigits 1 2 rest
  let (minute, rest) ← takeDigits 2 2 (← takeMark ':' rest)
  let (second, rest) ← takeDigits 2 2 (← takeMark ':' rest)
  let (fraction, rest) :=
    match rest with
    | '.' :: rest => (rest.takeWhile isDigit, rest.dropWhile isDigit)
    | _ => ([], rest)
  let zone ← zoneText? rest
  pure { hour, minute, second, fraction, zone }

/-- Reads a date, with or without a time of day. -/
def stampText? (text : List Char) : Option StampText := do
  let (year, rest) ← takeDigits 4 4 text
  let (month, rest) ← takeDigits 1 2 (← takeMark '-' rest)
  let (day, rest) ← takeDigits 1 2 (← takeMark '-' rest)
  if rest.isEmpty then pure { year, month, day, time := none }
  else
    let time ← timeText? rest
    pure { year, month, day, time := some time }

/-- Whether a text is a date or a time. A date without a time has two digits for month and day. -/
def hasStampForm (text : List Char) : Bool :=
  match stampText? text with
  | none => false
  | some stamp => stamp.time.isSome || (stamp.month.length == 2 && stamp.day.length == 2)

def boolWords : List (String × Bool) := [
  ("yes", true), ("Yes", true), ("YES", true), ("no", false), ("No", false), ("NO", false),
  ("true", true), ("True", true), ("TRUE", true), ("false", false), ("False", false), ("FALSE", false),
  ("on", true), ("On", true), ("ON", true), ("off", false), ("Off", false), ("OFF", false)]

def nullWords : List String := ["~", "null", "Null", "NULL"]

/-- A text without a line break at its end. -/
def dropLastBreak (text : List Char) : List Char :=
  if text.getLast? = some '\n' then text.dropLast else text

/-- The tag of a plain scalar. One line break at its end does not count. -/
def Tag.ofForm (text : List Char) : Tag :=
  let body := dropLastBreak text
  if text.isEmpty then null
  else if boolWords.any (·.1.toList == body) then bool
  else if hasFloatForm body then float
  else if hasIntForm body then int
  else if body = ['<', '<'] then merge
  else if nullWords.any (·.toList == body) then null
  else if hasStampForm body then timestamp
  else if body = ['='] then value
  else if body = ['!'] ∨ body = ['&'] ∨ body = ['*'] then unknown (fullName "yaml")
  else Tag.text

end SourceOutline.Yaml

import SourceOutline.Json.Basic

/-!
JSON read from a text. Reading is by recursion with a bound on the nesting, which the length of the
text is enough for, and every part of the text has to belong to the one value.
-/
namespace SourceOutline.Json

def isBlank (c : Char) : Bool := c == ' ' || c == '\n' || c == '\r' || c == '\t'

def skipBlanks (text : List Char) : List Char := text.dropWhile isBlank

/-- The value of a hexadecimal digit. -/
def hexValue? (c : Char) : Option Nat :=
  if '0' ≤ c ∧ c ≤ '9' then some (c.toNat - '0'.toNat)
  else if 'a' ≤ c ∧ c ≤ 'f' then some (c.toNat - 'a'.toNat + 10)
  else if 'A' ≤ c ∧ c ≤ 'F' then some (c.toNat - 'A'.toNat + 10)
  else none

/-- The value of four hexadecimal digits. -/
def hexUnit? (a b c d : Char) : Option Nat := do
  let a ← hexValue? a
  let b ← hexValue? b
  let c ← hexValue? c
  let d ← hexValue? d
  pure (((a * 16 + b) * 16 + c) * 16 + d)

/-- The character of a two-character escape. -/
def simpleEscape? (c : Char) : Option Char :=
  match c with
  | '"' => some '"'
  | '\\' => some '\\'
  | '/' => some '/'
  | 'b' => some '\x08'
  | 'f' => some '\x0c'
  | 'n' => some '\n'
  | 'r' => some '\r'
  | 't' => some '\t'
  | _ => none

/-- Reads a quoted text from behind its first quote up to its last one. -/
def readText : List Char → List Char → Option (List Char × List Char)
  | [], _ => none
  | '"' :: rest, found => some (found.reverse, rest)
  | '\\' :: 'u' :: a :: b :: c :: d :: rest, found => do
    let unit ← hexUnit? a b c d
    if 0xD800 ≤ unit ∧ unit < 0xDC00 then
      match rest with
      | '\\' :: 'u' :: a :: b :: c :: d :: rest =>
        let low ← hexUnit? a b c d
        if 0xDC00 ≤ low ∧ low < 0xE000 then
          readText rest (Char.ofNat (0x10000 + (unit - 0xD800) * 0x400 + (low - 0xDC00)) :: found)
        else none
      | _ => none
    else if 0xDC00 ≤ unit ∧ unit < 0xE000 then none
    else readText rest (Char.ofNat unit :: found)
  | '\\' :: c :: rest, found => do
    let c ← simpleEscape? c
    readText rest (c :: found)
  | c :: rest, found => if c = '\\' ∨ c.toNat < 0x20 then none else readText rest (c :: found)
termination_by text => text.length

/-- The digits at the start of a text, and what follows them. -/
def splitDigits (text : List Char) : List Char × List Char :=
  (text.takeWhile Char.isDigit, text.dropWhile Char.isDigit)

/-- The fraction at the start of a text: no digits if there is none. -/
def readFraction (text : List Char) : Option (List Char × List Char) :=
  match text with
  | '.' :: rest =>
    let (digits, rest) := splitDigits rest
    if digits.isEmpty then none else some (digits, rest)
  | _ => some ([], text)

/-- The exponent at the start of a text: nothing if there is none. -/
def readExponent (text : List Char) : Option (Option Int × List Char) :=
  match text with
  | e :: rest =>
    if e = 'e' ∨ e = 'E' then
      let (negative, rest) :=
        match rest with
        | '-' :: rest => (true, rest)
        | '+' :: rest => (false, rest)
        | _ => (false, rest)
      let (digits, rest) := splitDigits rest
      let value : Int := Nat.ofDigitChars 10 digits 0
      if digits.isEmpty then none else some (some (if negative then -value else value), rest)
    else some (none, text)
  | [] => some (none, text)

/-- Reads a number from behind its sign. -/
def readNumber (negative : Bool) (text : List Char) : Option (Json × List Char) := do
  let (whole, rest) := splitDigits text
  if whole.isEmpty ∨ (whole.length > 1 ∧ whole.head? = some '0') then none
  let (fraction, rest) ← readFraction rest
  let (exponent, rest) ← readExponent rest
  let digits := Nat.ofDigitChars 10 (whole ++ fraction) 0
  if fraction.isEmpty ∧ exponent.isNone then
    pure (.int (if negative then -digits else digits), rest)
  else
    pure (.decimal negative digits (exponent.getD 0 - fraction.length), rest)

mutual

/-- Reads the value that a text starts with. -/
def readValue : Nat → List Char → Option (Json × List Char)
  | 0, _ => none
  | fuel + 1, text =>
    match skipBlanks text with
    | 'n' :: 'u' :: 'l' :: 'l' :: rest => some (.null, rest)
    | 't' :: 'r' :: 'u' :: 'e' :: rest => some (.bool true, rest)
    | 'f' :: 'a' :: 'l' :: 's' :: 'e' :: rest => some (.bool false, rest)
    | '"' :: rest => do
      let (chars, rest) ← readText rest []
      pure (.str (String.ofList chars), rest)
    | '[' :: rest =>
      match skipBlanks rest with
      | ']' :: rest => some (.arr [], rest)
      | _ => do
        let (items, rest) ← readItems fuel rest []
        pure (.arr items, rest)
    | '{' :: rest =>
      match skipBlanks rest with
      | '}' :: rest => some (.obj [], rest)
      | _ => do
        let (entries, rest) ← readEntries fuel rest []
        pure (.obj entries, rest)
    | '-' :: rest => readNumber true rest
    | rest => readNumber false rest

/-- Reads the items of an array, at least one. -/
def readItems : Nat → List Char → List Json → Option (List Json × List Char)
  | 0, _, _ => none
  | fuel + 1, text, found => do
    let (v, rest) ← readValue fuel text
    match skipBlanks rest with
    | ',' :: rest => readItems fuel rest (v :: found)
    | ']' :: rest => some ((v :: found).reverse, rest)
    | _ => none

/-- Reads the entries of an object, at least one. -/
def readEntries : Nat → List Char → List (String × Json) → Option (List (String × Json) × List Char)
  | 0, _, _ => none
  | fuel + 1, text, found =>
    match skipBlanks text with
    | '"' :: rest => do
      let (key, rest) ← readText rest []
      match skipBlanks rest with
      | ':' :: rest =>
        let (v, rest) ← readValue fuel rest
        match skipBlanks rest with
        | ',' :: rest => readEntries fuel rest ((String.ofList key, v) :: found)
        | '}' :: rest => some (((String.ofList key, v) :: found).reverse, rest)
        | _ => none
      | _ => none
    | _ => none

end

/-- The value that a text holds, if the text is JSON. -/
def read? (text : List Char) : Option Json :=
  match readValue (text.length + 1) text with
  | some (v, rest) => if (skipBlanks rest).isEmpty then some v else none
  | none => none

end SourceOutline.Json

import SourceOutline.Text.Blank
import SourceOutline.Text.DecimalDigit

/-!
Whole numbers read from text. Blanks around the number, a sign, a mark for the base and single
underscores between digits are allowed, and digits may be of any script. Numbers in base ten have a
greatest length.
-/
namespace SourceOutline.Decimal

/-- The most digits that a whole number in base ten may have, read or written. -/
def mostDigits : Nat := 4300

/-- Why a text is no whole number. -/
inductive IntegerFault where
  | malformed
  | tooLong (digits : Nat)
deriving DecidableEq, Repr

/-- Turns digits and blanks of any script into ASCII ones. -/
def plain (c : Char) : Char :=
  if c.toNat < 0x80 then c
  else if Text.isBlank c then ' '
  else
    match Text.decimalDigit? c with
    | some d => Nat.digitChar d
    | none => c

/-- The value of an ASCII digit or letter. -/
def digitValue? (c : Char) : Option Nat :=
  if '0' ≤ c ∧ c ≤ '9' then some (c.toNat - '0'.toNat)
  else if 'a' ≤ c ∧ c ≤ 'z' then some (c.toNat - 'a'.toNat + 10)
  else if 'A' ≤ c ∧ c ≤ 'Z' then some (c.toNat - 'A'.toNat + 10)
  else none

/-- Whether a character is a digit in a base. -/
def isDigitIn (base : Nat) (c : Char) : Bool := (digitValue? c).any (· < base)

/-- The number that digits in a base stand for; other characters do not count. -/
def digitsValue (base : Nat) (digits : List Char) : Nat :=
  digits.foldl (fun n c => (digitValue? c).elim n (base * n + ·)) 0

/-- Whether underscores stand alone, and only between other characters. -/
def underscoresOk (digits : List Char) : Bool :=
  digits.head? != some '_' && digits.getLast? != some '_' &&
    (digits.zip digits.tail).all fun (a, b) => a != '_' || b != '_'

/-- A text without the mark of its base, and without one underscore behind the mark. -/
def dropBaseMark (base : Nat) (text : List Char) : List Char :=
  match text with
  | '0' :: c :: rest =>
    if (base = 2 ∧ (c = 'b' ∨ c = 'B')) ∨ (base = 8 ∧ (c = 'o' ∨ c = 'O')) ∨
        (base = 16 ∧ (c = 'x' ∨ c = 'X')) then
      if rest.head? = some '_' then rest.tail else rest
    else text
  | _ => text

/-- Reads the digits of a number up to the end of the text. -/
def readDigits (base : Nat) (text : List Char) : Except IntegerFault Nat :=
  let run := text.takeWhile fun c => isDigitIn base c || c == '_'
  let rest := text.dropWhile fun c => isDigitIn base c || c == '_'
  let digits := run.filter (· != '_')
  if digits.isEmpty || !underscoresOk run then .error .malformed
  else if base = 10 ∧ mostDigits < digits.length then .error (.tooLong digits.length)
  else if rest.all (fun c => Text.isBlank c) then .ok (digitsValue base digits)
  else .error .malformed

/-- Reads a whole number in a base. -/
def readInteger (base : Nat) (text : List Char) : Except IntegerFault Int :=
  match (text.map plain).dropWhile Text.isBlank with
  | '-' :: rest => do
    let n ← readDigits base (dropBaseMark base rest)
    pure (-n)
  | '+' :: rest => do
    let n ← readDigits base (dropBaseMark base rest)
    pure n
  | rest => do
    let n ← readDigits base (dropBaseMark base rest)
    pure n

/-- The text of a whole number, unless it is too long. -/
def writeInteger? (i : Int) : Option (List Char) :=
  let digits := Nat.toDigits 10 i.natAbs
  if mostDigits < digits.length then none
  else some (if i < 0 then '-' :: digits else digits)

end SourceOutline.Decimal

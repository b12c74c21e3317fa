import SourceOutline.Decimal.Integer

/-!
Numbers with a fraction or an exponent, read from text as double-precision values. Digits may be of any
script, and blanks around the number are allowed.
-/
namespace SourceOutline.Decimal

/-- A decimal as it is written: a sign, and a whole number times a power of ten. -/
structure Written where
  negative : Bool
  digits : Nat
  scale : Int
deriving DecidableEq, Repr

/-- Reads a whole number with or without a sign. -/
def signedDigits? (text : List Char) : Option Int :=
  let (negative, digits) :=
    match text with
    | '-' :: rest => (true, rest)
    | '+' :: rest => (false, rest)
    | _ => (false, text)
  if digits.isEmpty || !digits.all Char.isDigit then none
  else
    let n : Int := Nat.ofDigitChars 10 digits 0
    some (if negative then -n else n)

/-- Reads digits with at most one point among them, and an exponent behind them if there is one. -/
def readWritten (negative : Bool) (text : List Char) : Option Written := do
  let whole := text.takeWhile Char.isDigit
  let rest := text.dropWhile Char.isDigit
  let (fraction, rest) :=
    match rest with
    | '.' :: rest => (rest.takeWhile Char.isDigit, rest.dropWhile Char.isDigit)
    | _ => ([], rest)
  if whole.isEmpty && fraction.isEmpty then none
  let digits := Nat.ofDigitChars 10 (whole ++ fraction) 0
  match rest with
  | [] => pure ⟨negative, digits, -fraction.length⟩
  | e :: rest =>
    if e = 'e' ∨ e = 'E' then
      let exponent ← signedDigits? rest
      pure ⟨negative, digits, exponent - fraction.length⟩
    else none

/-- The value of a decimal. What is beyond all finite values is infinite, and what is nearer to nought
than half the least value is nought. -/
def Written.toFloat (w : Written) : Float :=
  let length : Int := (Nat.toDigits 10 w.digits).length
  let size : Float :=
    if w.digits = 0 ∨ length + w.scale < -400 then 0.0
    else if 400 < length + w.scale then 1.0 / 0.0
    else Float.ofScientific w.digits (w.scale < 0) w.scale.natAbs
  if w.negative then -size else size

/-- Reads a number behind its sign, a word for infinity or for no number included. -/
def readUnsigned (negative : Bool) (text : List Char) : Option Float :=
  let word := text.map Char.toLower
  if word = "inf".toList ∨ word = "infinity".toList then
    some (if negative then -(1.0 / 0.0) else 1.0 / 0.0)
  else if word = "nan".toList then some (0.0 / 0.0)
  else (readWritten negative text).map Written.toFloat

/-- Reads a number with or without a sign. -/
def readFloat? (text : List Char) : Option Float :=
  match Text.trim Text.isBlank (text.map plain) with
  | '-' :: rest => readUnsigned true rest
  | '+' :: rest => readUnsigned false rest
  | rest => readUnsigned false rest

end SourceOutline.Decimal

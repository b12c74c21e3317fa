import SourceOutline.Decimal.Shortest

/-!
How a double-precision value is written: the shortest digits that read back, with a point or with an
exponent.
-/
namespace SourceOutline.Decimal

/-- How decimals are written. -/
structure Layout where
  /-- The greatest number of digits before the point. -/
  mostWhole : Int
  /-- The greatest number of noughts between the point and the first other digit. -/
  mostNoughts : Int
  /-- The least number of digits of an exponent. -/
  exponentDigits : Nat
deriving DecidableEq, Repr

/-- Whole parts have at most sixteen digits, at most three noughts follow the point, and exponents have
a sign and at least two digits. -/
def valueLayout : Layout := ⟨16, 3, 2⟩

def padLeft (width : Nat) (text : List Char) : List Char :=
  List.replicate (width - text.length) '0' ++ text

/-- A decimal with a point, which always has a digit on both sides. -/
def positional (digits : List Char) (place : Int) : List Char :=
  if place ≤ 0 then ['0', '.'] ++ List.replicate (-place).toNat '0' ++ digits
  else if digits.length ≤ place.toNat then
    digits ++ List.replicate (place.toNat - digits.length) '0' ++ ['.', '0']
  else digits.take place.toNat ++ '.' :: digits.drop place.toNat

/-- A decimal with one digit before the point and an exponent; a single digit has no point. -/
def scientific (n : Layout) (digits : List Char) (place : Int) : List Char :=
  let exponent := place - 1
  digits.take 1 ++ (if digits.length ≤ 1 then [] else '.' :: digits.drop 1) ++
    ['e', if exponent < 0 then '-' else '+'] ++
    padLeft n.exponentDigits (Nat.toDigits 10 exponent.natAbs)

/-- The text of a decimal. -/
def Layout.write (n : Layout) (d : Scaled) : List Char :=
  let digits := Nat.toDigits 10 d.digits
  let place := digits.length + d.scale
  if d.digits = 0 then ['0', '.', '0']
  else if -n.mostNoughts ≤ place ∧ place ≤ n.mostWhole then positional digits place
  else scientific n digits place

/-- The text of a double-precision value. -/
def Layout.writeBinary (n : Layout) : Binary64 → List Char
  | .nan => ['n', 'a', 'n']
  | .infinite negative => (if negative then ['-'] else []) ++ ['i', 'n', 'f']
  | .finite negative mantissa exponent =>
    (if negative then ['-'] else []) ++ n.write (shortest mantissa exponent)

end SourceOutline.Decimal

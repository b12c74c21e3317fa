/-!
The exact number that a double-precision value stands for, read off its bits.
-/
namespace SourceOutline.Decimal

/-- A double-precision value; a finite one is `± mantissa · 2 ^ exponent`. -/
inductive Binary64 where
  | nan
  | infinite (negative : Bool)
  | finite (negative : Bool) (mantissa : Nat) (exponent : Int)
deriving DecidableEq, Repr, Inhabited

namespace Binary64

/-- The value of 64 bits: a sign, eleven bits of exponent and 52 bits of fraction. -/
def ofBits (bits : Nat) : Binary64 :=
  let negative := bits / Nat.pow 2 63 % 2 == 1
  let exponent : Nat := bits / Nat.pow 2 52 % Nat.pow 2 11
  let fraction : Nat := bits % Nat.pow 2 52
  if exponent = 2047 then if fraction = 0 then infinite negative else nan
  else if exponent = 0 then finite negative fraction (-1074)
  else finite negative (Nat.pow 2 52 + fraction) (exponent - 1075)

def ofFloat (x : Float) : Binary64 := ofBits x.toBits.toNat

/-- The whole part of `mantissa · 2 ^ exponent`. -/
def wholePart (mantissa : Nat) : Int → Nat
  | .ofNat e => mantissa * Nat.pow 2 e
  | .negSucc e => mantissa / Nat.pow 2 (e + 1)

/-- Whether `mantissa · 2 ^ exponent` is a given whole number. -/
def isWhole (mantissa : Nat) (exponent : Int) (n : Nat) : Bool :=
  match exponent with
  | .ofNat e => mantissa * Nat.pow 2 e == n
  | .negSucc e => mantissa == n * Nat.pow 2 (e + 1)

/-- Whether a value is exactly a given whole number. -/
def equalsInt (x : Binary64) (i : Int) : Bool :=
  match x with
  | finite negative mantissa exponent =>
    (mantissa == 0 || i == 0 || negative == (i < 0)) && isWhole mantissa exponent i.natAbs
  | _ => false

/-- Whether two values compare as equal: zeros do whatever their signs, and nothing equals a NaN. -/
def equals (x y : Binary64) : Bool :=
  match x, y with
  | nan, _ => false
  | finite _ 0 _, finite _ 0 _ => true
  | x, y => x == y

end Binary64

end SourceOutline.Decimal

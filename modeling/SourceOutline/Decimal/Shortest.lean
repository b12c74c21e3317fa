import SourceOutline.Decimal.Binary64

/-!
The fewest decimal digits that read back as a given binary fraction, and of those with as many digits
the nearest. The search tries one decimal grid after the other in exact arithmetic; on each grid only
the two points around the value can be the nearest.
-/
namespace SourceOutline.Decimal

/-- The decimal `digits · 10 ^ scale`. -/
structure Scaled where
  digits : Nat
  scale : Int
deriving DecidableEq, Repr, Inhabited

/--
A positive value between two bounds, all over one denominator, and whether the bounds themselves still
read back as the value.
-/
structure Rounding where
  value : Nat
  low : Nat
  high : Nat
  denominator : Nat
  closed : Bool
deriving DecidableEq, Repr, Inhabited

namespace Rounding

/-- The numbers that read back as `mantissa · 2 ^ exponent`. Below a power of two they lie closer. -/
def ofBinary (mantissa : Nat) (exponent : Int) : Rounding :=
  let step := if mantissa = Nat.pow 2 52 ∧ exponent > -1074 then 1 else 2
  let factor := Nat.pow 2 (exponent - 2).toNat
  { value := 4 * mantissa * factor
    low := (4 * mantissa - step) * factor
    high := (4 * mantissa + 2) * factor
    denominator := Nat.pow 2 (2 - exponent).toNat
    closed := mantissa % 2 == 0 }

/-- Whether a number over a denominator reads back as the value. -/
def admits (r : Rounding) (n d : Nat) : Bool :=
  if r.closed then r.low * d ≤ n * r.denominator ∧ n * r.denominator ≤ r.high * d
  else r.low * d < n * r.denominator ∧ n * r.denominator < r.high * d

/-- The nearest point of the grid of multiples of `10 ^ scale` that reads back as the value. -/
def onGrid? (r : Rounding) (scale : Int) : Option Scaled :=
  let up := Nat.pow 10 scale.toNat
  let down := Nat.pow 10 (-scale).toNat
  let unit := r.denominator * up
  let below := r.value * down / unit
  let excess := r.value * down - below * unit
  let lowOk := r.admits (below * up) down
  let highOk := r.admits ((below + 1) * up) down
  if lowOk && (!highOk || 2 * excess < unit || (2 * excess == unit && below % 2 == 0)) then
    some ⟨below, scale⟩
  else if highOk then some ⟨below + 1, scale⟩
  else none

/-- The first grid from a coarse one down that holds a point which reads back, for at most `fuel` grids. -/
def search (r : Rounding) : Nat → Int → Scaled
  | 0, scale => ⟨r.value * Nat.pow 10 (-scale).toNat / (r.denominator * Nat.pow 10 scale.toNat), scale⟩
  | fuel + 1, scale => (r.onGrid? scale).getD (search r fuel (scale - 1))

end Rounding

/-- The number of decimal digits of a number's whole part, less one for each nought behind the point. -/
def leadingPlace (r : Rounding) : Int :=
  if r.denominator ≤ r.value then (Nat.toDigits 10 (r.value / r.denominator)).length
  else 1 - (Nat.toDigits 10 (r.denominator / r.value)).length

/-- A decimal without noughts at its end. -/
def Scaled.trim (d : Scaled) : Scaled :=
  let noughts := ((Nat.toDigits 10 d.digits).reverse.takeWhile (· == '0')).length
  if d.digits = 0 then ⟨0, 0⟩ else ⟨d.digits / Nat.pow 10 noughts, d.scale + noughts⟩

/-- The shortest decimal that reads back as `mantissa · 2 ^ exponent`. -/
def shortest (mantissa : Nat) (exponent : Int) : Scaled :=
  if mantissa = 0 then ⟨0, 0⟩
  else
    let r := Rounding.ofBinary mantissa exponent
    (r.search 20 (leadingPlace r)).trim

end SourceOutline.Decimal

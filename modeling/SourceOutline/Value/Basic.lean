import SourceOutline.Calendar
import SourceOutline.Decimal.Binary64
import SourceOutline.Text.Quoted

/-!
Values as a settings file can denote them. What may stand as a key is an atom; all else is put together
from atoms. A value that holds itself is cut where it would start again.
-/
namespace SourceOutline

/-- A value that may stand as a key. -/
inductive Atom where
  | null
  | bool (b : Bool)
  | int (i : Int)
  | float (x : Float)
  | text (symbols : List Text.Symbol)
  | octets (octets : List UInt8)
  | day (d : Day)
  | moment (m : Moment)
deriving Inhabited

inductive Value where
  | atom (a : Atom)
  | list (items : List Value)
  | map (entries : List (Atom × Value))
  | set (members : List Atom)
  | pairs (entries : List (Value × Value))
  /-- A list that stands inside itself. -/
  | listAgain
  /-- A map that stands inside itself. -/
  | mapAgain
deriving Inhabited

namespace Atom

/-- A whole number that an atom counts as, truth values being 1 and 0. -/
def asInt? : Atom → Option Int
  | bool b => some b.toInt
  | int i => some i
  | _ => none

/-- Whether two atoms are the same key. Numbers are, whatever their kinds, when they are equal. -/
def sameKey (a b : Atom) : Bool :=
  match a, b with
  | null, null => true
  | float x, float y =>
    (Decimal.Binary64.ofFloat x).equals (Decimal.Binary64.ofFloat y) || x.isNaN && y.isNaN
  | float x, b => b.asInt?.any (Decimal.Binary64.ofFloat x).equalsInt
  | a, float y => a.asInt?.any (Decimal.Binary64.ofFloat y).equalsInt
  | text s, text t => s == t
  | octets s, octets t => s == t
  | day d, day e => d == e
  | moment m, moment n => m == n
  | a, b => a.asInt?.isSome && a.asInt? == b.asInt?

end Atom

namespace Value

def null : Value := .atom .null

def ofText (text : String) : Value := .atom (.text (Text.symbols text))

/-- The entries of a map. -/
def entries? : Value → Option (List (Atom × Value))
  | .map entries => some entries
  | _ => none

end Value

/-- The value under a key that is a text. -/
def lookup (entries : List (Atom × Value)) (key : String) : Option Value :=
  (entries.find? fun entry => entry.1.sameKey (.text (Text.symbols key))).map (·.2)

/-- Puts a value under a key; a key that is there already keeps its place and its spelling. -/
def putEntry {α : Type} (entries : List (Atom × α)) (key : Atom) (value : α) : List (Atom × α) :=
  match entries with
  | [] => [(key, value)]
  | (k, v) :: rest => if k.sameKey key then (k, value) :: rest else (k, v) :: putEntry rest key value

end SourceOutline

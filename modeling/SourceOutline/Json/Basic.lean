/-!
JSON values. Whole numbers are kept apart from numbers with a fraction or an exponent, which are kept
digit for digit.
-/
namespace SourceOutline

inductive Json where
  | null
  | bool (b : Bool)
  | int (i : Int)
  /-- The number `± digits · 10 ^ scale`. -/
  | decimal (negative : Bool) (digits : Nat) (scale : Int)
  | str (text : String)
  | arr (items : List Json)
  | obj (entries : List (String × Json))
deriving Repr, Inhabited

namespace Json

/-- The value under a key of an object; the latest entry counts. -/
def get? : Json → String → Option Json
  | obj entries, key => (entries.reverse.find? (·.1 == key)).map (·.2)
  | _, _ => none

/-- The text, or null if there is none. -/
def ofText? : Option String → Json
  | none => null
  | some text => str text

end Json

end SourceOutline

import SourceOutline.Json.Basic

/-!
JSON as text in ASCII. Each entry stands on a line of its own, two blanks further in than what holds
it, and a character outside of ASCII is written as its UTF-16 units in hexadecimal.
-/
namespace SourceOutline.Json

/-- Four hexadecimal digits. -/
def hex4 (n : Nat) : List Char :=
  [n / 4096 % 16, n / 256 % 16, n / 16 % 16, n % 16].map Nat.digitChar

/-- A UTF-16 unit as an escape. -/
def escapeUnit (n : Nat) : List Char := '\\' :: 'u' :: hex4 n

/-- A character inside a quoted text. -/
def escape (c : Char) : List Char :=
  if c = '"' then ['\\', '"']
  else if c = '\\' then ['\\', '\\']
  else if c = '\n' then ['\\', 'n']
  else if c = '\r' then ['\\', 'r']
  else if c = '\t' then ['\\', 't']
  else if c = '\x08' then ['\\', 'b']
  else if c = '\x0c' then ['\\', 'f']
  else if 0x20 ≤ c.toNat ∧ c.toNat ≤ 0x7E then [c]
  else if c.toNat < 0x10000 then escapeUnit c.toNat
  else
    let n := c.toNat - 0x10000
    escapeUnit (0xD800 + n / 0x400) ++ escapeUnit (0xDC00 + n % 0x400)

def quote (text : List Char) : List Char := '"' :: (text.flatMap escape ++ ['"'])

/-- A new line and the blanks that stand at its start. -/
def newline (indent : Nat) : List Char := '\n' :: List.replicate (2 * indent) ' '

def writeInt (i : Int) : List Char :=
  match i with
  | .ofNat n => Nat.toDigits 10 n
  | .negSucc n => '-' :: Nat.toDigits 10 (n + 1)

/-- A number with an exponent in place of a fraction. -/
def writeDecimal (negative : Bool) (digits : Nat) (scale : Int) : List Char :=
  (if negative then ['-'] else []) ++ Nat.toDigits 10 digits ++ 'e' :: writeInt scale

mutual

/-- A value as text, for a place that stands `indent` levels in. -/
def write (indent : Nat) : Json → List Char
  | null => ['n', 'u', 'l', 'l']
  | bool true => ['t', 'r', 'u', 'e']
  | bool false => ['f', 'a', 'l', 's', 'e']
  | int i => writeInt i
  | decimal negative digits scale => writeDecimal negative digits scale
  | str text => quote text.toList
  | arr [] => ['[', ']']
  | arr (v :: vs) =>
    '[' :: newline (indent + 1) ++ write (indent + 1) v ++ writeItems (indent + 1) vs ++
      newline indent ++ [']']
  | obj [] => ['{', '}']
  | obj ((k, v) :: entries) =>
    '{' :: newline (indent + 1) ++ quote k.toList ++ [':', ' '] ++ write (indent + 1) v ++
      writeEntries (indent + 1) entries ++ newline indent ++ ['}']

/-- The items of an array after the first one. -/
def writeItems (indent : Nat) : List Json → List Char
  | [] => []
  | v :: vs => ',' :: newline indent ++ write indent v ++ writeItems indent vs

/-- The entries of an object after the first one. -/
def writeEntries (indent : Nat) : List (String × Json) → List Char
  | [] => []
  | (k, v) :: entries =>
    ',' :: newline indent ++ quote k.toList ++ [':', ' '] ++ write indent v ++
      writeEntries indent entries

end

/-- A value as a text that starts a file. -/
def render (v : Json) : String := String.ofList (write 0 v)

end SourceOutline.Json

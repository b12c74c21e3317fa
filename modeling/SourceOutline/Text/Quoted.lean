import SourceOutline.Text.Printable

/-!
Texts between quotes, as they stand in a written value. Every text has one quoted form, in which all
code points that cannot be shown are escaped.
-/
namespace SourceOutline.Text

/--
One code point of a text. A text that was itself written with escapes can hold half of a surrogate
pair, which no character stands for.
-/
inductive Symbol where
  | char (c : Char)
  | surrogate (code : Nat)
deriving DecidableEq, Repr, Inhabited

def Symbol.code : Symbol → Nat
  | .char c => c.toNat
  | .surrogate code => code

/-- The code points of a text. -/
def symbols (text : String) : List Symbol := text.toList.map .char

/-- The characters of a text that holds no surrogate. -/
def chars? (text : List Symbol) : Option (List Char) :=
  text.mapM fun
    | .char c => some c
    | .surrogate _ => none

/-- The characters of a text, a surrogate being replaced. -/
def chars (text : List Symbol) : List Char :=
  text.map fun
    | .char c => c
    | .surrogate _ => '\uFFFD'

/-- The last `width` hexadecimal digits of a number. -/
def hexDigits (width n : Nat) : List Char :=
  (List.range width).reverse.map fun i => Nat.digitChar (n / Nat.pow 16 i % 16)

/-- A code point as an escape: as short a one as it fits. -/
def escapeCode (code : Nat) : List Char :=
  if code < 0x100 then '\\' :: 'x' :: hexDigits 2 code
  else if code < 0x10000 then '\\' :: 'u' :: hexDigits 4 code
  else '\\' :: 'U' :: hexDigits 8 code

/-- A character between quotes. -/
def quoteChar (mark c : Char) : List Char :=
  if c = mark ∨ c = '\\' then ['\\', c]
  else if c = '\n' then ['\\', 'n']
  else if c = '\r' then ['\\', 'r']
  else if c = '\t' then ['\\', 't']
  else if isPrintable c.toNat then [c]
  else escapeCode c.toNat

/-- Double quotes are used for a text with single quotes and no double ones. -/
def quoteMark (text : List Symbol) : Char :=
  if text.contains (.char '\'') && !text.contains (.char '"') then '"' else '\''

/-- A text between quotes. -/
def quote (text : List Symbol) : List Char :=
  let mark := quoteMark text
  mark :: text.flatMap (fun
    | .char c => quoteChar mark c
    | .surrogate code => escapeCode code) ++ [mark]

/-- Octets between quotes, behind a mark that they are no text. -/
def quoteOctets (octets : List UInt8) : List Char :=
  let text := octets.map fun b => Char.ofNat b.toNat
  let mark := quoteMark (text.map .char)
  'b' :: mark :: text.flatMap (fun c =>
    if c.toNat < 0x7F then quoteChar mark c else escapeCode c.toNat) ++ [mark]

@[simp] theorem chars?_symbols (text : String) : chars? (symbols text) = some text.toList := by
  simp only [chars?, symbols]
  induction text.toList with
  | nil => rfl
  | cons c cs ih => simp [List.mapM_cons, ih]

end SourceOutline.Text

/-!
Blanks: the ASCII ones that move the place of writing, and the white space of Unicode beyond ASCII. The
separators 1C to 1F of ASCII are blanks in a text, but not around a written number.
-/
namespace SourceOutline.Text

/-- The white space of Unicode beyond ASCII. -/
def wideBlanks : List (Nat × Nat) := [
  (0x85, 0x85), (0xA0, 0xA0), (0x1680, 0x1680), (0x2000, 0x200A),
  (0x2028, 0x2029), (0x202F, 0x202F), (0x205F, 0x205F), (0x3000, 0x3000)]

/-- Whether a character may stand around a written number. -/
def isBlank (c : Char) : Bool :=
  c == ' ' || (9 ≤ c.toNat && c.toNat ≤ 13) ||
    wideBlanks.any fun (first, last) => first ≤ c.toNat && c.toNat ≤ last

/-- Whether a character is white space in a text. -/
def isSpace (c : Char) : Bool := isBlank c || (0x1C ≤ c.toNat && c.toNat ≤ 0x1F)

/-- A text without the characters of a kind at its ends. -/
def trim (p : Char → Bool) (text : List Char) : List Char :=
  ((text.dropWhile p).reverse.dropWhile p).reverse

end SourceOutline.Text

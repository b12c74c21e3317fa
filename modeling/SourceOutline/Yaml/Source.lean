import SourceOutline.Yaml.Fault

/-!
The text of a YAML file, as far as it can be read. The file is taken in pieces, and a piece counts only if all
of its characters may stand in a YAML text; the fault of the piece behind the text is met by whoever looks
beyond the text.
-/
namespace SourceOutline.Yaml

/-- Whether a character may stand in a YAML text. -/
def isAllowed (c : Char) : Bool :=
  let n := c.toNat
  n == 9 || n == 10 || n == 13 || (0x20 ≤ n && n ≤ 0x7E) || n == 0x85 || (0xA0 ≤ n && n ≤ 0xFFFD) ||
    0x10000 ≤ n

/-- What can be read of a text, and what keeps the rest of it from being read. -/
structure Source where
  text : List Char
  cut : Option Fault := none
deriving DecidableEq, Repr, Inhabited

namespace Source

/-- Puts pieces behind a text, up to one with a character that may not be there. -/
def addPieces (text : List Char) (cut : Option Fault) : List (List Char) → Source
  | [] => ⟨text, cut⟩
  | piece :: pieces =>
    match piece.dropWhile isAllowed with
    | [] => addPieces (text ++ piece) cut pieces
    | c :: _ => ⟨text, some (.forbidden c (text.length + (piece.takeWhile isAllowed).length))⟩

/-- Makes one piece of those that are taken before the first character is looked at: as many as give two
characters, and one more. They do not count unless all of them come. -/
def joinFirst (complete : Bool) : List (List Char) → List (List Char)
  | [] => []
  | first :: others =>
    let count := if first.length < 2 then 2 else 1
    if !complete && others.length < count then []
    else (first ++ (others.take count).flatten) :: others.drop count

/-- The text of a file, which is taken in pieces of 4096 characters. -/
def ofFile (content : Octets) : Source :=
  let (pieces, malformed) := Text.piecesOfFile 4096 content
  addPieces [] (malformed.map .notText) (joinFirst malformed.isNone pieces)

end Source

end SourceOutline.Yaml

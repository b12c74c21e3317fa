import SourceOutline.Yaml.Source

/-!
A place in a YAML text that is being read, and the classes of characters that decide how far a part of the
text goes. The character at the place has always been taken; where the text is cut off, going to the place
behind it, or looking beyond it, meets the fault of the cut.
-/
namespace SourceOutline.Yaml

def isBreak (c : Char) : Bool :=
  c == '\n' || c == '\x85' || c == '\u2028' || c == '\u2029'

/-- Blanks and line breaks, which end a word. -/
def isSpace (c : Char) : Bool := c == ' ' || c == '\t' || isBreak c

/-- Whether a text starts with the end of a word. -/
def endsWord : List Char → Bool
  | [] => true
  | c :: _ => isSpace c

/-- Letters, digits, hyphens and underscores, all of ASCII. -/
def isWordChar (c : Char) : Bool := c.isAlphanum || c == '-' || c == '_'

/-- Whether a text starts with the mark of a document's start or end. -/
def startsWithMarker : List Char → Bool
  | '-' :: '-' :: '-' :: rest => endsWord rest
  | '.' :: '.' :: '.' :: rest => endsWord rest
  | _ => false

/-- What is left to be read, and where that is. -/
structure Cursor where
  rest : List Char
  index : Nat := 0
  line : Nat := 0
  column : Nat := 0
  /-- What keeps the text behind the rest from being read, if it is not the end of the text. -/
  cut : Option Fault := none
deriving DecidableEq, Repr, Inhabited

namespace Cursor

def mark (c : Cursor) : Mark := ⟨c.line, c.column⟩

/-- The character at the place, as it is shown in messages; the end of the text is shown as a null. -/
def shown (c : Cursor) : String := quoted [c.rest.headD '\x00']

/-- Looks at the character that stands so many places further on. -/
def look (c : Cursor) (ahead : Nat) : Except Fault Unit :=
  match c.rest.drop ahead, c.cut with
  | [], some fault => .error fault
  | _, _ => .ok ()

/-- The place behind one character. A byte order mark takes no column. -/
def past (c : Cursor) : Cursor :=
  match c.rest with
  | [] => c
  | x :: rest =>
    if isBreak x then { c with rest, index := c.index + 1, line := c.line + 1, column := 0 }
    else { c with rest, index := c.index + 1, column := c.column + (if x = '\uFEFF' then 0 else 1) }

/-- The place behind a number of characters. -/
def pastAll (c : Cursor) : Nat → Cursor
  | 0 => c
  | n + 1 => c.past.pastAll n

/-- Goes past a number of characters. -/
def skip (c : Cursor) (n : Nat) : Except Fault Cursor := do
  let c := c.pastAll n
  c.look 0
  pure c

/-- Goes past one character. -/
def next (c : Cursor) : Except Fault Cursor := c.skip 1

/-- Goes past all characters of a class, and gives them. -/
def run (c : Cursor) (p : Char → Bool) : Except Fault (List Char × Cursor) := do
  let word := c.rest.takeWhile p
  let c ← c.skip word.length
  pure (word, c)

/-- Goes past a line break and gives the character that it stands for, if there is one. -/
def lineBreak (c : Cursor) : Except Fault (List Char × Cursor) :=
  match c.rest with
  | x :: _ =>
    if isBreak x then do
      let c ← c.next
      pure ([if x = '\x85' then '\n' else x], c)
    else .ok ([], c)
  | [] => .ok ([], c)

/-- Goes past blanks. -/
def skipBlanks (c : Cursor) : Except Fault Cursor := do
  let (_, c) ← c.run (· == ' ')
  pure c

/-- Goes past blanks, and past a comment behind them, up to the end of the line. -/
def skipComment (c : Cursor) : Except Fault Cursor := do
  let c ← c.skipBlanks
  if c.rest.head? = some '#' then
    let (_, c) ← c.run (!isBreak ·)
    pure c
  else pure c

/-- Whether the line, or the text, ends here. -/
def atLineEnd (c : Cursor) : Bool := c.rest.head?.all isBreak

/-- Whether a blank that is no tab, the line or the text ends the word here. -/
def atWordEnd (c : Cursor) : Bool := c.rest.head?.all fun x => x == ' ' || isBreak x

/-- Whether the mark of a document's start or end stands here. -/
def atMarker (c : Cursor) : Except Fault Bool := do
  c.look (if [['-', '-', '-'], ['.', '.', '.']].contains (c.rest.take 3) then 3 else 2)
  pure (startsWithMarker c.rest)

end Cursor

end SourceOutline.Yaml

import SourceOutline.Markup.Emoji
import SourceOutline.Markup.Style
import SourceOutline.Text.Places
import SourceOutline.Text.Word

/-!
Console markup printed as plain text. Tags in brackets open and close styles and are not shown, and a
backslash in front of a tag makes it text. Only a closing tag can be wrong.
-/
namespace SourceOutline.Markup

/-- A part of a marked-up text. -/
inductive Part where
  | text (chars : List Char)
  | tag (inner : List Char)
deriving DecidableEq, Repr

def startsTag (c : Char) : Bool := ('a' ≤ c && c ≤ 'z') || c == '#' || c == '/' || c == '@'

/-- The inside of a tag whose opening bracket has been read, and what follows the tag. -/
def tagBody? : List Char → Option (List Char × List Char)
  | [] => none
  | c :: rest =>
    if startsTag c then
      let more := rest.takeWhile fun x => !(x == ']' || x == '[')
      match rest.drop more.length with
      | ']' :: after => some (c :: more, after)
      | _ => none
    else none

/-- The parts that a tag behind some backslashes stands for: each two backslashes are one, and one that
is left over makes the tag text. -/
def escapedParts (slashes : Nat) (inner : List Char) : List Part :=
  (if slashes / 2 = 0 then [] else [.text (List.replicate (slashes / 2) '\\')]) ++
    [if slashes % 2 = 1 then .text ('[' :: inner ++ [']']) else .tag inner]

/-- The parts of a marked-up text. The text before the next part is kept latest first. -/
def parts : Nat → List Char → List Char → List Part
  | 0, _, _ => []
  | fuel + 1, text, before =>
    let flushed : List Part := if before.isEmpty then [] else [.text before.reverse]
    match text with
    | [] => flushed
    | c :: rest =>
      let slashes := (text.takeWhile (· == '\\')).length
      match text.drop slashes with
      | '[' :: body =>
        match tagBody? body with
        | some (inner, after) => flushed ++ escapedParts slashes inner ++ parts fuel after []
        | none => parts fuel rest (c :: before)
      | _ => parts fuel rest (c :: before)

/-- A text in which an opening bracket needs no backslash. -/
def dropBackslashes : List Char → List Char
  | [] => []
  | '\\' :: '[' :: rest => '[' :: dropBackslashes rest
  | c :: rest => c :: dropBackslashes rest

/-- Control characters that are not shown. -/
def isHidden (c : Char) : Bool := [7, 8, 11, 12, 13].contains c.toNat

/-- A part that is text, as it is shown. -/
def shownText (chars : List Char) : List Char :=
  (showPictures (dropBackslashes chars)).filter (!isHidden ·)

/-- A style that is open: its name, and what its tag gives behind an equals sign. -/
structure OpenTag where
  name : List Char
  parameters : Option (List Char)
deriving DecidableEq, Repr

/-- The name of a tag, and what stands behind its equals sign. -/
def splitTag (inner : List Char) : List Char × Option (List Char) :=
  let name := inner.takeWhile (· != '=')
  match inner.drop name.length with
  | _ :: parameters => (name, some parameters)
  | [] => (name, none)

/-- Whether a text is in parentheses, all of it on one line. -/
def inParentheses (text : List Char) : Bool :=
  2 ≤ text.length && text.head? == some '(' && text.getLast? == some ')' && !text.contains '\n'

/-- What an event tag has to hold as a value: what stands in parentheses behind the name of a handler, none
if nothing stands there, or else all of the text. -/
def eventValue (parameters : List Char) : List Char :=
  let text := Text.trim Text.isSpace parameters
  let rest := text.dropWhile fun c => Text.isWordChar c || c == '.'
  if rest.isEmpty then "()".toList else if inParentheses rest then rest else text

/-- Takes the latest open tag of a name off the list of open tags. -/
def closeNamed (name : List Char) : List OpenTag → Option (OpenTag × List OpenTag)
  | [] => none
  | tag :: tags =>
    if tag.name = name then some (tag, tags)
    else (closeNamed name tags).map fun (found, rest) => (found, tag :: rest)

section Rendering

variable (isLiteral : List Char → Bool)

/-- Closes the tag that a closing tag names, or the latest one if it names none. An event tag with
parameters has to hold a value. -/
def closeTag (name : List Char) (opened : List OpenTag) : Option (List OpenTag) := do
  let name := Text.trim Text.isSpace name
  let (tag, rest) ←
    if name.isEmpty then
      match opened with
      | tag :: rest => some (tag, rest)
      | [] => none
    else closeNamed (styleName name) opened
  let isEvent := tag.name.head? == some '@'
  if isEvent && !(tag.parameters.all fun p => p.isEmpty || isLiteral (eventValue p)) then none
  else pure rest

/-- The text that is shown for some parts. A tag that cannot be closed gives nothing. -/
def renderParts : List Part → List OpenTag → Option (List Char)
  | [], _ => some []
  | .text chars :: rest, opened => (renderParts rest opened).map (shownText chars ++ ·)
  | .tag inner :: rest, opened =>
    match splitTag inner with
    | ('/' :: name, _) =>
      match closeTag isLiteral name opened with
      | some opened => renderParts rest opened
      | none => none
    | (name, parameters) => renderParts rest (⟨styleName name, parameters⟩ :: opened)

/-- The text that a marked-up text stands for. -/
def render? (text : List Char) : Option (List Char) :=
  renderParts isLiteral (parts (text.length + 1) text []) []

end Rendering

/-- Blanks in place of tabs, up to the next place that is a multiple of eight. -/
def expandTabs (column : Nat) : List Char → List Char
  | [] => []
  | '\t' :: rest =>
    let width := 8 - column % 8
    List.replicate width ' ' ++ expandTabs (column + width) rest
  | '\n' :: rest => '\n' :: expandTabs 0 rest
  | c :: rest => c :: expandTabs (column + Text.places c) rest

/-- A line without those blanks at its end that stand beyond a width. -/
def cropBlanks (width : Nat) (line : List Char) : List Char :=
  let blanks := (line.reverse.takeWhile Text.isSpace).length
  line.take (line.length - min blanks (line.length - width))

/-- What the printing of a marked-up text depends on: how many characters a line has room for, and which
texts are values written out. -/
structure Console where
  width : Nat
  isLiteral : List Char → Bool

namespace Console

/-- A text as it is printed. Its lines may be longer than there is room for, but nothing is printed where
there is no room at all. -/
def lay (console : Console) (text : List Char) : List Char :=
  if console.width = 0 then []
  else
    Text.joinFields '\n' ((Text.fields '\n' (expandTabs 0 text)).map (cropBlanks console.width)) ++ ['\n']

/-- What is printed for a marked-up text, unless its markup is wrong. -/
def print? (console : Console) (text : List Char) : Option (List Char) :=
  (render? console.isLiteral text).map console.lay

end Console

end SourceOutline.Markup

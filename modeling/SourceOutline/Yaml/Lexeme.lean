import SourceOutline.Yaml.Cursor
import SourceOutline.Yaml.Token

/-!
The parts of a YAML text that become one token each: directives, names, tags and scalars. Every reader
starts at the first character of its part and stops behind the last one; a fault tells where the part
starts.
-/
namespace SourceOutline.Yaml.Cursor

open Token (Kind)

/-- The fault of meeting something in the course of reading a part that starts at a place. -/
def fault (c : Cursor) (context : String) (start : Mark) (problem : String) : Fault :=
  .within context start c.mark problem

/-- The fault of meeting something else than is expected. -/
def expected (c : Cursor) (context : String) (start : Mark) (what : String) : Fault :=
  c.fault context start ("expected " ++ what ++ ", but found " ++ c.shown)

/-- The name of an anchor or of a reference. -/
def name (c : Cursor) (context : String) : Except Fault (List Char × Cursor) := do
  let start := c.mark
  let c ← c.next
  let (word, c) ← c.run isWordChar
  let ended := c.rest.head?.all fun x =>
    isSpace x || ['?', ':', ',', ']', '}', '%', '@', '\x60'].contains x
  if word.isEmpty || !ended then .error (c.expected context start "alphabetic or numeric character")
  else pure (word, c)

/-- The value of a hexadecimal digit. -/
def hexValue? (x : Char) : Option Nat :=
  if Decimal.isDigitIn 16 x then Decimal.digitValue? x else none

/-- The number that so many characters stand for in hexadecimal, put behind a number. -/
def hexNumber (fail : Cursor → Fault) : Nat → Cursor → Nat → Except Fault Nat
  | 0, _, n => .ok n
  | width + 1, c, n => do
    c.look 0
    match c.rest.head?.bind hexValue? with
    | some d => hexNumber fail width c.past (n * 16 + d)
    | none => .error (fail c)

/-- The octets of a run of percent escapes. -/
def percentOctets (context : String) (start : Mark) :
    Nat → Cursor → List UInt8 → Except Fault (List UInt8 × Cursor)
  | 0, c, found => .ok (found.reverse, c)
  | fuel + 1, c, found =>
    if c.rest.head? = some '%' then do
      let c ← c.next
      let fail (x : Cursor) : Fault :=
        { c with rest := x.rest }.expected context start "URI escape sequence of 2 hexadecimal numbers"
      let n ← hexNumber fail 2 c 0
      let c ← c.skip 2
      percentOctets context start fuel c (UInt8.ofNat n :: found)
    else .ok (found.reverse, c)

/-- Whether a character may stand in a tag as itself. -/
def isTagChar (x : Char) : Bool :=
  x.isAlphanum || ['-', ';', '/', '?', ':', '@', '&', '=', '+', '$', ',', '_', '.', '!', '~', '*', '\'',
    '(', ')', '[', ']'].contains x

/-- The characters of a tag, percent escapes being read as UTF-8. -/
def tagText (context : String) (start : Mark) :
    Nat → Cursor → List Char → Except Fault (List Char × Cursor)
  | 0, c, found => .ok (found, c)
  | fuel + 1, c, found =>
    match c.rest with
    | '%' :: _ => do
      let place := c.mark
      let (octets, c) ← percentOctets context start c.rest.length c []
      match Text.Utf8.decode octets with
      | .ok chars => tagText context start fuel c (found ++ chars)
      | .error malformed => .error (.within context start place malformed.message)
    | x :: _ =>
      if isTagChar x then do
        let c ← c.next
        tagText context start fuel c (found ++ [x])
      else .ok (found, c)
    | [] => .ok (found, c)

/-- A tag without its handle, or the start of a tag: at least one character. -/
def tagRest (c : Cursor) (part : String) (start : Mark) : Except Fault (List Char × Cursor) := do
  let (text, c) ← tagText ("while scanning a " ++ part) start c.rest.length c []
  if text.isEmpty then .error (c.expected ("while parsing a " ++ part) start "URI") else pure (text, c)

/-- The handle of a tag: an exclamation mark, and a word up to the next one unless a blank follows. -/
def tagHandle (c : Cursor) (part : String) (start : Mark) : Except Fault (List Char × Cursor) :=
  let fail (c : Cursor) : Fault := c.expected ("while scanning a " ++ part) start "'!'"
  if c.rest.head? = some '!' then do
    let c ← c.next
    if c.rest.head? = some ' ' then pure (['!'], c)
    else
      let (word, c) ← c.run isWordChar
      if c.rest.head? = some '!' then
        let c ← c.next
        pure ('!' :: word ++ ['!'], c)
      else .error (fail c)
  else .error (fail c)

/-- A tag: written out between angle brackets, an exclamation mark alone, or a handle with the rest. -/
def tag (c : Cursor) : Except Fault (Kind × Cursor) := do
  let start := c.mark
  c.look 1
  let (kind, c) ←
    match c.rest.tail with
    | '<' :: _ => do
      let c ← c.skip 2
      let (text, c) ← c.tagRest "tag" start
      if c.rest.head? = some '>' then
        let c ← c.next
        pure (Kind.tag none text, c)
      else .error (c.expected "while parsing a tag" start "'>'")
    | rest =>
      if endsWord rest then do
        let c ← c.next
        pure (Kind.tag none ['!'], c)
      else do
        let word := rest.takeWhile fun x => !(x == ' ' || x == '!' || isBreak x)
        c.look (word.length + 1)
        let (handle, c) ←
          if (rest.drop word.length).head? = some '!' then c.tagHandle "tag" start
          else do
            let c ← c.next
            pure (['!'], c)
        let (text, c) ← c.tagRest "tag" start
        pure (Kind.tag (some handle) text, c)
  if c.atWordEnd then pure (kind, c) else .error (c.expected "while scanning a tag" start "' '")

/-- What directives are read in the course of. -/
def inDirective : String := "while scanning a directive"

/-- A number of a version directive. -/
def versionNumber (c : Cursor) (start : Mark) : Except Fault (Int × Cursor) := do
  let digits := c.rest.takeWhile Char.isDigit
  if digits.isEmpty then .error (c.expected inDirective start "a digit")
  else
    c.look digits.length
    match Decimal.readInteger 10 digits with
    | .ok n => do
      let c ← c.skip digits.length
      pure (n, c)
    | .error fault => .error (.integer fault 10 digits)

/-- The arguments of a version directive. -/
def version (c : Cursor) (start : Mark) : Except Fault (Kind × Cursor) := do
  let c ← c.skipBlanks
  let (major, c) ← c.versionNumber start
  if c.rest.head? = some '.' then
    let c ← c.next
    let (_, c) ← c.versionNumber start
    if c.atWordEnd then pure (.version major, c)
    else .error (c.expected inDirective start "a digit or ' '")
  else .error (c.expected inDirective start "a digit or '.'")

/-- The arguments of a directive that introduces a handle. -/
def handleDirective (c : Cursor) (start : Mark) : Except Fault (Kind × Cursor) := do
  let c ← c.skipBlanks
  let (handle, c) ← c.tagHandle "directive" start
  if c.rest.head? = some ' ' then
    let c ← c.skipBlanks
    let (text, c) ← c.tagRest "directive" start
    if c.atWordEnd then pure (.tagHandle handle text, c)
    else .error (c.expected inDirective start "' '")
  else .error (c.expected inDirective start "' '")

/-- What is left of a line: nothing but blanks and a comment. -/
def restOfLine (c : Cursor) (context : String) (start : Mark) : Except Fault Cursor := do
  let c ← c.skipComment
  if c.atLineEnd then
    let (_, c) ← c.lineBreak
    pure c
  else .error (c.expected context start "a comment or a line break")

/-- A directive, up to the end of its line. -/
def directive (c : Cursor) : Except Fault (Kind × Cursor) := do
  let start := c.mark
  let c ← c.next
  let (word, c) ← c.run isWordChar
  if word.isEmpty || !c.atWordEnd then
    .error (c.expected inDirective start "alphabetic or numeric character")
  else
    let (kind, c) ←
      if word = ['Y', 'A', 'M', 'L'] then c.version start
      else if word = ['T', 'A', 'G'] then c.handleDirective start
      else do
        let (_, c) ← c.run (!isBreak ·)
        pure (Kind.reserved, c)
    let c ← c.restOfLine inDirective start
    pure (kind, c)

/-- The line breaks of lines that hold nothing but blanks, inside of quotes. -/
def quotedBreaks (start : Mark) : Nat → Cursor → List Char → Except Fault (List Char × Cursor)
  | 0, c, found => .ok (found.reverse, c)
  | fuel + 1, c, found => do
    let isMarker ← c.atMarker
    if isMarker then
      .error (c.fault "while scanning a quoted scalar" start "found unexpected document separator")
    else
      let (_, c) ← c.run fun x => x == ' ' || x == '\t'
      match ← c.lineBreak with
      | ([x], c) => quotedBreaks start fuel c (x :: found)
      | (_, c) => pure (found.reverse, c)

/-- What line breaks between two lines of a scalar stand for: a single one for a blank, if it is a plain
one, and more than one for all but the first. -/
def foldBreaks (first : List Char) (others : List Char) : List Char :=
  if first ≠ ['\n'] then first ++ others
  else if others.isEmpty then [' ']
  else others

/-- The character that a backslash and a letter stand for. -/
def simpleEscape? (x : Char) : Option Char :=
  ([('0', '\x00'), ('a', '\x07'), ('b', '\x08'), ('t', '\t'), ('\t', '\t'), ('n', '\n'), ('v', '\x0b'),
    ('f', '\x0c'), ('r', '\r'), ('e', '\x1b'), (' ', ' '), ('"', '"'), ('\\', '\\'), ('/', '/'),
    ('N', '\u0085'), ('_', '\u00a0'), ('L', '\u2028'), ('P', '\u2029')].find? (·.1 == x)).map (·.2)

/-- The number of hexadecimal digits behind a backslash and a letter. -/
def escapeWidth? (x : Char) : Option Nat :=
  match x with
  | 'x' => some 2
  | 'u' => some 4
  | 'U' => some 8
  | _ => none

/-- The code point of a number. -/
def symbolOf (code : Nat) : Except Fault Text.Symbol :=
  if 0x80000000 ≤ code then .error .hugeCodePoint
  else if 0x110000 ≤ code then .error .noCodePoint
  else if 0xD800 ≤ code ∧ code < 0xE000 then .ok (.surrogate code)
  else .ok (.char (Char.ofNat code))

/-- Puts characters in front of a text that is kept latest first. -/
def pushChars (found : List Text.Symbol) (text : List Char) : List Text.Symbol :=
  text.reverse.map Text.Symbol.char ++ found

/-- What an escape behind its backslash adds to a text. -/
def escape (c : Cursor) (start : Mark) (found : List Text.Symbol) :
    Except Fault (List Text.Symbol × Cursor) :=
  let context := "while scanning a double-quoted scalar"
  let x := c.rest.headD '\x00'
  match simpleEscape? x, escapeWidth? x with
  | some y, _ => do
    let c ← c.next
    pure (.char y :: found, c)
  | none, some width => do
    let c ← c.next
    let fail (x : Cursor) : Fault :=
      { c with rest := x.rest }.expected context start
        ("escape sequence of " ++ Nat.repr width ++ " hexadecimal numbers")
    let code ← hexNumber fail width c 0
    let symbol ← symbolOf code
    let c ← c.skip width
    pure (symbol :: found, c)
  | none, none =>
    if isBreak x then do
      let (_, c) ← c.lineBreak
      let (breaks, c) ← quotedBreaks start (c.rest.length + 1) c []
      pure (pushChars found breaks, c)
    else .error (c.fault context start ("found unknown escape character " ++ c.shown))

/-- A quoted text from behind its first quote up to its last one. The text is kept latest first. -/
def quotedText (double : Bool) (start : Mark) :
    Nat → Cursor → List Text.Symbol → Except Fault (List Text.Symbol × Cursor)
  | 0, c, found => .ok (found.reverse, c)
  | fuel + 1, c, found =>
    match c.rest with
    | [] => .error (c.fault "while scanning a quoted scalar" start "found unexpected end of stream")
    | x :: rest => do
      if isSpace x then
        let (blanks, c) ← c.run fun y => y == ' ' || y == '\t'
        match ← c.lineBreak with
        | ([], c) => quotedText double start fuel c (pushChars found blanks)
        | (first, c) =>
          let (others, c) ← quotedBreaks start (c.rest.length + 1) c []
          quotedText double start fuel c (pushChars found (foldBreaks first others))
      else if double then
        let c ← c.next
        if x = '"' then pure (found.reverse, c)
        else if x = '\\' then
          let (found, c) ← c.escape start found
          quotedText double start fuel c found
        else quotedText double start fuel c (.char x :: found)
      else if x = '\'' then
        c.look 1
        if rest.head? = some '\'' then
          let c ← c.skip 2
          quotedText double start fuel c (.char x :: found)
        else
          let c ← c.next
          pure (found.reverse, c)
      else
        let c ← c.next
        quotedText double start fuel c (.char x :: found)

/-- A quoted scalar. -/
def quoted (c : Cursor) (double : Bool) : Except Fault (Kind × Cursor) := do
  let start := c.mark
  let c ← c.next
  let (text, c) ← quotedText double start (c.rest.length + 1) c []
  pure (.scalar text false, c)

/-- The length of the run of characters that a plain scalar takes without a break in between. -/
def plainRun (inFlow : Bool) : List Char → Nat
  | [] => 0
  | x :: rest =>
    if isSpace x then 0
    else if x = ':' ∧ (endsWord rest ∨ (inFlow ∧ rest.head?.any [',', '[', ']', '{', '}'].contains)) then 0
    else if inFlow && [',', '?', '[', ']', '{', '}'].contains x then 0
    else plainRun inFlow rest + 1

/-- The line breaks, with the blanks around them, that may go on a plain scalar. A document's mark at the
start of a line gives nothing. -/
def plainBreaks : Nat → Cursor → List Char → Except Fault (Option (List Char) × Cursor)
  | 0, c, found => .ok (some found.reverse, c)
  | fuel + 1, c, found => do
    let c ← c.skipBlanks
    match ← c.lineBreak with
    | ([x], c) =>
      let isMarker ← c.atMarker
      if isMarker then pure (none, c) else plainBreaks fuel c (x :: found)
    | (_, c) => pure (some found.reverse, c)

/-- The blanks or line breaks behind a run of a plain scalar, and whether there was a line break. -/
def plainSpaces (c : Cursor) : Except Fault (List Char × Bool × Cursor) := do
  let (blanks, c) ← c.run (· == ' ')
  match ← c.lineBreak with
  | ([], c) => pure (blanks, false, c)
  | (first, c) =>
    let isMarker ← c.atMarker
    if isMarker then pure ([], true, c)
    else
      match ← plainBreaks (c.rest.length + 1) c [] with
      | (some others, c) => pure (foldBreaks first others, true, c)
      | (none, c) => pure ([], true, c)

/--
A plain scalar, run by run: it goes on behind blanks or line breaks, unless a comment or a line that is
indented too little follows. Tells also whether a line break stands behind the last run. At a colon one has
to look at the next character to know whether the run ends.
-/
def plainText (inFlow : Bool) (indent : Int) :
    Nat → Cursor → List Char → List Char → Bool → Except Fault (List Char × Bool × Cursor)
  | 0, c, found, _, broken => .ok (found, broken, c)
  | fuel + 1, c, found, spaces, broken => do
    if c.rest.head? = some '#' then pure (found, broken, c)
    else
      let length := plainRun inFlow c.rest
      let run := c.rest.take length
      let c ← c.skip length
      if c.rest.head? = some ':' then c.look 1
      if length = 0 then pure (found, broken, c)
      else
        let found := found ++ spaces ++ run
        let (spaces, broken, c) ← c.plainSpaces
        if spaces.isEmpty || c.rest.head? = some '#' || (!inFlow && (c.column : Int) < indent) then
          pure (found, broken, c)
        else plainText inFlow indent fuel c found spaces broken

/-- A plain scalar, and whether a line break stands behind it. -/
def plain (c : Cursor) (inFlow : Bool) (indent : Int) : Except Fault (Kind × Bool × Cursor) := do
  let (text, broken, c) ← plainText inFlow indent (c.rest.length + 1) c [] [] false
  pure (.scalar (text.map .char) true, broken, c)

/-- What becomes of the line breaks at the end of a block scalar. -/
inductive Chomping where
  | strip
  | clip
  | keep
deriving DecidableEq, Repr

/-- The sign behind the indicator of a block scalar. -/
def chomping (c : Cursor) : Except Fault (Option Chomping × Cursor) :=
  let go (chomping : Chomping) : Except Fault (Option Chomping × Cursor) := do
    let c ← c.next
    pure (some chomping, c)
  match c.rest.head? with
  | some '+' => go .keep
  | some '-' => go .strip
  | _ => .ok (none, c)

/-- What block scalars are read in the course of. -/
def inBlock : String := "while scanning a block scalar"

/-- The digit behind the indicator of a block scalar. -/
def increment (c : Cursor) (start : Mark) : Except Fault (Option Nat × Cursor) :=
  match c.rest.head?.filter Char.isDigit with
  | some '0' =>
    .error (c.fault inBlock start "expected indentation indicator in the range 1-9, but found 0")
  | some d => do
    let c ← c.next
    pure (some (d.toNat - '0'.toNat), c)
  | none => .ok (none, c)

/-- The digit and the sign behind the indicator of a block scalar, in either order. -/
def blockHeader (c : Cursor) (start : Mark) : Except Fault (Chomping × Option Nat × Cursor) := do
  let (before, c) ← c.chomping
  let (indent, c) ← c.increment start
  let (behind, c) ← if before.isNone && indent.isSome then c.chomping else pure (none, c)
  if c.atWordEnd then
    let c ← c.restOfLine inBlock start
    pure ((before.or behind).getD .clip, indent, c)
  else .error (c.expected inBlock start "chomping or indentation indicators")

/-- The empty lines at the start of a block scalar, and the deepest indentation met in them. -/
def leadingBreaks : Nat → Cursor → List Char → Nat → Except Fault (List Char × Nat × Cursor)
  | 0, c, found, deepest => .ok (found.reverse, deepest, c)
  | fuel + 1, c, found, deepest => do
    if c.rest.head? = some ' ' then
      let c ← c.next
      leadingBreaks fuel c found (max deepest c.column)
    else
      match ← c.lineBreak with
      | ([x], c) => leadingBreaks fuel c (x :: found) deepest
      | (_, c) => pure (found.reverse, deepest, c)

/-- Goes past blanks that do not reach beyond an indentation. -/
def skipIndent (c : Cursor) (indent : Nat) : Except Fault Cursor :=
  c.skip (min (c.rest.takeWhile (· == ' ')).length (indent - c.column))

/-- The empty lines before the next line of a block scalar, which starts at an indentation. -/
def blockBreaks (indent : Nat) : Nat → Cursor → List Char → Except Fault (List Char × Cursor)
  | 0, c, found => .ok (found.reverse, c)
  | fuel + 1, c, found => do
    let c ← c.skipIndent indent
    match ← c.lineBreak with
    | ([x], c) => blockBreaks indent fuel c (x :: found)
    | (_, c) => pure (found.reverse, c)

/-- The lines of a block scalar from the first one on that stands at the indentation. -/
def blockLines (folded : Bool) (indent : Nat) :
    Nat → Cursor → List Char → List Char → Except Fault (List Char × List Char × List Char × Cursor)
  | 0, c, found, breaks => .ok (found, [], breaks, c)
  | fuel + 1, c, found, breaks => do
    let indented := c.rest.head?.any fun x => x == ' ' || x == '\t'
    let (line, c) ← c.run (!isBreak ·)
    let found := found ++ breaks ++ line
    let (lineBreak, c) ← c.lineBreak
    let (breaks, c) ← blockBreaks indent (c.rest.length + 1) c []
    if c.column = indent ∧ c.rest ≠ [] then
      let nextIndented := c.rest.head?.any fun x => x == ' ' || x == '\t'
      let joint :=
        if folded && lineBreak = ['\n'] && !indented && !nextIndented then
          if breaks.isEmpty then [' '] else []
        else lineBreak
      blockLines folded indent fuel c (found ++ joint) breaks
    else pure (found, lineBreak, breaks, c)

/-- A block scalar below a collection at an indentation. -/
def block (c : Cursor) (folded : Bool) (parentIndent : Int) : Except Fault (Kind × Cursor) := do
  let start := c.mark
  let c ← c.next
  let (chomping, increment, c) ← c.blockHeader start
  let least := max 1 (parentIndent + 1).toNat
  let (indent, breaks, c) ←
    match increment with
    | some n => do
      let indent := least + n - 1
      let (breaks, c) ← blockBreaks indent (c.rest.length + 1) c []
      pure (indent, breaks, c)
    | none => do
      let (breaks, deepest, c) ← leadingBreaks (c.rest.length + 1) c [] 0
      pure (max least deepest, breaks, c)
  let (text, lineBreak, breaks, c) ←
    if c.column = indent ∧ c.rest ≠ [] then blockLines folded indent (c.rest.length + 1) c [] breaks
    else pure ([], [], breaks, c)
  let ending :=
    match chomping with
    | .strip => []
    | .clip => lineBreak
    | .keep => lineBreak ++ breaks
  pure (.scalar ((text ++ ending).map .char) false, c)

end SourceOutline.Yaml.Cursor

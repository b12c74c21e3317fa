import SourceOutline.Yaml.Lexeme

/-!
From a YAML text to its tokens. What may turn out to be the key of a map is remembered, so that the
tokens in front of it can still be put there when the colon behind it is met; a key has to stand on one
line with its colon, at most 1024 characters before it. Until that is decided, the tokens from the key on
cannot be had.
-/
namespace SourceOutline.Yaml

/-- A place where a key may have started: how many tokens are before it, and where it is. -/
structure KeyStart where
  tokensBefore : Nat
  required : Bool
  index : Nat
  place : Mark
deriving DecidableEq, Repr

/-- The state of a text that is being cut into tokens. -/
structure TokenStream where
  cursor : Cursor
  /-- The tokens found, latest first. -/
  tokens : List Token := []
  /-- The column of the innermost block collection, and -1 outside of all. -/
  indent : Int := -1
  /-- The columns of the collections around it. -/
  outerIndents : List Int := []
  /-- Whether a key may start here. -/
  keyAllowed : Bool := true
  /-- Where a key of the innermost flow collection may have started. -/
  keyStart : Option KeyStart := none
  /-- The same for the collections around it; empty outside of flow collections. -/
  outerKeyStarts : List (Option KeyStart) := []
deriving Repr

namespace TokenStream

open Token (Kind)

def inFlow (s : TokenStream) : Bool := !s.outerKeyStarts.isEmpty

/-- Adds a token that starts here. -/
def push (s : TokenStream) (kind : Kind) : TokenStream :=
  { s with tokens := ⟨kind, s.cursor.mark, 0⟩ :: s.tokens }

/-- Puts a token that starts at a place behind the first `before` ones. -/
def insertAfter (s : TokenStream) (before : Nat) (place : Mark) (kind : Kind) : TokenStream :=
  let later := s.tokens.length - before
  { s with tokens := s.tokens.take later ++ ⟨kind, place, 0⟩ :: s.tokens.drop later }

/-- Goes to the next token. A new line outside of flow collections lets a key start again. -/
def toToken (inFlow : Bool) : Nat → Cursor → Bool → Except Fault (Cursor × Bool)
  | 0, c, keyAllowed => .ok (c, keyAllowed)
  | fuel + 1, c, keyAllowed => do
    let c ← c.skipComment
    match ← c.lineBreak with
    | ([], c) => pure (c, keyAllowed)
    | (_, c) => toToken inFlow fuel c (keyAllowed || !inFlow)

/-- Gives up a place where a key may have started. It is an error if a key had to start there. -/
def KeyStart.giveUp (c : Cursor) (start : Option KeyStart) : Except Fault (Option KeyStart) :=
  match start with
  | some ⟨_, true, _, place⟩ =>
    .error (c.fault "while scanning a simple key" place "could not find expected ':'")
  | _ => .ok none

/-- Gives up a place that is on another line or too far back. -/
def KeyStart.expire (c : Cursor) (start : Option KeyStart) : Except Fault (Option KeyStart) :=
  match start with
  | none => .ok none
  | some k => if k.place.line ≠ c.line ∨ k.index + 1024 < c.index then giveUp c start else .ok start

/-- Gives up all places where a key can no longer have started. -/
def expireKeys (s : TokenStream) : Except Fault TokenStream := do
  let keyStart ← KeyStart.expire s.cursor s.keyStart
  let outerKeyStarts ← s.outerKeyStarts.mapM (KeyStart.expire s.cursor)
  pure { s with keyStart, outerKeyStarts }

/-- Gives up the place where a key of the innermost collection may have started. -/
def dropKey (s : TokenStream) : Except Fault TokenStream := do
  let keyStart ← KeyStart.giveUp s.cursor s.keyStart
  pure { s with keyStart }

/-- Remembers that a key may start here. -/
def saveKey (s : TokenStream) : Except Fault TokenStream :=
  if s.keyAllowed then do
    let s ← s.dropKey
    pure { s with
      keyStart := some {
        tokensBefore := s.tokens.length
        required := !s.inFlow && s.indent == s.cursor.column
        index := s.cursor.index
        place := s.cursor.mark } }
  else pure s

/-- Closes the block collections that stand further in than a column. -/
def closeBlocks (column : Int) (closing : Token) :
    Int → List Int → List Token → Int × List Int × List Token
  | indent, [], tokens => (indent, [], tokens)
  | indent, outer :: outers, tokens =>
    if column < indent then closeBlocks column closing outer outers (closing :: tokens)
    else (indent, outer :: outers, tokens)

def unindent (s : TokenStream) (column : Int) : TokenStream :=
  if s.inFlow then s
  else
    let closing : Token := ⟨.blockEnd, s.cursor.mark, 0⟩
    let (indent, outerIndents, tokens) := closeBlocks column closing s.indent s.outerIndents s.tokens
    { s with indent, outerIndents, tokens }

/-- Opens a block collection at a place that is further in than the innermost one, its first token
standing behind the first `before` ones. -/
def openBlock (s : TokenStream) (place : Mark) (before : Nat) (kind : Kind) : TokenStream :=
  if s.indent < place.column then
    { s.insertAfter before place kind with
      indent := place.column, outerIndents := s.indent :: s.outerIndents }
  else s

/-- Opens a block collection that starts here. -/
def openHere (s : TokenStream) (kind : Kind) : TokenStream :=
  if s.inFlow then s else s.openBlock s.cursor.mark s.tokens.length kind

/-- Adds the token of an indicator of one character. -/
def indicator (s : TokenStream) (kind : Kind) : Except Fault TokenStream := do
  let cursor ← s.cursor.next
  pure { s with tokens := ⟨kind, s.cursor.mark, 1⟩ :: s.tokens, cursor }

/-- The end of the text. -/
def finish (s : TokenStream) : Except Fault TokenStream := (s.unindent (-1)).dropKey

def fetchDirective (s : TokenStream) : Except Fault TokenStream := do
  let s ← (s.unindent (-1)).dropKey
  let (kind, cursor) ← s.cursor.directive
  pure { s.push kind with cursor, keyAllowed := false }

def fetchMarker (s : TokenStream) (kind : Kind) : Except Fault TokenStream := do
  let s ← (s.unindent (-1)).dropKey
  let cursor ← s.cursor.skip 3
  pure { s.push kind with cursor, keyAllowed := false }

def fetchFlowStart (s : TokenStream) (kind : Kind) : Except Fault TokenStream := do
  let s ← s.saveKey
  let s ← { s with keyStart := none, outerKeyStarts := s.keyStart :: s.outerKeyStarts }.indicator kind
  pure { s with keyAllowed := true }

/-- The end of a flow collection. Where none is open, the token is one that stands nowhere. -/
def fetchFlowEnd (s : TokenStream) (kind : Kind) : Except Fault TokenStream := do
  let s ← s.dropKey
  let s ← { s with
    keyStart := s.outerKeyStarts.head?.join, outerKeyStarts := s.outerKeyStarts.tail }.indicator kind
  pure { s with keyAllowed := false }

def fetchFlowEntry (s : TokenStream) : Except Fault TokenStream := do
  let s ← s.dropKey
  let s ← s.indicator .flowEntry
  pure { s with keyAllowed := true }

/-- In block collections some tokens stand only where a key may start. -/
def needKeyAllowed (s : TokenStream) (what : String) : Except Fault Unit :=
  if !s.inFlow && !s.keyAllowed then .error (.plain s.cursor.mark (what ++ " are not allowed here"))
  else .ok ()

def fetchBlockEntry (s : TokenStream) : Except Fault TokenStream := do
  s.needKeyAllowed "sequence entries"
  let s ← (s.openHere .blockSequenceStart).dropKey
  let s ← s.indicator .blockEntry
  pure { s with keyAllowed := true }

def fetchKey (s : TokenStream) : Except Fault TokenStream := do
  s.needKeyAllowed "mapping keys"
  let s ← (s.openHere .blockMappingStart).dropKey
  let s ← s.indicator .key
  pure { s with keyAllowed := !s.inFlow }

/-- The colon behind a key. Behind a key that stands on the same line, the tokens in front of that key
are put there now. -/
def fetchValue (s : TokenStream) : Except Fault TokenStream :=
  match s.keyStart with
  | some k => do
    let s := s.insertAfter k.tokensBefore k.place .key
    let s := if s.inFlow then s else s.openBlock k.place k.tokensBefore .blockMappingStart
    let s ← s.indicator .value
    pure { s with keyAllowed := false, keyStart := none }
  | none => do
    s.needKeyAllowed "mapping values"
    let s ← (s.openHere .blockMappingStart).indicator .value
    pure { s with keyAllowed := !s.inFlow }

/-- A token that may be a key or the start of one. -/
def fetchNode (s : TokenStream) (read : Cursor → Except Fault (Kind × Cursor)) :
    Except Fault TokenStream := do
  let s ← s.saveKey
  let (kind, cursor) ← read s.cursor
  pure { s.push kind with cursor, keyAllowed := false }

def fetchBlockScalar (s : TokenStream) (folded : Bool) : Except Fault TokenStream := do
  let s ← s.dropKey
  let (kind, cursor) ← s.cursor.block folded s.indent
  pure { s.push kind with cursor, keyAllowed := true }

def fetchPlain (s : TokenStream) : Except Fault TokenStream := do
  let s ← s.saveKey
  let (kind, keyAllowed, cursor) ← s.cursor.plain s.inFlow (s.indent + 1)
  pure { s.push kind with cursor, keyAllowed }

/-- Whether a character starts a plain scalar whatever follows. -/
def isPlainStart (x : Char) : Bool :=
  !(isSpace x || ['-', '?', ':', ',', '[', ']', '{', '}', '#', '&', '*', '!', '|', '>', '\'', '"', '%',
    '@', '\x60'].contains x)

/-- Whether a plain scalar starts with a character that has the rest of the text behind it. -/
def startsPlain (inFlow : Bool) (x : Char) (rest : List Char) : Bool :=
  isPlainStart x || !endsWord rest && (x == '-' || !inFlow && (x == '?' || x == ':'))

/-- How far ahead one has to look to know what starts with a character. -/
def lookahead (s : TokenStream) (x : Char) (rest : List Char) : Nat :=
  if s.cursor.column == 0 && (x == '-' || x == '.') then
    if rest.take 2 == [x, x] then 3 else 2
  else if ['-', '@', '\x60', '\t'].contains x || x == '%' && s.cursor.column != 0 then 1
  else if (if s.inFlow then ['|', '>'] else ['?', ':']).contains x then 1
  else 0

/-- Adds the token that starts with a character, which has the rest of the text behind it. -/
def fetchAt (s : TokenStream) (x : Char) (rest : List Char) : Except Fault TokenStream :=
  let atStart := s.cursor.column == 0
  let word := endsWord rest
  if x == '%' && atStart then s.fetchDirective
  else if x == '-' && atStart && startsWithMarker (x :: rest) then s.fetchMarker .documentStart
  else if x == '.' && atStart && startsWithMarker (x :: rest) then s.fetchMarker .documentEnd
  else if x == '[' then s.fetchFlowStart .flowSequenceStart
  else if x == '{' then s.fetchFlowStart .flowMappingStart
  else if x == ']' then s.fetchFlowEnd .flowSequenceEnd
  else if x == '}' then s.fetchFlowEnd .flowMappingEnd
  else if x == ',' then s.fetchFlowEntry
  else if x == '-' && word then s.fetchBlockEntry
  else if x == '?' && (s.inFlow || word) then s.fetchKey
  else if x == ':' && (s.inFlow || word) then s.fetchValue
  else if x == '*' then
    s.fetchNode fun c => (c.name "while scanning an alias").map fun (n, c) => (.reference n, c)
  else if x == '&' then
    s.fetchNode fun c => (c.name "while scanning an anchor").map fun (n, c) => (.anchor n, c)
  else if x == '!' then s.fetchNode Cursor.tag
  else if x == '|' && !s.inFlow then s.fetchBlockScalar false
  else if x == '>' && !s.inFlow then s.fetchBlockScalar true
  else if x == '\'' then s.fetchNode (·.quoted false)
  else if x == '"' then s.fetchNode (·.quoted true)
  else if startsPlain s.inFlow x rest then s.fetchPlain
  else
    .error (.breach {
      problem := "found character " ++ s.cursor.shown ++ " that cannot start any token"
      place := s.cursor.mark
      context := some "while scanning for the next token" })

/-- Goes to the next token: skips blanks and comments, gives up keys, closes block collections. -/
def advance (s : TokenStream) : Except Fault TokenStream := do
  let (cursor, keyAllowed) ← toToken s.inFlow (s.cursor.rest.length + 1) s.cursor s.keyAllowed
  let s ← { s with cursor, keyAllowed }.expireKeys
  pure (s.unindent s.cursor.column)

/-- Adds the next token, and those that close collections in front of it. Behind the last one it gives the
place of the end as well. -/
def fetch (s : TokenStream) : Except Fault (TokenStream × Option Mark) := do
  let s ← s.advance
  match s.cursor.rest with
  | [] => do
    let s ← s.finish
    pure (s, some s.cursor.mark)
  | x :: rest => do
    s.cursor.look (s.lookahead x rest)
    let s ← s.fetchAt x rest
    let s ← s.expireKeys
    pure (s, none)

/-- The tokens that can be had: those in front of the first one that may be a key. -/
def settled (s : TokenStream) : List Token :=
  let starts := (s.keyStart :: s.outerKeyStarts).filterMap (·.map KeyStart.tokensBefore)
  s.tokens.reverse.take (starts.foldl min s.tokens.length)

/-- Fetches tokens up to the end of the text or to a fault. -/
def run : Nat → TokenStream → Tokens
  | 0, s => ⟨s.settled, .ok s.cursor.mark⟩
  | fuel + 1, s =>
    match s.fetch with
    | .ok (s, none) => run fuel s
    | .ok (s, some place) => ⟨s.tokens.reverse, .ok place⟩
    | .error fault => ⟨s.settled, .error fault⟩

end TokenStream

/-- The tokens of a text, from its first character on. A byte order mark there is skipped. -/
def tokens (source : Source) : Tokens :=
  let cursor : Cursor := { rest := source.text, cut := source.cut }
  let start : Except Fault Cursor := do
    cursor.look 0
    if source.text.head? = some '\uFEFF' then cursor.next else pure cursor
  match start with
  | .ok cursor => TokenStream.run (source.text.length + 1) { cursor }
  | .error fault => ⟨[], .error fault⟩

end SourceOutline.Yaml

import SourceOutline.Yaml.Fault

/-!
The tokens of a YAML text. Indentation has been turned into tokens of its own, so that block and flow
collections are both delimited by tokens.
-/
namespace SourceOutline.Yaml

namespace Token

inductive Kind where
  /-- A version directive, with its major number. -/
  | version (major : Int)
  /-- A directive that lets a handle stand for the start of a tag. -/
  | tagHandle (handle start : List Char)
  /-- A directive of any other name. -/
  | reserved
  | documentStart
  | documentEnd
  | blockSequenceStart
  | blockMappingStart
  | blockEnd
  | flowSequenceStart
  | flowSequenceEnd
  | flowMappingStart
  | flowMappingEnd
  | blockEntry
  | flowEntry
  | key
  | value
  | reference (name : List Char)
  | anchor (name : List Char)
  /-- A tag: its handle, if it is not written out in full, and the rest of it. -/
  | tag (handle : Option (List Char)) (rest : List Char)
  | scalar (text : List Text.Symbol) (plain : Bool)
  | streamEnd
deriving DecidableEq, Repr, Inhabited

/-- What a token is called in messages. -/
def Kind.name : Kind → String
  | version _ | tagHandle _ _ | reserved => "<directive>"
  | documentStart => "<document start>"
  | documentEnd => "<document end>"
  | blockSequenceStart => "<block sequence start>"
  | blockMappingStart => "<block mapping start>"
  | blockEnd => "<block end>"
  | flowSequenceStart => "["
  | flowSequenceEnd => "]"
  | flowMappingStart => "\x7b"
  | flowMappingEnd => "\x7d"
  | blockEntry => "-"
  | flowEntry => ","
  | key => "?"
  | value => ":"
  | reference _ => "<alias>"
  | anchor _ => "<anchor>"
  | tag _ _ => "<tag>"
  | scalar _ _ => "<scalar>"
  | streamEnd => "<stream end>"

end Token

structure Token where
  kind : Token.Kind
  place : Mark
  /-- How many columns an indicator takes; it is of no account for other tokens. -/
  width : Nat := 0
deriving DecidableEq, Repr, Inhabited

namespace Token

/-- The place behind an indicator. -/
def stop (t : Token) : Mark := { t.place with column := t.place.column + t.width }

/-- What a token is shown as in messages. -/
def shown (t : Token) : String := quoted t.kind.name.toList

end Token

/-- The tokens that can be had of a text, and behind them the end of the text or the fault that keeps further
tokens from being had. -/
structure Tokens where
  list : List Token
  ending : Except Fault Mark

namespace Tokens

/-- The next token. -/
def peek (ts : Tokens) : Except Fault Token :=
  match ts.list with
  | t :: _ => .ok t
  | [] => ts.ending.map fun place => ⟨.streamEnd, place, 0⟩

/-- The tokens behind the next one. -/
def rest (ts : Tokens) : Tokens := { ts with list := ts.list.tail }

end Tokens

end SourceOutline.Yaml

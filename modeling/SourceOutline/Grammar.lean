import SourceOutline.Log
import SourceOutline.RawTree
import SourceOutline.Text.Utf8

/-!
The grammar engine and what may go wrong before a text can be parsed at all. A text that breaks the
grammar is no failure: the engine always gives a tree.
-/
namespace SourceOutline

/-- Why no text can be parsed. -/
inductive Failure where
  /-- A tag that no parser exists for. -/
  | unsupportedTag (tag : String)
  | noGrammar (language : Language)
  | engine (language : Language) (reason : String)
deriving DecidableEq, Repr

def Failure.message : Failure → String
  | unsupportedTag tag => "Unsupported language: " ++ tag
  | noGrammar language => "No grammar available for language: " ++ language.tag
  | engine language reason => "Could not set up " ++ language.tag ++ " grammar: " ++ reason

/-- A result, or the failure in its place, and what was logged on the way. -/
structure Logged (α : Type) where
  log : List Log.Entry
  result : Except Failure α

namespace Logged

variable {α β : Type}

def pure (a : α) : Logged α := ⟨[], .ok a⟩

def fail (failure : Failure) : Logged α := ⟨[], .error failure⟩

def tell (entries : List Log.Entry) : Logged Unit := ⟨entries, .ok ()⟩

/-- Goes on with a result; after a failure nothing more is logged. -/
def bind (x : Logged α) (f : α → Logged β) : Logged β :=
  match x.result with
  | .ok a => ⟨x.log ++ (f a).log, (f a).result⟩
  | .error failure => ⟨x.log, .error failure⟩

instance : Monad Logged where
  pure := pure
  bind := bind

end Logged

/-- The grammar engine: it cannot be set up, or it gives a tree for every text. -/
inductive Engine where
  | broken (reason : String)
  | ready (parse : Octets → RawTree)

/-- A language's grammar, set up and ready to parse. -/
structure Grammar where
  language : Language
  parse : Octets → RawTree

namespace Grammar

/-- Sets the engine up for a language. -/
def load (engine : Engine) (language : Language) : Logged Grammar :=
  if language.hasGrammar then
    match engine with
    | .broken reason => ⟨[.grammarFailed language reason], .error (.engine language reason)⟩
    | .ready parse => ⟨[.grammarReady language], .ok ⟨language, parse⟩⟩
  else .fail (.noGrammar language)

/-- Parses a text. -/
def read (g : Grammar) (source : Octets) : Logged RawTree :=
  let tree := g.parse source
  let warning := if tree.label.hasError then [Log.Entry.brokenTree] else []
  ⟨warning ++ [.textParsed source.size g.language], .ok tree⟩

end Grammar

end SourceOutline

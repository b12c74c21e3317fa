import SourceOutline.Language
import SourceOutline.Settings.Load

/-!
What is logged while source texts are read. Each entry is an event; its level, the part of the library
that it comes from and its sentence follow from it.
-/
namespace SourceOutline.Log

inductive Level where
  | debug
  | warning
  | error
deriving DecidableEq, Repr

/-- The part of the library that an entry comes from. -/
inductive Origin where
  | grammar
  | parser
  | settings
deriving DecidableEq, Repr

inductive Entry where
  | grammarFailed (language : Language) (reason : String)
  | grammarReady (language : Language)
  | brokenTree
  | textParsed (octets : Nat) (language : Language)
  | diagnosticsFound (count : Nat)
  | settings (warning : Settings.Warning)
deriving DecidableEq, Repr

namespace Entry

def level : Entry → Level
  | grammarFailed _ _ => .error
  | brokenTree | settings _ => .warning
  | grammarReady _ | textParsed _ _ | diagnosticsFound _ => .debug

def origin : Entry → Origin
  | grammarFailed _ _ | grammarReady _ | brokenTree | textParsed _ _ => .grammar
  | diagnosticsFound _ => .parser
  | settings _ => .settings

def message : Entry → String
  | grammarFailed language reason => "Failed to load " ++ language.tag ++ " grammar: " ++ reason
  | grammarReady language => "Created tree-sitter " ++ language.tag ++ " parser"
  | brokenTree => "Parsed tree contains syntax errors"
  | textParsed octets language =>
    "Parsed " ++ Nat.repr octets ++ " bytes of " ++ language.tag ++ " code"
  | diagnosticsFound count => "Collected " ++ Nat.repr count ++ " diagnostics"
  | settings warning => warning.message

/-- Whether an entry is shown where no one asked for entries. -/
def isShown (e : Entry) : Bool := e.level != .debug

end Entry

/-- The sentences of the entries that are shown. -/
def shown (log : List Entry) : List String := (log.filter Entry.isShown).map Entry.message

end SourceOutline.Log

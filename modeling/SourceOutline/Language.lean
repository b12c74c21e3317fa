/-!
The languages that a source text can be tagged with. A tag is compared exactly, case and blanks
included.
-/
namespace SourceOutline

inductive Language where
  | python
  | javascript
  | typescript
  | java
  | csharp
  | cpp
  | go
deriving DecidableEq, Repr, Inhabited

namespace Language

def all : List Language := [python, javascript, typescript, java, csharp, cpp, go]

/-- The tag that stands for a language. -/
def tag : Language → String
  | python => "python"
  | javascript => "javascript"
  | typescript => "typescript"
  | java => "java"
  | csharp => "csharp"
  | cpp => "cpp"
  | go => "go"

def ofTag? (tag : String) : Option Language := all.find? (·.tag == tag)

/-- Whether there is a grammar for a language. -/
def hasGrammar : Language → Bool
  | python => true
  | _ => false

theorem tag_of_ofTag? {t : String} {l : Language} (h : ofTag? t = some l) : l.tag = t := by
  simpa using List.find?_some h

end Language

end SourceOutline

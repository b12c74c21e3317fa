import SourceOutline.Entity.Basic
import SourceOutline.Settings.Basic
import SourceOutline.Store.Walk

/-!
Functions and classes of a tree. Every definition below a node gives one entity, in the order of the
walk; what a broken definition lacks is left empty, and a name that it lacks is `unknown`.
-/
namespace SourceOutline

namespace Store

/-- The text of a node that may be absent. -/
def textOf? (s : Store) (n : Option NodeId) (otherwise : Option String) : Option String :=
  match n with
  | none => otherwise
  | some n => some (s.text n)

/-- The text of a node, or another text if there is no node. -/
def textOf (s : Store) (n : Option NodeId) (otherwise : String := "") : String :=
  match n with
  | none => otherwise
  | some n => s.text n

/-- The name of a definition or of a parameter. -/
def nameOf (s : Store) (n : NodeId) : String :=
  s.textOf (s.childOfKind n ["identifier"]) "unknown"

/-- The text of a node's last child. -/
def lastText? (s : Store) (n : NodeId) : Option String := (s.children n).getLast?.map s.text

/-- The parameter that one child of a parameter list declares; `*args`, `/` and the like declare none. -/
def parameter? (s : Store) (settings : Settings) (n : NodeId) : Option Entity.Parameter :=
  let typeText := (s.childOfKind n ["type"]).map s.text
  match s.kind n with
  | "identifier" => some { name := s.text n }
  | "default_parameter" => some { name := s.nameOf n, value := s.lastText? n }
  | "typed_parameter" => some { name := s.nameOf n, typeText }
  | "typed_default_parameter" =>
    if settings.typedDefaultParameters then
      some { name := s.nameOf n, typeText, value := s.lastText? n }
    else none
  | _ => none

/-- The parameters that a parameter list declares, in order. -/
def parameters (s : Store) (settings : Settings) (n : Option NodeId) : List Entity.Parameter :=
  match n with
  | none => []
  | some n => (s.children n).filterMap (s.parameter? settings)

/-- The texts of the decorators that a wrapper lists. -/
def ownDecorators (s : Store) (n : NodeId) : List String :=
  ((s.children n).filter fun c => s.kind c == "decorator").map s.text

/-- The decorators of the wrappers met on the way up, for at most `depth` of them. -/
def wrapperDecorators (s : Store) : Nat → Option NodeId → List String
  | 0, _ => []
  | _, none => []
  | depth + 1, some n =>
    if s.kind n == "decorated_definition" then
      s.ownDecorators n ++ wrapperDecorators s depth (s.parent n)
    else []

/-- The decorators of a definition, those of its closest wrapper first. -/
def decorators (s : Store) (n : NodeId) (maxDepth : Int := (default : Settings).maxDecoratorDepth) :
    List String :=
  s.wrapperDecorators maxDepth.toNat (s.parent n)

/-- The entity of a function definition. -/
def function (s : Store) (settings : Settings) (n : NodeId) : Entity.Function where
  name := s.nameOf n
  parameters := s.parameters settings (s.childOfKind n ["parameters"])
  body := s.textOf (s.childOfKind n ["block"])
  startLine := s.startLine n
  endLine := s.endLine n
  isAsync := (s.children n).any fun c => s.text c == "async"
  decorators := s.decorators n settings.maxDecoratorDepth

/-- All functions below a node, methods and inner functions included. -/
def functions (s : Store) (settings : Settings) (n : NodeId) : List Entity.Function :=
  (s.findByKind n "function_definition").map (s.function settings)

/-- The base classes that an argument list names; keyword arguments name none. -/
def superclasses (s : Store) (n : Option NodeId) : List String :=
  match n with
  | none => []
  | some n =>
    ((s.children n).filter fun c => ["identifier", "attribute"].contains (s.kind c)).map s.text

/-- The entity of a class definition; its methods are the functions below its own body. -/
def classEntity (s : Store) (settings : Settings) (n : NodeId) : Entity.Class where
  name := s.nameOf n
  superclasses := s.superclasses (s.childOfKind n ["argument_list"])
  methods := (s.childOfKind n ["block"]).elim [] (s.functions settings)
  startLine := s.startLine n
  endLine := s.endLine n
  decorators := s.decorators n settings.maxDecoratorDepth

/-- All classes below a node. -/
def classes (s : Store) (settings : Settings) (n : NodeId) : List Entity.Class :=
  (s.findByKind n "class_definition").map (s.classEntity settings)

@[simp] theorem wrapperDecorators_none (s : Store) (depth : Nat) :
    s.wrapperDecorators depth none = [] := by
  cases depth <;> rfl

end Store

end SourceOutline

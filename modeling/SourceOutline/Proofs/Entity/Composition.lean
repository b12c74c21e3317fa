import SourceOutline.Entity.Definition
import SourceOutline.Proofs.Store.Composition

/-! How the functions and the classes below a node are put together. They are the entity of the node, if it
is a definition, and then those below its children; and a definition gives the same entity from wherever it
is come to, also where it is wrapped in decorators that lie above the node started from. -/
namespace SourceOutline.Store

/-- The entities below each node, read from the definitions of one kind: one entity for each time that a
walk meets a definition, in its order. Which entity that is depends on the definition alone, so reading
that starts at the definition gives the same one, before all others. -/
structure ReadBelow {α : Type} (s : Store) (kind : String) (entity : NodeId → α)
    (entities : NodeId → List α) : Prop where
  eq_append : ∀ n, entities n =
    (if s.kind n = kind then [entity n] else []) ++ (s.children n).flatMap entities
  eq_map : ∀ n, entities n = ((s.walk n).filter fun m => s.kind m == kind).map entity
  head?_eq : ∀ m, s.kind m = kind → (entities m).head? = some (entity m)
  mem_of_reached : ∀ n m, Relation.ReflTransGen s.Lists n m → s.kind m = kind → entity m ∈ entities n

variable {s : Store}

theorem Acyclic.readBelow {α : Type} (hs : s.Acyclic) (kind : String) (entity : NodeId → α) :
    s.ReadBelow kind entity fun n => (s.findByKind n kind).map entity := by
  have happend : ∀ n, (s.findByKind n kind).map entity =
      (if s.kind n = kind then [entity n] else []) ++
        (s.children n).flatMap fun c => (s.findByKind c kind).map entity := by
    intro n
    rw [hs.findByKind_eq_append, List.map_append, List.map_flatMap]
    split_ifs <;> rfl
  constructor
  case eq_append => exact happend
  case eq_map => exact fun n => rfl
  case head?_eq =>
    intro m hm
    rw [happend, if_pos hm]
    rfl
  case mem_of_reached =>
    intro n m hm hkind
    apply List.mem_map_of_mem
    rw [findByKind, List.mem_filter]
    exact ⟨hs.mem_walk_iff.mpr hm,by simpa using hkind⟩

/-- Functions and classes are put together from those below the children, and the entity of a definition
is the same from wherever it is come to. -/
theorem definitions_composed (hs : s.Acyclic) (settings : Settings) :
    s.ReadBelow "function_definition" (s.function settings) (s.functions settings) ∧
      s.ReadBelow "class_definition" (s.classEntity settings) (s.classes settings) :=
  ⟨hs.readBelow _ _,hs.readBelow _ _⟩

/-- A module with a function without a name, in which there is a class, and with that class once more. The
class has a method that is wrapped in a decorator. -/
def sharedClass : Store where
  nodes := #[
    ⟨"identifier", ⟨⟨3, 5⟩, ⟨3, 6⟩⟩, "f", [], some 1⟩,
    ⟨"function_definition", ⟨⟨3, 1⟩, ⟨3, 12⟩⟩, "def f(): 0", [0], some 3⟩,
    ⟨"decorator", ⟨⟨2, 1⟩, ⟨2, 3⟩⟩, "@d", [], some 3⟩,
    ⟨"decorated_definition", ⟨⟨2, 1⟩, ⟨3, 12⟩⟩, "@d\n def f(): 0", [2, 1], some 4⟩,
    ⟨"block", ⟨⟨2, 1⟩, ⟨3, 12⟩⟩, "@d\n def f(): 0", [3], some 6⟩,
    ⟨"identifier", ⟨⟨1, 6⟩, ⟨1, 7⟩⟩, "A", [], some 6⟩,
    ⟨"class_definition", ⟨⟨1, 0⟩, ⟨3, 12⟩⟩, "class A:\n @d\n def f(): 0", [5, 4], some 8⟩,
    ⟨"function_definition", ⟨⟨0, 0⟩, ⟨3, 12⟩⟩, "def\nclass A:\n @d\n def f(): 0", [6], some 8⟩,
    ⟨"module", ⟨⟨0, 0⟩, ⟨4, 0⟩⟩, "def\nclass A:\n @d\n def f(): 0\n", [7, 6], none⟩]

/-- The function `f` that is met in the class, with the decorator around it. -/
def sharedMethod : Entity.Function where
  name := "f"
  parameters := []
  body := ""
  startLine := 3
  endLine := 3
  decorators := ["@d"]

theorem definitions_composed_sharedClass :
    sharedClass.Acyclic ∧
    sharedClass.functions {} 8 = [⟨"unknown", [], "", 0, 3, false, []⟩, sharedMethod, sharedMethod] ∧
    sharedClass.functions {} 1 = [sharedMethod] ++ [] ∧
    sharedClass.classes {} 8 = [] ++ ([⟨"A", [], [sharedMethod], 1, 3, []⟩] ++
      [⟨"A", [], [sharedMethod], 1, 3, []⟩]) := by
  have hs : sharedClass.Acyclic := acyclic_of_lt (by decide)
  obtain ⟨hfunctions,hclasses⟩ := definitions_composed hs {}
  exact ⟨hs,(hfunctions.eq_append 8).trans (by decide),(hfunctions.eq_append 1).trans (by decide),
    (hclasses.eq_append 8).trans (by decide)⟩

end SourceOutline.Store

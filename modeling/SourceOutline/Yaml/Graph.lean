import SourceOutline.Yaml.Tag

/-!
A YAML document with its references followed: nodes are named by numbers, and one node may stand in
several places, even inside itself.
-/
namespace SourceOutline.Yaml

/-- What stands in front of a node: the name it can be referred to by, and its tag. -/
structure Properties where
  anchor : Option (List Char) := none
  tag : Option (List Char) := none
  /-- Where they start, if there are any. -/
  start : Option Mark := none
deriving DecidableEq, Repr, Inhabited

inductive Content where
  | scalar (text : List Text.Symbol)
  | sequence (items : List Nat)
  | mapping (entries : List (Nat × Nat))
deriving DecidableEq, Repr, Inhabited

/-- What kind of content it is, as messages have it. -/
def Content.kindName : Content → String
  | scalar _ => "scalar"
  | sequence _ => "sequence"
  | mapping _ => "mapping"

structure Vertex where
  tag : Tag
  content : Content
  place : Mark
deriving DecidableEq, Repr, Inhabited

/-- The nodes of a document, and the names that some of them are referred to by. -/
structure Graph where
  vertices : Array Vertex := #[]
  anchors : List (List Char × Nat) := []
deriving Repr, Inhabited

/-- The tag of a scalar: the one that is written, or the one that its form decides. -/
def scalarTag (properties : Properties) (text : List Text.Symbol) (plain : Bool) : Tag :=
  let byForm : Tag := ((Text.chars? text).map Tag.ofForm).getD .text
  match properties.tag with
  | none => if plain then byForm else .text
  | some ['!'] => byForm
  | some name => .ofName name

/-- The tag of a collection. -/
def collectionTag (properties : Properties) (usual : Tag) : Tag :=
  match properties.tag with
  | none => usual
  | some ['!'] => usual
  | some name => .ofName name

namespace Graph

def vertex (g : Graph) (n : Nat) : Vertex := g.vertices.getD n default

def tag (g : Graph) (n : Nat) : Tag := (g.vertex n).tag

def content (g : Graph) (n : Nat) : Content := (g.vertex n).content

def place (g : Graph) (n : Nat) : Mark := (g.vertex n).place

/-- The node that a name refers to. -/
def named? (g : Graph) (name : List Char) : Option Nat := (g.anchors.find? (·.1 == name)).map (·.2)

/-- Adds a node, under its anchor if it has one. No two nodes have the same anchor. -/
def add (g : Graph) (anchor : Option (List Char)) (v : Vertex) : Except Fault (Nat × Graph) :=
  let n := g.vertices.size
  let vertices := g.vertices.push v
  match anchor with
  | none => .ok (n, { g with vertices })
  | some name =>
    match g.named? name with
    | some first =>
      .error (.within ("found duplicate anchor " ++ quoted name ++ "; first occurrence") (g.place first)
        v.place "second occurrence")
    | none => .ok (n, { vertices, anchors := (name, n) :: g.anchors })

/-- Sets what a collection holds. -/
def fill (g : Graph) (n : Nat) (content : Content) : Graph :=
  { g with vertices := g.vertices.modify n fun v => { v with content } }

end Graph

end SourceOutline.Yaml

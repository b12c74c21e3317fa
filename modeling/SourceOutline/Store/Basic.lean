import SourceOutline.Position

/-!
Linked nodes. A node is named by a number; its list of children and its parent link are stored with it
and are independent of each other, so that each can be changed alone.
-/
namespace SourceOutline

/-- The name of a node within its store. -/
abbrev NodeId := Nat

/-- A node of a tree: what was found, where, and which nodes it is linked to. -/
structure Node where
  kind : String
  span : Span
  text : String
  children : List NodeId := []
  parent : Option NodeId := none
deriving DecidableEq, Repr, Inhabited

/-- The nodes that exist, each under its number. -/
structure Store where
  nodes : Array Node := #[]
deriving DecidableEq, Repr, Inhabited

namespace Store

/-- How many nodes exist. -/
def size (s : Store) : Nat := s.nodes.size

/-- The node of a name. A name that is not in use stands for an empty node without links. -/
def node (s : Store) (n : NodeId) : Node := s.nodes.getD n default

def kind (s : Store) (n : NodeId) : String := (s.node n).kind

def text (s : Store) (n : NodeId) : String := (s.node n).text

def span (s : Store) (n : NodeId) : Span := (s.node n).span

def children (s : Store) (n : NodeId) : List NodeId := (s.node n).children

def parent (s : Store) (n : NodeId) : Option NodeId := (s.node n).parent

/-- The row on which a node starts. -/
def startLine (s : Store) (n : NodeId) : Nat := (s.span n).start.row

/-- The row on which a node ends. -/
def endLine (s : Store) (n : NodeId) : Nat := (s.span n).stop.row

/-- Whether a node is the grammar's mark for a piece of text that it could not place. -/
def isError (s : Store) (n : NodeId) : Bool := s.kind n == "ERROR"

/-- Adds a node and gives its name. -/
def add (s : Store) (node : Node) : NodeId × Store :=
  (s.size, ⟨s.nodes.push node⟩)

/-- Changes one node. -/
def update (s : Store) (n : NodeId) (change : Node → Node) : Store :=
  ⟨s.nodes.modify n change⟩

def setParent (s : Store) (n : NodeId) (parent : Option NodeId) : Store :=
  s.update n fun node => { node with parent }

def setKind (s : Store) (n : NodeId) (kind : String) : Store :=
  s.update n fun node => { node with kind }

def setText (s : Store) (n : NodeId) (text : String) : Store :=
  s.update n fun node => { node with text }

def setChildren (s : Store) (n : NodeId) (children : List NodeId) : Store :=
  s.update n fun node => { node with children }

/-- An index into a list: a negative one counts from the end. -/
def place (length : Nat) (index : Int) : Int := if index < 0 then index + length else index

/-- Lists a child at a place among a node's children, or at the nearest end if there is no such place,
and makes the node its parent. -/
def insertChild (s : Store) (n child : NodeId) (index : Int) : Store :=
  let children := s.children n
  let i := min (place children.length index).toNat children.length
  (s.setChildren n (children.insertIdx i child)).setParent child (some n)

/-- Takes one entry off a node's list of children, if there is one at the place. -/
def removeChild (s : Store) (n : NodeId) (index : Int) : Store :=
  let children := s.children n
  let i := place children.length index
  if i < 0 then s else s.setChildren n (children.eraseIdx i.toNat)

/-- Makes a node the parent of each node of a list. -/
def adopt (s : Store) (n : NodeId) (children : List NodeId) : Store :=
  children.foldl (fun s c => s.setParent c (some n)) s

@[simp] theorem size_add (s : Store) (x : Node) : (s.add x).2.size = s.size + 1 := by
  simp [add, size]

@[simp] theorem size_update (s : Store) (n : NodeId) (f : Node → Node) :
    (s.update n f).size = s.size := by
  simp [update, size]

theorem node_of_size_le (s : Store) {n : NodeId} (h : s.size ≤ n) : s.node n = default := by
  simp only [size] at h
  simp [node, Array.getElem?_eq_none h]

theorem node_add_self (s : Store) (x : Node) : (s.add x).2.node s.size = x := by
  simp [add, node, size]

theorem node_add_of_lt (s : Store) (x : Node) {n : NodeId} (h : n < s.size) :
    (s.add x).2.node n = s.node n := by
  simp only [size] at h
  simp [add, node, Array.getElem?_push, Nat.ne_of_lt h]

theorem node_update_self (s : Store) (f : Node → Node) {n : NodeId} (h : n < s.size) :
    (s.update n f).node n = f (s.node n) := by
  simp only [size] at h
  simp [update, node, h, Array.getElem_modify]

theorem node_update_of_ne (s : Store) (f : Node → Node) {n m : NodeId} (h : n ≠ m) :
    (s.update n f).node m = s.node m := by
  simp [update, node, Array.getElem?_modify, h]

end Store

end SourceOutline

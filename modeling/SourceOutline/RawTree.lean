import SourceOutline.Position

/-!
The concrete syntax tree as a grammar engine hands it over. A tree is a label and its subtrees; its
labels in pre-order, together with each label's number of subtrees, determine it.
-/
namespace SourceOutline

/-- What the engine says of one node: its kind, its octet range, its span and two flags. -/
structure RawNode where
  kind : String
  startByte : Nat
  stopByte : Nat
  span : Span
  hasError : Bool := false
  isMissing : Bool := false
deriving DecidableEq, Repr, Inhabited

inductive RawTree where
  | node (label : RawNode) (children : List RawTree)
deriving Repr, Inhabited

namespace RawTree

def label : RawTree → RawNode
  | node l _ => l

def children : RawTree → List RawTree
  | node _ cs => cs

mutual

/-- The number of nodes of a tree, its root included. -/
def size : RawTree → Nat
  | node _ cs => 1 + sizeAll cs

/-- The number of nodes of a list of trees. -/
def sizeAll : List RawTree → Nat
  | [] => 0
  | t :: ts => t.size + sizeAll ts

end

mutual

/-- The labels of a tree, each before those of its subtrees. -/
def preorder : RawTree → List RawNode
  | node l cs => l :: preorderAll cs

/-- The labels of a list of trees, tree after tree. -/
def preorderAll : List RawTree → List RawNode
  | [] => []
  | t :: ts => t.preorder ++ preorderAll ts

end

theorem size_eq (t : RawTree) : t.size = 1 + sizeAll t.children := by
  cases t; simp [size, children]

theorem size_pos (t : RawTree) : 0 < t.size := by
  rw [size_eq]; omega

@[simp] theorem sizeAll_nil : sizeAll [] = 0 := by simp [sizeAll]

@[simp] theorem sizeAll_cons (t : RawTree) (ts : List RawTree) :
    sizeAll (t :: ts) = t.size + sizeAll ts := by simp [sizeAll]

@[simp] theorem sizeAll_append (ts us : List RawTree) :
    sizeAll (ts ++ us) = sizeAll ts + sizeAll us := by
  induction ts with
  | nil => simp
  | cons t ts ih => simp [ih, Nat.add_assoc]

/-- The subtree that a path leads to, each step of it being the index of a child. -/
def subtree? : RawTree → List Nat → Option RawTree
  | t, [] => some t
  | t, i :: path => t.children[i]?.bind fun c => subtree? c path

@[simp] theorem subtree?_nil (t : RawTree) : t.subtree? [] = some t := by simp [subtree?]

theorem subtree?_append (t : RawTree) (path more : List Nat) :
    t.subtree? (path ++ more) = (t.subtree? path).bind fun u => u.subtree? more := by
  induction path generalizing t with
  | nil => simp
  | cons i path ih =>
    simp only [List.cons_append, subtree?]
    cases t.children[i]? with
    | none => simp
    | some c => simp [ih]

/--
Reads one tree from labels in pre-order, each with its number of subtrees, and gives the labels that
are left. The count `n` bounds the number of labels read, so it is enough to be their number.
-/
def readForest : Nat → Nat → List (RawNode × Nat) → Option (List RawTree × List (RawNode × Nat))
  | _, 0, rest => some ([], rest)
  | 0, _ + 1, _ => none
  | _ + 1, _ + 1, [] => none
  | n + 1, k + 1, (l, arity) :: rest => do
    let (cs, rest) ← readForest n arity rest
    let (ts, rest) ← readForest n k rest
    pure (node l cs :: ts, rest)

/-- The tree whose labels in pre-order, with their numbers of subtrees, are `records`. -/
def ofPreorder? (records : List (RawNode × Nat)) : Option RawTree :=
  match readForest records.length 1 records with
  | some ([t], []) => some t
  | _ => none

end RawTree

end SourceOutline

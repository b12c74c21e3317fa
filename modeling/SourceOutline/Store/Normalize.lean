import SourceOutline.RawTree
import SourceOutline.Store.Basic
import SourceOutline.Text.Utf8

/-!
From an engine's tree to linked nodes. A loop over a stack of half-read nodes makes each node once its
whole subtree has been made, and only then makes it the parent of its children; no recursion follows
the depth of the tree.
-/
namespace SourceOutline

/--
A node of the engine's tree that is being read: the children still to be read, and the nodes already
made of the earlier ones, latest first.
-/
structure Frame where
  raw : RawTree
  pending : List RawTree
  finished : List NodeId

/-- A tree that is being read: the nodes made so far, and the frames from the latest one to the root. -/
structure Build where
  store : Store
  top : Frame
  below : List Frame

namespace Frame

/-- A node of which nothing has been read yet. -/
def start (raw : RawTree) : Frame := ⟨raw, raw.children, []⟩

/-- What is still to be done for a frame: each node below is entered once and left once, and the frame
itself is left once. -/
def work (f : Frame) : Nat := 2 * RawTree.sizeAll f.pending + 1

end Frame

namespace Store

/-- Makes the node of a raw node whose children have been made, and becomes their parent link. -/
def make (s : Store) (source : Octets) (raw : RawNode) (children : List NodeId) : NodeId × Store :=
  let (n, s) := s.add {
    kind := raw.kind
    span := raw.span
    text := Text.Utf8.sliceText source raw.startByte raw.stopByte
    children }
  (n, s.adopt n children)

end Store

namespace Build

/-- What is still to be done for a tree. -/
def work (b : Build) : Nat := b.top.work + (b.below.map Frame.work).foldr (· + ·) 0

/-- Enters the next child of the latest frame, or makes its node and goes back to the frame below. -/
def step (source : Octets) (b : Build) : (NodeId × Store) ⊕ Build :=
  match b.top.pending with
  | child :: pending =>
    .inr { b with top := .start child, below := { b.top with pending } :: b.below }
  | [] =>
    let (n, store) := b.store.make source b.top.raw.label b.top.finished.reverse
    match b.below with
    | [] => .inl (n, store)
    | parent :: below =>
      .inr { store, top := { parent with finished := n :: parent.finished }, below }

/-- Each step leaves less to be done. -/
theorem work_step {source : Octets} {b b' : Build} (h : b.step source = .inr b') :
    b'.work < b.work := by
  obtain ⟨store, ⟨raw, pending, finished⟩, below⟩ := b
  cases pending with
  | cons child pending =>
    simp only [step, Sum.inr.injEq] at h
    subst h
    simp only [work, Frame.work, Frame.start, List.map_cons, List.foldr_cons, RawTree.sizeAll_cons,
      RawTree.size_eq child]
    omega
  | nil =>
    cases below with
    | nil => simp [step] at h
    | cons parent below =>
      simp only [step, Sum.inr.injEq] at h
      subst h
      simp only [work, Frame.work, List.map_cons, List.foldr_cons, RawTree.sizeAll_nil]
      omega

/-- Steps until the root has been made. -/
def run (source : Octets) (b : Build) : NodeId × Store :=
  match _h : b.step source with
  | .inl result => result
  | .inr next => run source next
termination_by b.work
decreasing_by exact work_step ‹_›

end Build

/-- The linked nodes of an engine's tree over a source text, and the name of their root. -/
def RawTree.normalize (raw : RawTree) (source : Octets) : NodeId × Store :=
  Build.run source ⟨{}, .start raw, []⟩

mutual

/-- Makes the nodes of a tree by recursion on it, children before their parent. -/
def Store.grow (s : Store) (source : Octets) : RawTree → NodeId × Store
  | .node label children =>
    let (names, s) := s.growAll source children
    s.make source label names

/-- Makes the nodes of a list of trees, one tree after the other. -/
def Store.growAll (s : Store) (source : Octets) : List RawTree → List NodeId × Store
  | [] => ([], s)
  | t :: ts =>
    let (n, s) := s.grow source t
    let (names, s) := s.growAll source ts
    (n :: names, s)

end

end SourceOutline

import Mathlib.Data.List.Forall2
import SourceOutline.Proofs.Normalize.Loop

/-! What the tree of a source text is: a copy of the engine's tree, with every node where the engine has
one, and a tree in its links, with every node listed once and by its parent. -/
namespace SourceOutline

/-- A slice is cut at both ends like a list: an end past the text is the text's end. -/
theorem Text.Utf8.slice_eq (text : Octets) (start stop : ℕ) :
    slice text start stop = (text.toList.take stop).drop start := by
  rw [slice, Array.toList_extract, List.extract_eq_take_drop, List.drop_take]

theorem Text.Utf8.sliceText_eq_empty {text : Octets} {start stop : ℕ}
    (h : min stop text.size ≤ start) : sliceText text start stop = "" := by
  have hnil : slice text start stop = [] := by
    rw [slice_eq, List.drop_eq_nil_iff, List.length_take, Array.length_toList]
    exact h
  rw [sliceText, hnil]
  rfl

namespace RawTree

mutual

theorem length_preorder : ∀ t : RawTree, t.preorder.length = t.size
  | .node l cs => by
    rw [preorder, size, List.length_cons, length_preorderAll cs, Nat.add_comm]

theorem length_preorderAll : ∀ ts : List RawTree, (preorderAll ts).length = sizeAll ts
  | [] => by simp [preorderAll]
  | t :: ts => by
    rw [preorderAll, sizeAll, List.length_append, length_preorder t, length_preorderAll ts]

end

end RawTree

section Related
variable {α β γ δ : Type} {R S : α → β → Prop} {T : γ → δ → Prop}

lemma rel_getElem? {xs : List α} {ys : List β} (h : List.Forall₂ R xs ys) (i : ℕ) :
    Option.Rel R xs[i]? ys[i]? := by
  induction h generalizing i with
  | nil => exact .none
  | cons hxy _ ih =>
    cases i with
    | zero => exact .some hxy
    | succ i => exact ih i

lemma rel_bind {x : Option α} {y : Option β} {f : α → Option γ} {g : β → Option δ}
    (h : Option.Rel R x y) (hfg : ∀ a b, R a b → Option.Rel T (f a) (g b)) :
    Option.Rel T (x.bind f) (y.bind g) := by
  cases h with
  | none => exact .none
  | some hab => exact hfg _ _ hab

lemma rel_imp {x : Option α} {y : Option β} (h : Option.Rel R x y) (hRS : ∀ a b, R a b → S a b) :
    Option.Rel S x y := by
  cases h with
  | none => exact .none
  | some hab => exact .some (hRS _ _ hab)

lemma exists_of_mem_right {xs : List α} {ys : List β}
    (h : List.Forall₂ R xs ys) {y : β} (hy : y ∈ ys) : ∃ x ∈ xs, R x y := by
  induction h with
  | nil => simp at hy
  | cons hxy _ ih =>
    rcases List.mem_cons.mp hy with rfl | hy
    · exact ⟨_,List.mem_cons_self,hxy⟩
    · obtain ⟨x,hx,hxy⟩ := ih hy
      exact ⟨x,List.mem_cons_of_mem _ hx,hxy⟩

end Related

namespace Store
variable {s : Store} {source : Octets}

/-- A path that leads somewhere in one of the trees leads to the copy of that in the other. -/
theorem Mirrors.rel_path {t : RawTree} {n : NodeId} (h : s.Mirrors source t n) (path : List ℕ) :
    Option.Rel (s.Mirrors source) (t.subtree? path) (s.descendant? n path) := by
  induction path generalizing t n with
  | nil => simpa using Option.Rel.some h
  | cons i path ih =>
    obtain ⟨l,cs⟩ := t
    have hcs := mirrorsAll_iff_forall₂.mp (mirrors_node.mp h).2
    simp only [RawTree.subtree?, RawTree.children, descendant?]
    exact rel_bind (rel_getElem? hcs i) fun _ _ hc => ih hc

/-- A node stands for a raw node: it has its kind, its place, its text and as many children. -/
structure StandsFor (s : Store) (source : Octets) (t : RawTree) (n : NodeId) : Prop where
  kind_eq : s.kind n = t.label.kind
  span_eq : s.span n = t.label.span
  text_eq : s.text n = String.ofList (Text.Utf8.decodeLossy
    ((source.toList.take t.label.stopByte).drop t.label.startByte))
  text_eq_empty : min t.label.stopByte source.size ≤ t.label.startByte → s.text n = ""
  length_children : (s.children n).length = t.children.length

theorem Mirrors.standsFor {t : RawTree} {n : NodeId} (h : s.Mirrors source t n) :
    s.StandsFor source t n := by
  obtain ⟨l,cs⟩ := t
  obtain ⟨hlabel,hcs⟩ := mirrors_node.mp h
  constructor
  case kind_eq => exact hlabel.kind_eq
  case span_eq => exact hlabel.span_eq
  case text_eq => rw [hlabel.text_eq, Text.Utf8.sliceText, Text.Utf8.slice_eq]; rfl
  case text_eq_empty =>
    intro hempty
    rw [hlabel.text_eq]
    exact Text.Utf8.sliceText_eq_empty hempty
  case length_children => exact (mirrorsAll_iff_forall₂.mp hcs).length_eq.symm

mutual

/-- A walk over a copy meets the labels of the engine's tree in pre-order. -/
theorem Mirrors.forall₂_walk (hs : s.Acyclic) : ∀ (t : RawTree) (n : NodeId), s.Mirrors source t n →
    List.Forall₂ (s.Carries source) t.preorder (s.walk n)
  | .node l cs, n, h => by
    rw [mirrors_node] at h
    rw [RawTree.preorder, hs.walk_eq_cons]
    exact .cons h.1 (MirrorsAll.forall₂_walk hs cs _ h.2)

theorem MirrorsAll.forall₂_walk (hs : s.Acyclic) : ∀ (ts : List RawTree) (ns : List NodeId),
    s.MirrorsAll source ts ns →
    List.Forall₂ (s.Carries source) (RawTree.preorderAll ts) (ns.flatMap s.walk)
  | [], [], _ => by simp [RawTree.preorderAll]
  | t :: ts, n :: ns, h => by
    rw [MirrorsAll] at h
    rw [RawTree.preorderAll, List.flatMap_cons]
    exact List.rel_append (Mirrors.forall₂_walk hs t n h.1) (MirrorsAll.forall₂_walk hs ts ns h.2)

end

end Store

namespace RawTree
variable (raw : RawTree) (source : Octets)

theorem forest_normalize : (raw.normalize source).2.Forest [(raw.normalize source).1] := by
  rw [normalize_eq_grow]
  exact Store.forest_empty.grow source raw

theorem mirrors_normalize :
    (raw.normalize source).2.Mirrors source raw (raw.normalize source).1 := by
  rw [normalize_eq_grow]
  exact Store.forest_empty.mirrors_grow source raw

/-- The tree of a text, walked from its root, against the labels of the engine's tree. -/
theorem forall₂_walk_normalize : List.Forall₂ ((raw.normalize source).2.Carries source)
    raw.preorder ((raw.normalize source).2.walk (raw.normalize source).1) :=
  Store.Mirrors.forall₂_walk (raw.forest_normalize source).acyclic raw _ (raw.mirrors_normalize source)

/-- The loop ends, with the nodes that the recursion on the tree makes. Exactly the paths of the
engine's tree lead from the root to a node, and to the one that stands for the raw node there; so the
walk from the root meets the same kinds in the same order, and as many nodes as the engine's tree has. -/
theorem normalize_standsFor :
    (∃ last, Build.Reaches source (.start raw) last ∧
      last.step source = .inl (raw.normalize source)) ∧
    raw.normalize source = ({} : Store).grow source raw ∧
    (∀ path, Option.Rel ((raw.normalize source).2.StandsFor source) (raw.subtree? path)
      ((raw.normalize source).2.descendant? (raw.normalize source).1 path)) ∧
    ((raw.normalize source).2.walk (raw.normalize source).1).map (raw.normalize source).2.kind =
      raw.preorder.map RawNode.kind ∧
    (raw.normalize source).2.countFrom (raw.normalize source).1 = raw.size := by
  have hwalk := raw.forall₂_walk_normalize source
  refine ⟨Build.exists_last source (.start raw),raw.normalize_eq_grow source,?_,?_,?_⟩
  · intro path
    exact rel_imp ((raw.mirrors_normalize source).rel_path path) fun _ _ h => h.standsFor
  · have hkinds : List.Forall₂ (· = ·) (raw.preorder.map RawNode.kind)
        (((raw.normalize source).2.walk (raw.normalize source).1).map (raw.normalize source).2.kind) :=
      List.forall₂_map_left_iff.mpr (List.forall₂_map_right_iff.mpr
        (hwalk.imp fun _ _ h => h.kind_eq.symm))
    rw [List.forall₂_eq_eq_eq] at hkinds
    exact hkinds.symm
  · rw [Store.countFrom, ← hwalk.length_eq, length_preorder]

/-- There are as many nodes as the engine's tree has. The root has no parent, every other node is listed
once and by its parent, every node lies below the root, and no way down or up has a cycle. -/
theorem normalize_linked :
    (raw.normalize source).2.size = raw.size ∧
    (raw.normalize source).2.Linked (raw.normalize source).1 := by
  refine ⟨?_,(raw.forest_normalize source).linked⟩
  rw [normalize_eq_grow, Store.size_grow]
  exact Nat.zero_add raw.size

end RawTree

end SourceOutline

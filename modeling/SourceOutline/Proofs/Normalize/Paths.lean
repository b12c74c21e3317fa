import Mathlib.Data.List.Induction
import SourceOutline.Proofs.Normalize.Tree
import SourceOutline.Proofs.Store.Ancestry

/-! The way up from a node of a text's tree against the ways down. A single path leads from the root to each
node, and the climb from the node goes back along that path; so a node is met on the way up just from those
that are met on the way down from it. -/
namespace SourceOutline

namespace Store
variable {s : Store} {roots : List NodeId} {n root : NodeId} {path other : List ℕ} {i : ℕ}

lemma descendant?_concat (s : Store) (root : NodeId) (path : List ℕ) (i : ℕ) :
    s.descendant? root (path ++ [i]) = (s.descendant? root path).bind fun p => (s.children p)[i]? := by
  rw [descendant?_append]
  congr 1
  funext p
  simp [descendant?]

lemma exists_descendant?_eq (h : Relation.ReflTransGen s.Lists root n) :
    ∃ path, s.descendant? root path = some n := by
  induction h with
  | refl => exact ⟨[],descendant?_nil s root⟩
  | tail _ hn ih =>
    obtain ⟨path,hpath⟩ := ih
    obtain ⟨i,hi⟩ := List.mem_iff_getElem?.mp hn
    exact ⟨path ++ [i],by rw [descendant?_concat, hpath, Option.bind_some, hi]⟩

namespace Forest

/-- Before its last step a path comes to the parent of the node that it leads to. -/
lemma exists_parent_of_concat (h : s.Forest roots) (hn : s.descendant? root (path ++ [i]) = some n) :
    ∃ p, s.descendant? root path = some p ∧ (s.children p)[i]? = some n ∧ s.parent n = some p := by
  rw [descendant?_concat] at hn
  obtain ⟨p,hp,hi⟩ := Option.bind_eq_some_iff.mp hn
  exact ⟨p,hp,hi,(h.mem_children_iff p n).mp (List.mem_of_getElem? hi)⟩

/-- No path but the empty one leads to a node without a parent. -/
lemma eq_nil_of_parent_eq_none (h : s.Forest roots) (hn : s.parent n = none)
    (hpath : s.descendant? root path = some n) : path = [] := by
  rcases List.eq_nil_or_concat' path with rfl | ⟨path,i,rfl⟩
  · rfl
  · obtain ⟨p,-,-,hp⟩ := h.exists_parent_of_concat hpath
    rw [hn] at hp
    cases hp

/-- Only one path leads from a root to a node. -/
theorem path_unique (h : s.Forest roots) (hroot : s.parent root = none)
    (hpath : s.descendant? root path = some n) (hother : s.descendant? root other = some n) :
    other = path := by
  induction path using List.reverseRecOn generalizing n other with
  | nil =>
    obtain rfl : root = n := by simpa using hpath
    exact h.eq_nil_of_parent_eq_none hroot hother
  | append_singleton path i ih =>
    obtain ⟨p,hp,hi,hparent⟩ := h.exists_parent_of_concat hpath
    rcases List.eq_nil_or_concat' other with rfl | ⟨other,j,rfl⟩
    · obtain rfl : root = n := by simpa using hother
      rw [hroot] at hparent
      cases hparent
    · obtain ⟨q,hq,hj,hparent'⟩ := h.exists_parent_of_concat hother
      obtain rfl : q = p := Option.some.inj (hparent'.symm.trans hparent)
      obtain ⟨hlt,-⟩ := List.getElem?_eq_some_iff.mp hj
      have hij : j = i := (List.getElem?_inj hlt (h.children_nodup q)).mp (hj.trans hi.symm)
      rw [ih hp hq, hij]

/-- The way up from a node leads back through the nodes that the path to it leads through. -/
theorem reverse_of_ascends (h : s.Forest roots) (hroot : s.parent root = none) {above : List NodeId}
    (hpath : s.descendant? root path = some n) (habove : s.Ascends (s.parent n) above) :
    above.reverse.map some = (List.range path.length).map fun k => s.descendant? root (path.take k) := by
  induction path using List.reverseRecOn generalizing n above with
  | nil =>
    obtain rfl : root = n := by simpa using hpath
    rw [hroot] at habove
    cases habove
    rfl
  | append_singleton path i ih =>
    obtain ⟨p,hp,-,hparent⟩ := h.exists_parent_of_concat hpath
    rw [hparent] at habove
    cases habove with
    | up rest =>
      have htake : ∀ k ∈ List.range path.length, s.descendant? root ((path ++ [i]).take k) =
          s.descendant? root (path.take k) := by
        intro k hk
        rw [List.take_append_of_le_length (Nat.le_of_lt (List.mem_range.mp hk))]
      rw [List.reverse_cons, List.map_append, ih hp rest, List.length_append, List.length_singleton,
        List.range_succ, List.map_append, List.map_congr_left htake]
      simp [hp]

end Forest

/-- The nodes above a node are those that the one path to it from the root leads through, the last one
first. -/
structure Retraces (s : Store) (root n : NodeId) (path : List ℕ) : Prop where
  leads : s.descendant? root path = some n
  unique : ∀ other, s.descendant? root other = some n → other = path
  length_ancestors : (s.ancestors n).length = path.length
  reverse_ancestors : (s.ancestors n).reverse.map some =
    (List.range path.length).map fun k => s.descendant? root (path.take k)

namespace Forest

theorem exists_retraces (h : s.Forest roots) (hroot : s.parent root = none) (hn : n ∈ s.walk root) :
    ∃ path, s.Retraces root n path := by
  obtain ⟨path,hpath⟩ := exists_descendant?_eq (h.acyclic.mem_walk_iff.mp hn)
  have hreverse := h.reverse_of_ascends hroot hpath (h.acyclicAbove.ascends_ancestors n)
  refine ⟨path,hpath,fun _ hother => h.path_unique hroot hpath hother,?_,hreverse⟩
  simpa using congrArg List.length hreverse

end Forest

/-- The way up ends with the root. -/
lemma Retraces.getLast?_ancestors {path : List ℕ} (h : s.Retraces root n path) (hn : n ≠ root) :
    (s.ancestors n).getLast? = some root := by
  cases path with
  | nil =>
    have hleads := h.leads
    rw [descendant?_nil, Option.some.injEq] at hleads
    exact absurd hleads.symm hn
  | cons i path =>
    have hhead := congrArg List.head? h.reverse_ancestors
    rw [List.head?_map, List.head?_reverse, List.length_cons, List.range_succ_eq_map] at hhead
    simpa using hhead

end Store

namespace RawTree

/-- A node is above another one just if it is not that one and the walk from it meets that one. From each
node of the tree the climb ends, it meets no node twice, and it goes back along the one path from the root;
so it meets as many nodes as the path has steps, and the root last. -/
theorem ancestors_retrace (raw : RawTree) (source : Octets) :
    let s := (raw.normalize source).2
    let root := (raw.normalize source).1
    (∀ m n, m ∈ s.ancestors n ↔ m ≠ n ∧ n ∈ s.walk m) ∧
    ∀ n ∈ s.walk root, (∀ above, s.Ascends (s.parent n) above ↔ above = s.ancestors n) ∧
      (s.ancestors n).Nodup ∧ (∃ path, s.Retraces root n path) ∧
      (n ≠ root → (s.ancestors n).getLast? = some root) := by
  intro s root
  have hforest : s.Forest [root] := raw.forest_normalize source
  refine ⟨fun m n => hforest.mem_ancestors_iff,?_⟩
  intro n hn
  have habove := hforest.acyclicAbove
  obtain ⟨path,hpath⟩ := hforest.exists_retraces hforest.linked.parent_root hn
  exact ⟨fun _ => habove.ascends_iff,(habove.ascends_ancestors n).nodup habove,⟨path,hpath⟩,
    hpath.getLast?_ancestors⟩

/-- The tree of `f(a)` on a line of its own. -/
def nestedCall : RawTree :=
  .node ⟨"module", 0, 5, ⟨⟨0, 0⟩, ⟨1, 0⟩⟩, false, false⟩ [
    .node ⟨"call", 0, 4, ⟨⟨0, 0⟩, ⟨0, 4⟩⟩, false, false⟩ [
      .node ⟨"identifier", 0, 1, ⟨⟨0, 0⟩, ⟨0, 1⟩⟩, false, false⟩ [],
      .node ⟨"argument_list", 1, 4, ⟨⟨0, 1⟩, ⟨0, 4⟩⟩, false, false⟩ [
        .node ⟨"identifier", 2, 3, ⟨⟨0, 2⟩, ⟨0, 3⟩⟩, false, false⟩ []]]]

theorem ancestors_retrace_nestedCall :
    let s := (nestedCall.normalize (Text.Utf8.octets "f(a)\n")).2
    let root := (nestedCall.normalize (Text.Utf8.octets "f(a)\n")).1
    1 ∈ s.walk root ∧ 1 ≠ root ∧ s.ancestors 1 = [2, 3, root] ∧ s.Ascends (s.parent 1) [2, 3, root] ∧
      (s.ancestors 1).Nodup ∧ (∃ path, s.Retraces root 1 path) ∧
      (s.ancestors 1).getLast? = some root := by
  intro s root
  have hgrow := nestedCall.normalize_eq_grow (Text.Utf8.octets "f(a)\n")
  have hmem : 1 ∈ s.walk root := by
    simp only [s, root, hgrow]
    decide
  have hne : 1 ≠ root := by
    simp only [root, hgrow]
    decide
  have habove : s.ancestors 1 = [2, 3, root] := by
    simp only [s, root, hgrow]
    decide
  obtain ⟨hascends,hnodup,hpath,hlast⟩ := (ancestors_retrace nestedCall _).2 1 hmem
  exact ⟨hmem,hne,habove,(hascends _).mpr habove.symm,hnodup,hpath,hlast hne⟩

end RawTree

end SourceOutline

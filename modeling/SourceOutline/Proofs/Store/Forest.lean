import Mathlib.Data.List.Nodup
import SourceOutline.Proofs.Store.Descent

/-! Stores that hold trees. In a forest the list of children that a node is in and its parent link always
name each other, and a node is older than its parent; a linked tree is what is left of that when a
single root remains. -/
namespace SourceOutline.Store

/-- A store of whole trees with these roots, in which children are made before their parents. -/
structure Forest (s : Store) (roots : List NodeId) : Prop where
  nodup : roots.Nodup
  lt_size : ∀ r ∈ roots, r < s.size
  mem_children_iff : ∀ p c, c ∈ s.children p ↔ s.parent c = some p
  children_nodup : ∀ p, (s.children p).Nodup
  lt_of_mem : ∀ p, ∀ c ∈ s.children p, c < p
  parent_eq_none_iff : ∀ n < s.size, s.parent n = none ↔ n ∈ roots

/-- The link from a node to its parent. -/
def Parent (s : Store) (c p : NodeId) : Prop := s.parent c = some p

/-- All nodes of the store form one tree: each but the root is listed exactly once, by its parent. -/
structure Linked (s : Store) (root : NodeId) : Prop where
  root_lt_size : root < s.size
  parent_root : s.parent root = none
  owned : ∀ n < s.size, n ≠ root → ∃ p < s.size, s.parent n = some p ∧ (s.children p).count n = 1 ∧
    ∀ q, q ≠ p → n ∉ s.children q
  listed_lt_size : ∀ p, ∀ c ∈ s.children p, c < s.size
  reachable : ∀ n < s.size, Relation.ReflTransGen s.Lists root n
  acyclic : s.Acyclic
  parent_acyclic : ∀ n, ¬ Relation.TransGen s.Parent n n

lemma parent_of_size_le (s : Store) {n : NodeId} (h : s.size ≤ n) : s.parent n = none := by
  rw [parent, node_of_size_le s h]
  rfl

theorem forest_empty : ({} : Store).Forest [] where
  nodup := List.nodup_nil
  lt_size := by simp
  mem_children_iff p c := by
    rw [children_of_size_le _ (Nat.zero_le p), parent_of_size_le _ (Nat.zero_le c)]
    simp
  children_nodup p := by
    rw [children_of_size_le _ (Nat.zero_le p)]
    exact List.nodup_nil
  lt_of_mem p := by
    rw [children_of_size_le _ (Nat.zero_le p)]
    simp
  parent_eq_none_iff n h := absurd h (Nat.not_lt_zero n)

namespace Forest
variable {s : Store} {roots : List NodeId}

/-- The order in which the roots are given does not matter. -/
theorem perm {others : List NodeId} (h : s.Forest roots) (hp : roots.Perm others) :
    s.Forest others where
  nodup := hp.nodup_iff.mp h.nodup
  lt_size r hr := h.lt_size r (hp.mem_iff.mpr hr)
  mem_children_iff := h.mem_children_iff
  children_nodup := h.children_nodup
  lt_of_mem := h.lt_of_mem
  parent_eq_none_iff n hn := (h.parent_eq_none_iff n hn).trans hp.mem_iff

lemma lt_of_transGen (h : s.Forest roots) {p c : NodeId} (hc : Relation.TransGen s.Lists p c) :
    c < p := lt_of_transGen_lists (fun p _ => h.lt_of_mem p) hc

theorem acyclic (h : s.Forest roots) : s.Acyclic := acyclic_of_lt fun p _ => h.lt_of_mem p

lemma lists_of_parent (h : s.Forest roots) {p c : NodeId} (hc : s.Parent c p) : s.Lists p c :=
  (h.mem_children_iff p c).mpr hc

theorem parent_acyclic (h : s.Forest roots) (n : NodeId) : ¬ Relation.TransGen s.Parent n n := by
  intro hn
  have hswap : Relation.TransGen (Function.swap s.Parent) n n := Relation.transGen_swap.mpr hn
  exact h.acyclic n (Relation.TransGen.mono (fun _ _ hc => h.lists_of_parent hc) n n hswap)

lemma listed_lt_size (h : s.Forest roots) {p c : NodeId} (hc : s.Lists p c) : c < s.size :=
  Nat.lt_trans (h.lt_of_mem p c hc) (lt_size_of_lists hc)

/-- A node that is no root has one owner, which lists it once and is its parent. -/
theorem owned (h : s.Forest roots) {n : NodeId} (hn : n < s.size) (hr : n ∉ roots) :
    ∃ p < s.size, s.parent n = some p ∧ (s.children p).count n = 1 ∧
      ∀ q, q ≠ p → n ∉ s.children q := by
  obtain ⟨p,hp⟩ := Option.ne_none_iff_exists'.mp (mt (h.parent_eq_none_iff n hn).mp hr)
  have hc : n ∈ s.children p := (h.mem_children_iff p n).mpr hp
  refine ⟨p,lt_size_of_lists hc,hp,List.count_eq_one_of_mem (h.children_nodup p) hc,?_⟩
  intro q hq hmem
  have hpq := (h.mem_children_iff q n).mp hmem
  rw [hp] at hpq
  exact hq (Option.some.inj hpq).symm

/-- Every node lies below a root: the way up passes through ever younger nodes. -/
theorem reachable (h : s.Forest roots) {n : NodeId} (hn : n < s.size) :
    ∃ r ∈ roots, Relation.ReflTransGen s.Lists r n := by
  by_cases hr : n ∈ roots
  · exact ⟨n,hr,.refl⟩
  · obtain ⟨p,hp,hparent,-⟩ := h.owned hn hr
    have hc : s.Lists p n := h.lists_of_parent hparent
    have hlt := h.lt_of_mem p n hc
    obtain ⟨r,hr',hrp⟩ := h.reachable hp
    exact ⟨r,hr',hrp.tail hc⟩
termination_by s.size - n
decreasing_by exact Nat.sub_lt_sub_left hn hlt

theorem linked {root : NodeId} (h : s.Forest [root]) : s.Linked root where
  root_lt_size := h.lt_size root List.mem_cons_self
  parent_root := (h.parent_eq_none_iff root (h.lt_size root List.mem_cons_self)).mpr List.mem_cons_self
  owned n hn hne := h.owned hn (by simpa using hne)
  listed_lt_size _ _ hc := h.listed_lt_size hc
  reachable n hn := by
    obtain ⟨r,hr,hrn⟩ := h.reachable hn
    rwa [List.mem_singleton.mp hr] at hrn
  acyclic := h.acyclic
  parent_acyclic := h.parent_acyclic

end Forest

end SourceOutline.Store

import Mathlib.Algebra.GroupWithZero.Nat
import SourceOutline.Proofs.Store.Order

/-! How a walk is put together. Where lists of children have no cycle, the loop with its stack ends after
one turn for each node that it meets, and what it meets below a node is what it meets below the children,
one after the other; a node that is listed several times is met, with all below it, as many times. -/
namespace SourceOutline.Store
variable {s : Store} {n : NodeId}

/-- Whatever is on the stack below a node, the loop comes to it after one turn for each node of the walk. -/
theorem Acyclic.walkLoop_walk (hs : s.Acyclic) (n : NodeId) (fuel : ℕ) (stack visited : List NodeId) :
    s.walkLoop (fuel + s.countFrom n) (n :: stack) visited =
      s.walkLoop fuel stack ((s.walk n).reverse ++ visited) := by
  rw [countFrom, hs.walk_eq_descent]
  exact walkLoop_descent (hs.depthLE_size n) fuel stack visited

/-- A turn of the loop visits one node. -/
lemma length_le_of_walkLoop {fuel : ℕ} {stack visited found : List NodeId}
    (h : s.walkLoop fuel stack visited = some found) : found.length ≤ fuel + visited.length := by
  induction fuel generalizing stack visited with
  | zero =>
    cases stack with
    | nil => simp only [walkLoop_nil, Option.some.injEq] at h; simp [← h]
    | cons m stack => simp [walkLoop] at h
  | succ fuel ih =>
    cases stack with
    | nil => simp only [walkLoop_nil, Option.some.injEq] at h; simp [← h]
    | cons m stack =>
      have hle := ih h
      rw [List.length_cons] at hle
      omega

/-- The loop ends just if it is given a turn for each node of the walk, and then with the walk. -/
theorem Acyclic.walkLoop_eq_some_iff (hs : s.Acyclic) {fuel : ℕ} {found : List NodeId} :
    s.walkLoop fuel [n] [] = some found ↔ s.countFrom n ≤ fuel ∧ found = s.walk n := by
  have henough : ∀ more, s.walkLoop (more + s.countFrom n) [n] [] = some (s.walk n) := by
    intro more
    simp [hs.walkLoop_walk]
  constructor
  · intro h
    have hmore := walkLoop_mono s h (Nat.le_add_right fuel (s.countFrom n))
    rw [henough, Option.some.injEq] at hmore
    have hle := length_le_of_walkLoop h
    rw [← hmore] at hle
    exact ⟨hle,hmore.symm⟩
  · rintro ⟨hle,rfl⟩
    rw [← Nat.sub_add_cancel hle]
    exact henough _

theorem Acyclic.countFrom_eq_add (hs : s.Acyclic) (n : NodeId) :
    s.countFrom n = 1 + ((s.children n).map s.countFrom).sum := by
  rw [countFrom, hs.walk_eq_cons, List.length_cons, List.length_flatMap, Nat.add_comm]
  rfl

theorem Acyclic.findByKind_eq_append (hs : s.Acyclic) (n : NodeId) (kind : String) :
    s.findByKind n kind =
      (if s.kind n = kind then [n] else []) ++ (s.children n).flatMap fun c => s.findByKind c kind := by
  rw [findByKind, hs.walk_eq_cons, List.filter_cons, List.filter_flatMap]
  by_cases hn : s.kind n = kind
  · rw [if_pos (by simpa using hn), if_pos hn]
    rfl
  · rw [if_neg (by simpa using hn), if_neg hn]
    rfl

lemma count_findByKind (s : Store) (n : NodeId) (kind : String) (m : NodeId) :
    (s.findByKind n kind).count m = if s.kind m = kind then (s.walk n).count m else 0 := by
  rw [findByKind]
  split_ifs with hm
  · exact List.count_filter (by simpa using hm)
  · exact List.count_eq_zero_of_not_mem fun hmem => hm (by simpa using List.of_mem_filter hmem)

/-- The loop of a walk ends after one turn for each node that it meets. The walk is the node and then the
walks from its children, so that their lengths add up, and so do the nodes of one kind, which are in the
order of the walk and as many as there. -/
theorem walk_composed (hs : s.Acyclic) (n : NodeId) :
    (∀ fuel found, s.walkLoop fuel [n] [] = some found ↔ s.countFrom n ≤ fuel ∧ found = s.walk n) ∧
    s.walk n = n :: (s.children n).flatMap s.walk ∧
    s.countFrom n = 1 + ((s.children n).map s.countFrom).sum ∧
    ∀ kind, (s.findByKind n kind).Sublist (s.walk n) ∧
      (∀ m, (s.findByKind n kind).count m = if s.kind m = kind then (s.walk n).count m else 0) ∧
      s.findByKind n kind =
        (if s.kind n = kind then [n] else []) ++ (s.children n).flatMap fun c => s.findByKind c kind := by
  refine ⟨fun _ _ => hs.walkLoop_eq_some_iff,hs.walk_eq_cons n,hs.countFrom_eq_add n,?_⟩
  intro kind
  exact ⟨List.filter_sublist,s.count_findByKind n kind,hs.findByKind_eq_append n kind⟩

/-- A module that lists a block twice and a node of that block as well. The parent links lead elsewhere,
in a circle. -/
def sharedBlock : Store where
  nodes := #[
    ⟨"pass_statement", ⟨⟨0, 0⟩, ⟨0, 4⟩⟩, "pass", [], some 2⟩,
    ⟨"block", ⟨⟨0, 0⟩, ⟨0, 9⟩⟩, "pass pass", [0, 0], some 0⟩,
    ⟨"module", ⟨⟨0, 0⟩, ⟨0, 9⟩⟩, "pass pass", [1, 0, 1], some 1⟩]

theorem walk_composed_sharedBlock :
    sharedBlock.Acyclic ∧
    (∀ fuel found, sharedBlock.walkLoop fuel [2] [] = some found ↔
      8 ≤ fuel ∧ found = [2, 1, 0, 0, 0, 1, 0, 0]) ∧
    sharedBlock.countFrom 2 = 1 + (3 + (1 + (3 + 0))) ∧
    sharedBlock.findByKind 2 "pass_statement" = [] ++ ([0, 0] ++ [0] ++ [0, 0]) := by
  have hs : sharedBlock.Acyclic := acyclic_of_lt (by decide)
  have hwalk : sharedBlock.walk 2 = [2, 1, 0, 0, 0, 1, 0, 0] := by decide
  obtain ⟨hloop,-,hcount,hkinds⟩ := walk_composed hs 2
  refine ⟨hs,?_,hcount.trans (by decide),((hkinds "pass_statement").2.2).trans (by decide)⟩
  intro fuel found
  rw [hloop, countFrom, hwalk]
  rfl

end SourceOutline.Store

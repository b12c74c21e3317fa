import Mathlib.Data.List.Basic
import Mathlib.Logic.Relation
import SourceOutline.Store.Walk

/-! Ways down a store whose lists of children have no cycle. Every such way is at most as long as the
store is large, so the bound of the walking loop is always enough and a walk obeys the recursion on
lists of children, whatever the parent links are and however often a node is listed. -/
namespace SourceOutline.Store

/-- The node `c` is listed among the children of `p`. -/
def Lists (s : Store) (p c : NodeId) : Prop := c ∈ s.children p

/-- No node lies below itself. -/
def Acyclic (s : Store) : Prop := ∀ n, ¬ Relation.TransGen s.Lists n n

/-- Every way down from a node ends after at most `depth` lists of children. -/
def DepthLE (s : Store) : ℕ → NodeId → Prop
  | 0, n => s.children n = []
  | depth+1, n => ∀ c ∈ s.children n, s.DepthLE depth c

lemma children_of_size_le (s : Store) {n : NodeId} (h : s.size ≤ n) : s.children n = [] := by
  rw [children, node_of_size_le s h]
  rfl

lemma lt_size_of_lists {s : Store} {p c : NodeId} (h : s.Lists p c) : p < s.size := by
  by_contra hp
  simp [Lists, children_of_size_le s (Nat.le_of_not_lt hp)] at h

/-- Distinct nodes in use are at most as many as there are nodes. -/
lemma length_le_size {s : Store} {ns : List NodeId} (hnodup : ns.Nodup) (hlt : ∀ n ∈ ns, n < s.size) :
    ns.length ≤ s.size := by
  have hsub : ns ⊆ List.range s.size := fun n hn => List.mem_range.mpr (hlt n hn)
  simpa using hnodup.length_le_of_subset hsub

/-- Where children are older than the node that lists them, so is all that lies below it. -/
lemma lt_of_transGen_lists {s : Store} (h : ∀ p < s.size, ∀ c ∈ s.children p, c < p) {p c : NodeId}
    (hc : Relation.TransGen s.Lists p c) : c < p := by
  have hle : s.Lists ≤ (· > ·) := fun p c hc => h p (lt_size_of_lists hc) c hc
  exact Relation.transGen_minimal hle p c hc

theorem acyclic_of_lt {s : Store} (h : ∀ p < s.size, ∀ c ∈ s.children p, c < p) : s.Acyclic :=
  fun n hn => Nat.lt_irrefl n (lt_of_transGen_lists h hn)

/-- Nodes met on the way down to `n` are distinct and in use, so each of them takes one off the depth
that is left below `n`. -/
lemma depthLE_of_above {s : Store} (hs : s.Acyclic) (depth : ℕ) (n : NodeId) (above : List NodeId)
    (hnodup : above.Nodup) (habove : ∀ a ∈ above, Relation.TransGen s.Lists a n)
    (hsize : above.length + depth = s.size) : s.DepthLE depth n := by
  have hlt : ∀ a ∈ above, a < s.size := by
    intro a ha
    obtain ⟨b,hab,-⟩ := Relation.TransGen.head'_iff.mp (habove a ha)
    exact lt_size_of_lists hab
  have hn : n ∉ above := fun h => hs n (habove n h)
  induction depth generalizing n above with
  | zero =>
    apply children_of_size_le
    by_contra hlt'
    have hin : ∀ a ∈ n :: above, a < s.size := by
      intro a ha
      rcases List.mem_cons.mp ha with rfl | ha
      · exact Nat.lt_of_not_le hlt'
      · exact hlt a ha
    have hle := length_le_size (List.nodup_cons.mpr ⟨hn,hnodup⟩) hin
    rw [List.length_cons] at hle
    omega
  | succ depth ih =>
    intro c hc
    have hbelow : ∀ a ∈ n :: above, Relation.TransGen s.Lists a c := by
      intro a ha
      rcases List.mem_cons.mp ha with rfl | ha
      · exact .single hc
      · exact (habove a ha).tail hc
    apply ih c (n :: above) (List.nodup_cons.mpr ⟨hn,hnodup⟩) hbelow
    · simp only [List.length_cons]; omega
    · intro a ha
      rcases List.mem_cons.mp ha with rfl | ha
      · exact lt_size_of_lists hc
      · exact hlt a ha
    · exact fun h => hs c (hbelow c h)

theorem Acyclic.depthLE_size {s : Store} (hs : s.Acyclic) (n : NodeId) : s.DepthLE s.size n :=
  depthLE_of_above hs s.size n [] List.nodup_nil (by simp) (by simp)

/-- The nodes that a walk from `n` meets at most `depth` lists deep, each before its children. -/
def descent (s : Store) : ℕ → NodeId → List NodeId
  | 0, n => [n]
  | depth+1, n => n :: (s.children n).flatMap (s.descent depth)

lemma foldr_length_flatMap {s : Store} {depth : ℕ}
    (h : ∀ n, s.visits depth n = (s.descent depth n).length) (ns : List NodeId) :
    (ns.map (s.visits depth)).foldr (· + ·) 1 = (ns.flatMap (s.descent depth)).length + 1 := by
  induction ns with
  | nil => rfl
  | cons n ns ih =>
    rw [List.map_cons, List.foldr_cons, List.flatMap_cons, List.length_append, ih, h, Nat.add_assoc]

/-- The bound of the walking loop is the number of nodes that a walk meets. -/
theorem visits_eq_length_descent (s : Store) (depth : ℕ) (n : NodeId) :
    s.visits depth n = (s.descent depth n).length := by
  induction depth generalizing n with
  | zero => rfl
  | succ depth ih => rw [visits, descent, foldr_length_flatMap ih, List.length_cons]

/-- A deeper descent meets nothing new once all ways down have ended. -/
theorem descent_succ {s : Store} {depth : ℕ} {n : NodeId} (h : s.DepthLE depth n) :
    s.descent (depth+1) n = s.descent depth n := by
  induction depth generalizing n with
  | zero =>
    simp only [DepthLE] at h
    simp [descent, h]
  | succ depth ih =>
    rw [descent, descent]
    congr 1
    exact List.flatMap_congr fun c hc => ih (h c hc)

/-- The loop replaces a whole list of nodes on its stack by what lies below them, if it does so for
each of them. -/
lemma walkLoop_append {s : Store} {below : NodeId → List NodeId} (ns : List NodeId)
    (h : ∀ n ∈ ns, ∀ fuel stack visited, s.walkLoop (fuel + (below n).length) (n :: stack) visited =
      s.walkLoop fuel stack ((below n).reverse ++ visited))
    (fuel : ℕ) (stack visited : List NodeId) :
    s.walkLoop (fuel + (ns.flatMap below).length) (ns ++ stack) visited =
      s.walkLoop fuel stack ((ns.flatMap below).reverse ++ visited) := by
  induction ns generalizing visited with
  | nil => simp
  | cons n ns ih =>
    rw [List.flatMap_cons, List.length_append, Nat.add_comm (below n).length, ← Nat.add_assoc,
      List.cons_append, h n List.mem_cons_self, ih (fun m hm => h m (List.mem_cons_of_mem _ hm))]
    simp

theorem walkLoop_descent {s : Store} {depth : ℕ} {n : NodeId} (h : s.DepthLE depth n)
    (fuel : ℕ) (stack visited : List NodeId) :
    s.walkLoop (fuel + (s.descent depth n).length) (n :: stack) visited =
      s.walkLoop fuel stack ((s.descent depth n).reverse ++ visited) := by
  induction depth generalizing n fuel stack visited with
  | zero =>
    simp only [DepthLE] at h
    simp [descent, walkLoop, h]
  | succ depth ih =>
    rw [descent, List.length_cons, ← Nat.add_assoc, walkLoop,
      walkLoop_append _ (fun c hc => ih (h c hc))]
    simp

/-- The loop of a walk ends with an empty stack before its bound runs out. -/
theorem Acyclic.walkLoop_eq {s : Store} (hs : s.Acyclic) (n : NodeId) :
    s.walkLoop (s.visits s.size n) [n] [] = some (s.descent s.size n) := by
  have h := walkLoop_descent (hs.depthLE_size n) 0 [] []
  rw [Nat.zero_add] at h
  simpa [visits_eq_length_descent] using h

lemma Acyclic.walk_eq_descent {s : Store} (hs : s.Acyclic) (n : NodeId) :
    s.walk n = s.descent s.size n := by
  rw [walk, hs.walkLoop_eq, Option.getD_some]

/-- A walk visits a node and then walks from each of its children in turn. -/
theorem Acyclic.walk_eq_cons {s : Store} (hs : s.Acyclic) (n : NodeId) :
    s.walk n = n :: (s.children n).flatMap s.walk := by
  have hwalk : s.walk = s.descent s.size := funext hs.walk_eq_descent
  rw [hwalk, ← descent, descent_succ (hs.depthLE_size n)]

end SourceOutline.Store

import Mathlib.Data.List.Nodup
import Mathlib.Data.List.TakeWhile
import SourceOutline.Proofs.Store.Forest

/-! The order in which a walk meets nodes. All that lies below a node is met in one piece, which starts
with the node; in a forest no node is met twice, so two such pieces are apart or one within the other. -/
namespace SourceOutline.Store
variable {s : Store} {roots : List NodeId} {n m a b : NodeId}

/-- What holds of a node as soon as it holds of its children holds of all nodes. -/
theorem Acyclic.induction (hs : s.Acyclic) {P : NodeId → Prop}
    (step : ∀ n, (∀ c ∈ s.children n, P c) → P n) (n : NodeId) : P n := by
  have hdepth : ∀ depth n, s.DepthLE depth n → P n := by
    intro depth
    induction depth with
    | zero =>
      intro n hn
      apply step
      simp only [DepthLE] at hn
      simp [hn]
    | succ depth ih =>
      intro n hn
      exact step n fun c hc => ih c (hn c hc)
  exact hdepth s.size n (hs.depthLE_size n)

lemma Acyclic.mem_walk_iff_eq_or (hs : s.Acyclic) :
    m ∈ s.walk n ↔ m = n ∨ ∃ c ∈ s.children n, m ∈ s.walk c := by
  rw [hs.walk_eq_cons n, List.mem_cons, List.mem_flatMap]

lemma Acyclic.mem_walk_self (hs : s.Acyclic) (n : NodeId) : n ∈ s.walk n :=
  hs.mem_walk_iff_eq_or.mpr (Or.inl rfl)

lemma Acyclic.mem_walk_of_mem_children (hs : s.Acyclic) (h : m ∈ s.children n) : m ∈ s.walk n :=
  hs.mem_walk_iff_eq_or.mpr (Or.inr ⟨m,h,hs.mem_walk_self m⟩)

/-- A walk meets exactly the nodes that the lists of children lead down to. -/
theorem Acyclic.mem_walk_iff (hs : s.Acyclic) :
    m ∈ s.walk n ↔ Relation.ReflTransGen s.Lists n m := by
  constructor
  · intro h
    induction n using hs.induction with
    | step n ih =>
      rcases hs.mem_walk_iff_eq_or.mp h with rfl | ⟨c,hc,hm⟩
      · exact .refl
      · exact .head hc (ih c hc hm)
  · intro h
    induction h using Relation.ReflTransGen.head_induction_on with
    | refl => exact hs.mem_walk_self m
    | head hc _ ih => exact hs.mem_walk_iff_eq_or.mpr (Or.inr ⟨_,hc,ih⟩)

/-- What lies below a node is met in one piece, from wherever the walk starts. -/
theorem Acyclic.walk_infix_walk (hs : s.Acyclic) (h : m ∈ s.walk n) : s.walk m <:+: s.walk n := by
  induction n using hs.induction with
  | step n ih =>
    rcases hs.mem_walk_iff_eq_or.mp h with rfl | ⟨c,hc,hm⟩
    · exact List.infix_rfl
    · have hpiece : s.walk c <:+: (s.children n).flatMap s.walk := by
        rw [List.flatMap_def]
        exact List.infix_of_mem_flatten (List.mem_map_of_mem hc)
      rw [hs.walk_eq_cons n]
      exact (ih c hc hm).trans (hpiece.trans (List.suffix_cons _ _).isInfix)

lemma Acyclic.mem_walk_trans (hs : s.Acyclic) (hm : m ∈ s.walk n) (ha : a ∈ s.walk m) :
    a ∈ s.walk n := (hs.walk_infix_walk hm).subset ha

namespace Forest

lemma mem_walk_iff_parent (h : s.Forest roots) :
    m ∈ s.walk n ↔ Relation.ReflTransGen s.Parent m n := by
  have hswap : s.Lists = Function.swap s.Parent := by
    funext p c
    exact propext (h.mem_children_iff p c)
  rw [h.acyclic.mem_walk_iff, hswap, Relation.reflTransGen_swap]

/-- Of two nodes above a third one, one is above the other: there is only one way up. -/
theorem mem_walk_or_mem_walk (h : s.Forest roots) (ha : m ∈ s.walk a) (hb : m ∈ s.walk b) :
    a ∈ s.walk b ∨ b ∈ s.walk a := by
  have hunique : Relator.RightUnique s.Parent := by
    intro c p q hp hq
    exact Option.some.inj (hp.symm.trans hq)
  rw [h.mem_walk_iff_parent] at *
  rw [h.mem_walk_iff_parent]
  exact Relation.ReflTransGen.total_of_right_unique hunique ha hb

lemma le_of_mem_walk (h : s.Forest roots) (hm : m ∈ s.walk n) : m ≤ n := by
  rcases Relation.reflTransGen_iff_eq_or_transGen.mp (h.acyclic.mem_walk_iff.mp hm) with rfl | hm
  · exact Nat.le_refl _
  · exact Nat.le_of_lt (h.lt_of_transGen hm)

lemma not_mem_walk_of_mem_children (h : s.Forest roots) (hc : a ∈ s.children n) : n ∉ s.walk a :=
  fun hn => Nat.not_le_of_lt (h.lt_of_mem n a hc) (h.le_of_mem_walk hn)

/-- What lies below one child does not lie below another one. -/
lemma disjoint_walk_children (h : s.Forest roots) (ha : a ∈ s.children n) (hb : b ∈ s.children n)
    (hab : a ≠ b) : List.Disjoint (s.walk a) (s.walk b) := by
  have hnot : ∀ {a b}, a ∈ s.children n → b ∈ s.children n → a ≠ b → a ∉ s.walk b := by
    intro a b ha hb hab hmem
    -- the way up from `a` starts with `n`, which is above `b`
    rcases Relation.ReflTransGen.cases_head (h.mem_walk_iff_parent.mp hmem) with rfl | ⟨p,hp,hup⟩
    · exact hab rfl
    · have hpn : p = n := Option.some.inj (hp.symm.trans ((h.mem_children_iff n a).mp ha))
      subst hpn
      exact h.not_mem_walk_of_mem_children hb (h.mem_walk_iff_parent.mpr hup)
  intro m hma hmb
  rcases h.mem_walk_or_mem_walk hma hmb with hmem | hmem
  · exact hnot ha hb hab hmem
  · exact hnot hb ha hab.symm hmem

/-- A walk meets no node twice. -/
theorem nodup_walk (h : s.Forest roots) (n : NodeId) : (s.walk n).Nodup := by
  induction n using h.acyclic.induction with
  | step n ih =>
    rw [h.acyclic.walk_eq_cons n, List.nodup_cons, List.nodup_flatMap]
    refine ⟨?_,ih,?_⟩
    · intro hn
      obtain ⟨c,hc,hmem⟩ := List.mem_flatMap.mp hn
      exact h.not_mem_walk_of_mem_children hc hmem
    · exact (h.children_nodup n).imp_of_mem fun ha hb hab => h.disjoint_walk_children ha hb hab

end Forest

/-- The nodes that a walk from `n` meets before `m`. -/
def before (s : Store) (n m : NodeId) : List NodeId := (s.walk n).takeWhile (· != m)

lemma not_mem_before (s : Store) (n m : NodeId) : m ∉ s.before n m := by
  intro hm
  simpa using List.mem_takeWhile_imp hm

namespace Forest

lemma takeWhile_append_walk (h : s.Forest roots) {earlier rest : List NodeId} (hm : m ∉ earlier) :
    (earlier ++ (s.walk m ++ rest)).takeWhile (· != m) = earlier := by
  rw [h.acyclic.walk_eq_cons m, List.takeWhile_append_of_pos]
  · simp
  · intro a ha
    simpa using fun ham : a = m => hm (ham ▸ ha)

/-- A walk falls into what it meets before a node, what lies below that node, and the rest. -/
theorem exists_walk_eq (h : s.Forest roots) (hm : m ∈ s.walk n) :
    ∃ after, s.walk n = s.before n m ++ (s.walk m ++ after) := by
  obtain ⟨earlier,after,hsplit⟩ := h.acyclic.walk_infix_walk hm
  rw [List.append_assoc] at hsplit
  have hnodup := h.nodup_walk n
  rw [← hsplit] at hnodup
  have hout : m ∉ earlier := fun hearlier => List.disjoint_of_nodup_append hnodup hearlier
    (List.mem_append_left _ (h.acyclic.mem_walk_self m))
  refine ⟨after,?_⟩
  rw [before, ← hsplit, h.takeWhile_append_walk hout]

/-- The nodes before one that lies below `m` are those before `m` and those from `m` on. -/
theorem before_eq_append (h : s.Forest roots) (hm : m ∈ s.walk n) (ha : a ∈ s.walk m) :
    s.before n a = s.before n m ++ s.before m a := by
  obtain ⟨after,hsplit⟩ := h.exists_walk_eq hm
  obtain ⟨rest,hrest⟩ := h.exists_walk_eq ha
  have hnodup := h.nodup_walk n
  rw [hsplit] at hnodup
  have hout : a ∉ s.before n m := fun hearlier => List.disjoint_of_nodup_append hnodup hearlier
    (List.mem_append_left _ ha)
  have hall : s.walk n = (s.before n m ++ s.before m a) ++ (s.walk a ++ (rest ++ after)) := by
    rw [hsplit, hrest]
    simp only [List.append_assoc]
  rw [before, hall]
  exact h.takeWhile_append_walk (by simp [hout, s.not_mem_before m a])

lemma prefix_before_of_not_mem (h : s.Forest roots) (ha : a ∈ s.walk n) (hb : b ∈ s.walk n)
    (hbefore : b ∉ s.before n a) (hbelow : b ∉ s.walk a) :
    s.before n a ++ s.walk a <+: s.before n b := by
  obtain ⟨after,hsplit⟩ := h.exists_walk_eq ha
  rw [← List.append_assoc] at hsplit
  have hother : ∀ c ∈ s.before n a ++ s.walk a, (c != b) = true := by
    intro c hc
    have hcb : c ≠ b := by
      rintro rfl
      exact (List.mem_append.mp hc).elim hbefore hbelow
    simpa using hcb
  rw [before.eq_1 s n b, hsplit, List.takeWhile_append_of_pos hother]
  exact List.prefix_append _ _

/-- Of two nodes neither of which lies below the other, one is met only after all below the other. -/
theorem prefix_before_or (h : s.Forest roots) (ha : a ∈ s.walk n) (hb : b ∈ s.walk n)
    (hab : a ∉ s.walk b) (hba : b ∉ s.walk a) :
    s.before n a ++ s.walk a <+: s.before n b ∨ s.before n b ++ s.walk b <+: s.before n a := by
  by_cases hbefore : b ∈ s.before n a
  · right
    apply h.prefix_before_of_not_mem hb ha _ hab
    intro hafter
    rcases List.prefix_or_prefix_of_prefix (List.takeWhile_prefix (l := s.walk n) (· != a))
      (List.takeWhile_prefix (l := s.walk n) (· != b)) with hp | hp
    · exact s.not_mem_before n b (hp.subset hbefore)
    · exact s.not_mem_before n a (hp.subset hafter)
  · exact Or.inl (h.prefix_before_of_not_mem ha hb hbefore hba)

end Forest

end SourceOutline.Store

import SourceOutline.Proofs.Store.Order

/-! The way up from a node. Where parent links have no cycle, the climb along them ends at a node without
a parent and passes no node twice, whatever the lists of children are. In a forest it passes just the
nodes that the node lies below. -/
namespace SourceOutline.Store

/-- No node lies above itself. -/
def AcyclicAbove (s : Store) : Prop := ∀ n, ¬ Relation.TransGen s.Parent n n

/-- A link leads up to these nodes one after the other, the last of which has no parent. -/
inductive Ascends (s : Store) : Option NodeId → List NodeId → Prop
  | top : Ascends s none []
  | up {n : NodeId} {above : List NodeId} (rest : Ascends s (s.parent n) above) :
      Ascends s (some n) (n :: above)

variable {s : Store} {roots : List NodeId} {m n : NodeId}

lemma lt_size_of_parent {c p : NodeId} (h : s.Parent c p) : c < s.size := by
  by_contra hc
  rw [Parent, parent_of_size_le s (Nat.le_of_not_lt hc)] at h
  cases h

/-- Where parents are younger than their children, no node lies above itself. -/
theorem acyclicAbove_of_lt (h : ∀ c < s.size, ∀ p ∈ s.parent c, c < p) : s.AcyclicAbove := by
  have hle : s.Parent ≤ (· < ·) := fun c p hp => h c (lt_size_of_parent hp) p hp
  exact fun n hn => Nat.lt_irrefl n (Relation.transGen_minimal hle n n hn)

/-- All that lies above a node is its parent and what lies above that one. -/
lemma transGen_parent_iff {p : NodeId} (h : s.Parent n p) :
    Relation.TransGen s.Parent n m ↔ Relation.ReflTransGen s.Parent p m := by
  constructor
  · intro hm
    obtain ⟨q,hq,hm⟩ := Relation.TransGen.head'_iff.mp hm
    obtain rfl : q = p := Option.some.inj (hq.symm.trans h)
    exact hm
  · exact Relation.TransGen.head' h

namespace Ascends
variable {link : Option NodeId} {above others : List NodeId}

/-- There is one way up. -/
theorem unique (h : s.Ascends link above) (h' : s.Ascends link others) : above = others := by
  induction h generalizing others with
  | top => cases h'; rfl
  | up _ ih =>
    cases h' with
    | up rest' => rw [ih rest']

/-- The way up from a node passes the nodes above it. -/
theorem mem_iff (h : s.Ascends (s.parent n) above) : m ∈ above ↔ Relation.TransGen s.Parent n m := by
  generalize hlink : s.parent n = link at h
  induction h generalizing n with
  | top =>
    constructor
    · intro hm
      cases hm
    · intro hm
      obtain ⟨p,hp,-⟩ := Relation.TransGen.head'_iff.mp hm
      exact absurd (hlink.symm.trans hp) nofun
  | up _ ih =>
    rw [transGen_parent_iff hlink, Relation.reflTransGen_iff_eq_or_transGen, List.mem_cons, ih rfl]

theorem nodup (hs : s.AcyclicAbove) (h : s.Ascends link above) : above.Nodup := by
  induction h with
  | top => exact List.nodup_nil
  | up rest ih => exact List.nodup_cons.mpr ⟨fun hn => hs _ (rest.mem_iff.mp hn),ih⟩

end Ascends

namespace AcyclicAbove

/-- Nodes met before a climb comes to a link are distinct and in use, so that the climb cannot take more
turns than there are nodes left. -/
lemma ascends_climb (hs : s.AcyclicAbove) (fuel : ℕ) (link : Option NodeId) (below : List NodeId)
    (hnodup : below.Nodup) (hbelow : ∀ b ∈ below, ∀ n ∈ link, Relation.TransGen s.Parent b n)
    (hsize : below.length + fuel = s.size + 1) : s.Ascends link (s.climb fuel link) := by
  induction fuel generalizing link below with
  | zero =>
    cases link with
    | none => exact .top
    | some n =>
      -- the nodes met so far would be more than there are
      have hin : ∀ b ∈ below, b < s.size := by
        intro b hb
        obtain ⟨p,hp,-⟩ := Relation.TransGen.head'_iff.mp (hbelow b hb n rfl)
        exact lt_size_of_parent hp
      have hle := length_le_size hnodup hin
      omega
  | succ fuel ih =>
    cases link with
    | none => exact .top
    | some n =>
      have hn : n ∉ below := fun hn => hs n (hbelow n hn n rfl)
      apply Ascends.up
      apply ih (s.parent n) (n :: below) (List.nodup_cons.mpr ⟨hn,hnodup⟩)
      · intro b hb p hp
        rcases List.mem_cons.mp hb with rfl | hb
        · exact .single hp
        · exact (hbelow b hb n rfl).tail hp
      · rw [List.length_cons]
        omega

/-- The bound of the climbing loop is enough: it ends at a node without a parent. -/
theorem ascends_ancestors (hs : s.AcyclicAbove) (n : NodeId) :
    s.Ascends (s.parent n) (s.ancestors n) := by
  apply hs.ascends_climb s.size (s.parent n) [n] (List.nodup_singleton n)
  · intro b hb p hp
    rw [List.mem_singleton.mp hb]
    exact .single hp
  · rw [List.length_singleton, Nat.add_comm]

theorem ascends_iff (hs : s.AcyclicAbove) {above : List NodeId} :
    s.Ascends (s.parent n) above ↔ above = s.ancestors n := by
  constructor
  · exact fun h => h.unique (hs.ascends_ancestors n)
  · rintro rfl
    exact hs.ascends_ancestors n

end AcyclicAbove

namespace Forest

theorem acyclicAbove (h : s.Forest roots) : s.AcyclicAbove := h.parent_acyclic

/-- A node lies above another one just if that one lies below it. -/
theorem mem_ancestors_iff (h : s.Forest roots) : m ∈ s.ancestors n ↔ m ≠ n ∧ n ∈ s.walk m := by
  rw [(h.acyclicAbove.ascends_ancestors n).mem_iff, h.mem_walk_iff_parent,
    Relation.reflTransGen_iff_eq_or_transGen]
  constructor
  · intro hm
    exact ⟨fun heq => h.parent_acyclic n (heq ▸ hm),Or.inr hm⟩
  · rintro ⟨hne,heq | hm⟩
    · exact absurd heq hne
    · exact hm

end Forest

end SourceOutline.Store

import SourceOutline.Proofs.Store.Forest
import SourceOutline.Store.Normalize

/-! What the making of nodes does to a store. Making one node turns trees into the subtrees of a new
tree and changes nothing else but their parent links; so the recursion on an engine's tree leaves one
more tree in the store, which mirrors the engine's node by node. -/
namespace SourceOutline

/-- The node of a raw node before it has a parent. -/
def Node.ofRaw (source : Octets) (raw : RawNode) (children : List NodeId) : Node where
  kind := raw.kind
  span := raw.span
  text := Text.Utf8.sliceText source raw.startByte raw.stopByte
  children := children

namespace Store

lemma node_adopt {s : Store} (n : NodeId) {cs : List NodeId} (h : ∀ c ∈ cs, c < s.size) (m : NodeId) :
    (s.adopt n cs).node m = if m ∈ cs then { s.node m with parent := some n } else s.node m := by
  induction cs generalizing s with
  | nil => simp [adopt]
  | cons c cs ih =>
    change ((s.setParent c (some n)).adopt n cs).node m = _
    have hc : c < s.size := h c List.mem_cons_self
    rw [ih (by intro d hd; simpa [setParent] using h d (List.mem_cons_of_mem _ hd))]
    by_cases hm : c = m
    · subst hm
      simp [setParent, node_update_self s _ hc]
    · simp [setParent, node_update_of_ne s _ hm, Ne.symm hm]

lemma size_adopt (s : Store) (n : NodeId) (cs : List NodeId) : (s.adopt n cs).size = s.size := by
  induction cs generalizing s with
  | nil => rfl
  | cons c cs ih =>
    change ((s.setParent c (some n)).adopt n cs).size = _
    rw [ih, setParent, size_update]

lemma node_add (s : Store) (x : Node) (m : NodeId) :
    (s.add x).2.node m = if m = s.size then x else s.node m := by
  rcases Nat.lt_trichotomy m s.size with hm | rfl | hm
  · rw [node_add_of_lt s x hm, if_neg (Nat.ne_of_lt hm)]
  · rw [node_add_self, if_pos rfl]
  · rw [node_of_size_le _ (by rw [size_add]; exact hm), node_of_size_le s (Nat.le_of_lt hm),
      if_neg (Nat.ne_of_gt hm)]

section Make
variable {s : Store} (source : Octets) (raw : RawNode) {cs : List NodeId}

theorem make_fst : (s.make source raw cs).1 = s.size := rfl

lemma make_snd : (s.make source raw cs).2 = (s.add (.ofRaw source raw cs)).2.adopt s.size cs := rfl

@[simp] theorem size_make : (s.make source raw cs).2.size = s.size + 1 := by
  rw [make_snd, size_adopt, size_add]

/-- The new node is the only new one, and an old node changes only in its parent link. -/
theorem node_make (h : ∀ c ∈ cs, c < s.size) (m : NodeId) :
    (s.make source raw cs).2.node m =
      if m = s.size then .ofRaw source raw cs
      else if m ∈ cs then { s.node m with parent := some s.size } else s.node m := by
  have hadd : ∀ c ∈ cs, c < (s.add (.ofRaw source raw cs)).2.size := by
    intro c hc
    rw [size_add]
    exact Nat.lt_succ_of_lt (h c hc)
  rw [make_snd, node_adopt _ hadd, node_add]
  by_cases hm : m = s.size
  · have hout : m ∉ cs := fun hc => Nat.ne_of_lt (h m hc) hm
    rw [if_neg hout, if_pos hm, if_pos hm]
  · simp only [hm, if_false]

theorem children_make (h : ∀ c ∈ cs, c < s.size) (m : NodeId) :
    (s.make source raw cs).2.children m = if m = s.size then cs else s.children m := by
  simp only [children, node_make source raw h]
  split_ifs <;> rfl

theorem parent_make (h : ∀ c ∈ cs, c < s.size) (m : NodeId) :
    (s.make source raw cs).2.parent m = if m ∈ cs then some s.size else s.parent m := by
  rw [parent, node_make source raw h]
  by_cases hm : m = s.size
  · have hout : m ∉ cs := fun hc => Nat.ne_of_lt (h m hc) hm
    rw [if_pos hm, if_neg hout, parent_of_size_le s (Nat.le_of_eq hm.symm)]
    rfl
  · rw [if_neg hm]
    split_ifs <;> rfl

/-- Trees become the subtrees of one new tree. -/
theorem Forest.make {rest : List NodeId} (h : s.Forest (cs ++ rest)) :
    (s.make source raw cs).2.Forest ((s.make source raw cs).1 :: rest) := by
  have hcs : ∀ c ∈ cs, c < s.size := fun c hc => h.lt_size c (List.mem_append_left _ hc)
  obtain ⟨hnodup,hrest,hdisjoint⟩ := List.nodup_append.mp h.nodup
  have hroot : ∀ r ∈ cs ++ rest, s.parent r = none := fun r hr =>
    (h.parent_eq_none_iff r (h.lt_size r hr)).mpr hr
  have hfresh : s.size ∉ rest := fun hr =>
    Nat.lt_irrefl _ (h.lt_size _ (List.mem_append_right _ hr))
  constructor
  case nodup => exact List.nodup_cons.mpr ⟨hfresh,hrest⟩
  case lt_size =>
    intro r hr
    rw [size_make]
    rcases List.mem_cons.mp hr with rfl | hr
    · exact Nat.lt_succ_self _
    · exact Nat.lt_succ_of_lt (h.lt_size r (List.mem_append_right _ hr))
  case mem_children_iff =>
    intro p c
    rw [children_make source raw hcs, parent_make source raw hcs]
    by_cases hp : p = s.size
    · subst hp
      by_cases hc : c ∈ cs
      · simp [hc]
      · -- a node that is no child has an older parent or none
        rw [if_pos rfl, if_neg hc, ← h.mem_children_iff, children_of_size_le s (Nat.le_refl _)]
        simp [hc]
    · by_cases hc : c ∈ cs
      · rw [if_neg hp, if_pos hc, h.mem_children_iff, hroot c (List.mem_append_left _ hc)]
        simp [Ne.symm hp]
      · rw [if_neg hp, if_neg hc]
        exact h.mem_children_iff p c
  case children_nodup =>
    intro p
    rw [children_make source raw hcs]
    split_ifs
    · exact hnodup
    · exact h.children_nodup p
  case lt_of_mem =>
    intro p c hc
    rw [children_make source raw hcs] at hc
    split_ifs at hc with hp
    · rw [hp]; exact hcs c hc
    · exact h.lt_of_mem p c hc
  case parent_eq_none_iff =>
    intro n hn
    rw [size_make] at hn
    rw [parent_make source raw hcs, make_fst, List.mem_cons]
    by_cases hns : n = s.size
    · subst hns
      have hout : s.size ∉ cs := fun hc => Nat.lt_irrefl _ (hcs _ hc)
      simp [hout, parent_of_size_le s (Nat.le_refl _)]
    · have hlt : n < s.size := Nat.lt_of_le_of_ne (Nat.lt_succ_iff.mp hn) hns
      by_cases hc : n ∈ cs
      · have hout : n ∉ rest := fun hr => hdisjoint n hc n hr rfl
        simp [hc, hns, hout]
      · have hiff := h.parent_eq_none_iff n hlt
        simpa [hc, hns] using hiff

end Make

/-- An earlier store within a later one: no node is lost, and none changes but in its parent link. -/
structure Keeps (s s' : Store) : Prop where
  size_le : s.size ≤ s'.size
  node_eq : ∀ n < s.size, ∃ p, s'.node n = { s.node n with parent := p }

namespace Keeps
variable {s s' s'' : Store} {n : NodeId}

theorem refl (s : Store) : s.Keeps s := ⟨Nat.le_refl _, fun _ _ => ⟨_,rfl⟩⟩

theorem trans (h : s.Keeps s') (h' : s'.Keeps s'') : s.Keeps s'' := by
  refine ⟨Nat.le_trans h.size_le h'.size_le,?_⟩
  intro n hn
  obtain ⟨p,hp⟩ := h.node_eq n hn
  obtain ⟨q,hq⟩ := h'.node_eq n (Nat.lt_of_lt_of_le hn h.size_le)
  exact ⟨q,by rw [hq, hp]⟩

theorem children_eq (h : s.Keeps s') (hn : n < s.size) : s'.children n = s.children n := by
  obtain ⟨p,hp⟩ := h.node_eq n hn
  rw [children, hp, children]

end Keeps

lemma keeps_add (s : Store) (x : Node) : s.Keeps (s.add x).2 := by
  refine ⟨by rw [size_add]; exact Nat.le_succ _,?_⟩
  intro n hn
  exact ⟨s.parent n,node_add_of_lt s x hn⟩

theorem keeps_make {s : Store} (source : Octets) (raw : RawNode) {cs : List NodeId}
    (h : ∀ c ∈ cs, c < s.size) : s.Keeps (s.make source raw cs).2 := by
  refine ⟨by rw [size_make]; exact Nat.le_succ _,?_⟩
  intro n hn
  rw [node_make source raw h, if_neg (Nat.ne_of_lt hn)]
  by_cases hc : n ∈ cs
  · exact ⟨_,if_pos hc⟩
  · exact ⟨s.parent n,if_neg hc⟩

/-- A node has the kind, the place and the text of a raw node. -/
structure Carries (s : Store) (source : Octets) (raw : RawNode) (n : NodeId) : Prop where
  kind_eq : s.kind n = raw.kind
  span_eq : s.span n = raw.span
  text_eq : s.text n = Text.Utf8.sliceText source raw.startByte raw.stopByte

lemma Carries.keeps {s s' : Store} {source : Octets} {raw : RawNode} {n : NodeId}
    (h : s.Carries source raw n) (hk : s.Keeps s') (hn : n < s.size) : s'.Carries source raw n := by
  obtain ⟨p,hp⟩ := hk.node_eq n hn
  exact ⟨by rw [← h.kind_eq, kind, hp, kind],by rw [← h.span_eq, span, hp, span],
    by rw [← h.text_eq, text, hp, text]⟩

mutual

/-- A node is the root of a copy of an engine's tree. -/
def Mirrors (s : Store) (source : Octets) : RawTree → NodeId → Prop
  | .node label children, n =>
    s.Carries source label n ∧ s.MirrorsAll source children (s.children n)

/-- Nodes are the roots of copies of a list of trees, tree by tree. -/
def MirrorsAll (s : Store) (source : Octets) : List RawTree → List NodeId → Prop
  | [], [] => True
  | t :: ts, n :: ns => s.Mirrors source t n ∧ s.MirrorsAll source ts ns
  | _, _ => False

end

lemma mirrors_node {s : Store} {source : Octets} {l : RawNode} {cs : List RawTree} {n : NodeId} :
    s.Mirrors source (.node l cs) n ↔
      s.Carries source l n ∧ s.MirrorsAll source cs (s.children n) := by
  rw [Mirrors]

theorem mirrorsAll_iff_forall₂ {s : Store} {source : Octets} {ts : List RawTree} {ns : List NodeId} :
    s.MirrorsAll source ts ns ↔ List.Forall₂ (s.Mirrors source) ts ns := by
  induction ts generalizing ns with
  | nil => cases ns <;> simp [MirrorsAll]
  | cons t ts ih => cases ns <;> simp [MirrorsAll, ih]

section Later
variable {s s' : Store} {source : Octets} {roots : List NodeId}

mutual

/-- A copy stays one while the store grows, since all of it is older than its root. -/
theorem Mirrors.keeps (hf : s.Forest roots) (hk : s.Keeps s') : ∀ (t : RawTree) (n : NodeId),
    n < s.size → s.Mirrors source t n → s'.Mirrors source t n
  | .node l cs, n, hn, h => by
    rw [mirrors_node] at h ⊢
    rw [hk.children_eq hn]
    exact ⟨h.1.keeps hk hn, MirrorsAll.keeps hf hk cs _ (fun _ hc => hf.listed_lt_size hc) h.2⟩

theorem MirrorsAll.keeps (hf : s.Forest roots) (hk : s.Keeps s') :
    ∀ (ts : List RawTree) (ns : List NodeId),
    (∀ n ∈ ns, n < s.size) → s.MirrorsAll source ts ns → s'.MirrorsAll source ts ns
  | [], [], _, _ => by simp [MirrorsAll]
  | t :: ts, n :: ns, hns, h => by
    rw [MirrorsAll] at h ⊢
    exact ⟨Mirrors.keeps hf hk t n (hns n List.mem_cons_self) h.1,
      MirrorsAll.keeps hf hk ts ns (fun m hm => hns m (List.mem_cons_of_mem _ hm)) h.2⟩

end

/-- A new node is the root of a copy if its children are, in whatever way they are linked to it. -/
theorem Forest.mirrors_new (hf : s.Forest roots) (hk : s.Keeps s') {t : RawTree} {cs : List NodeId}
    (hcs : ∀ c ∈ cs, c < s.size) (hnode : s'.node s.size = .ofRaw source t.label cs)
    (h : s.MirrorsAll source t.children cs) : s'.Mirrors source t s.size := by
  obtain ⟨label,ts⟩ := t
  rw [mirrors_node, children, hnode]
  refine ⟨?_,MirrorsAll.keeps hf hk ts cs hcs h⟩
  constructor <;> simp only [kind, span, text, hnode] <;> rfl

end Later

section Grow
variable (source : Octets)

@[simp] theorem grow_node (s : Store) (l : RawNode) (cs : List RawTree) :
    s.grow source (.node l cs) =
      (s.growAll source cs).2.make source l (s.growAll source cs).1 := by
  rw [grow]

@[simp] theorem growAll_nil (s : Store) : s.growAll source [] = ([], s) := by rw [growAll]

@[simp] theorem growAll_cons (s : Store) (t : RawTree) (ts : List RawTree) :
    s.growAll source (t :: ts) =
      ((s.grow source t).1 :: ((s.grow source t).2.growAll source ts).1,
        ((s.grow source t).2.growAll source ts).2) := by
  rw [growAll]

mutual

theorem size_grow : ∀ (s : Store) (t : RawTree), (s.grow source t).2.size = s.size + t.size
  | s, .node l cs => by
    rw [grow_node, size_make, size_growAll s cs, RawTree.size]
    omega

theorem size_growAll : ∀ (s : Store) (ts : List RawTree),
    (s.growAll source ts).2.size = s.size + RawTree.sizeAll ts
  | s, [] => by simp
  | s, t :: ts => by
    rw [growAll_cons, size_growAll _ ts, size_grow s t, RawTree.sizeAll]
    omega

end

mutual

/-- The recursion on a tree leaves one more tree in the store. -/
theorem Forest.grow : ∀ (t : RawTree) {s : Store} {roots : List NodeId}, s.Forest roots →
    (s.grow source t).2.Forest ((s.grow source t).1 :: roots)
  | .node l cs, s, roots, h => by
    rw [grow_node]
    exact (Forest.growAll cs h).make source l

theorem Forest.growAll : ∀ (ts : List RawTree) {s : Store} {roots : List NodeId}, s.Forest roots →
    (s.growAll source ts).2.Forest ((s.growAll source ts).1 ++ roots)
  | [], s, roots, h => by simpa using h
  | t :: ts, s, roots, h => by
    rw [growAll_cons]
    exact (Forest.growAll ts (Forest.grow t h)).perm List.perm_middle

end

mutual

theorem Forest.keeps_grow : ∀ (t : RawTree) {s : Store} {roots : List NodeId}, s.Forest roots →
    s.Keeps (s.grow source t).2
  | .node l cs, s, roots, h => by
    rw [grow_node]
    have hall := h.growAll source cs
    exact (Forest.keeps_growAll cs h).trans
      (keeps_make source l fun c hc => hall.lt_size c (List.mem_append_left _ hc))

theorem Forest.keeps_growAll : ∀ (ts : List RawTree) {s : Store} {roots : List NodeId},
    s.Forest roots → s.Keeps (s.growAll source ts).2
  | [], s, roots, h => by
    rw [growAll_nil]
    exact .refl s
  | t :: ts, s, roots, h => by
    rw [growAll_cons]
    exact (Forest.keeps_grow t h).trans (Forest.keeps_growAll ts (h.grow source t))

end

mutual

/-- The new tree is a copy of the engine's. -/
theorem Forest.mirrors_grow : ∀ (t : RawTree) {s : Store} {roots : List NodeId}, s.Forest roots →
    (s.grow source t).2.Mirrors source t (s.grow source t).1
  | .node l cs, s, roots, h => by
    have hall := h.growAll source cs
    have hlt : ∀ c ∈ (s.growAll source cs).1, c < (s.growAll source cs).2.size := fun c hc =>
      hall.lt_size c (List.mem_append_left _ hc)
    rw [grow_node, make_fst]
    exact hall.mirrors_new (keeps_make source l hlt) hlt
      ((node_make source l hlt _).trans (if_pos rfl)) (Forest.mirrorsAll_growAll cs h)

theorem Forest.mirrorsAll_growAll : ∀ (ts : List RawTree) {s : Store} {roots : List NodeId},
    s.Forest roots → (s.growAll source ts).2.MirrorsAll source ts (s.growAll source ts).1
  | [], s, roots, h => by simp [MirrorsAll]
  | t :: ts, s, roots, h => by
    have hgrow := h.grow source t
    rw [growAll_cons, MirrorsAll]
    exact ⟨Mirrors.keeps hgrow (hgrow.keeps_growAll source ts) t _ (hgrow.lt_size _ List.mem_cons_self)
      (Forest.mirrors_grow t h), Forest.mirrorsAll_growAll ts hgrow⟩

end

end Grow

end Store

end SourceOutline

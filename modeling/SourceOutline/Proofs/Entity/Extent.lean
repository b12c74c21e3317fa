import Mathlib.Algebra.GroupWithZero.Nat
import Mathlib.Data.List.Perm.Basic
import SourceOutline.Entity.Definition
import SourceOutline.Proofs.Normalize.Tree
import SourceOutline.Proofs.Store.Order

/-! Where the methods of a class stand among all functions of its tree. They take up one run of places;
the runs of two classes are apart or one within the other, as the bodies of the classes are, so that the
functions of a tree can be counted by its outermost bodies. -/
namespace SourceOutline

/-- A run of places in a list, the first one of which belongs to it and the last one not. -/
structure Extent where
  start : ℕ
  stop : ℕ
  start_le_stop : start ≤ stop := by omega
deriving DecidableEq, Repr

namespace Extent

def Within (a b : Extent) : Prop := b.start ≤ a.start ∧ a.stop ≤ b.stop

def Apart (a b : Extent) : Prop := a.stop ≤ b.start ∨ b.stop ≤ a.start

/-- One is within the other, or they are apart. -/
def Laminar (a b : Extent) : Prop := a.Within b ∨ b.Within a ∨ a.Apart b

/-- The entries of a list at the places of a run. -/
def cut {α : Type} (e : Extent) (xs : List α) : List α := (xs.take e.stop).drop e.start

lemma cut_append {α : Type} {e : Extent} {xs ys zs : List α} (hstart : e.start = xs.length)
    (hstop : e.stop = xs.length + ys.length) : e.cut (xs ++ (ys ++ zs)) = ys := by
  rw [cut, hstart, hstop, ← List.length_append, ← List.append_assoc, List.take_left, List.drop_left]

lemma Laminar.symm {a b : Extent} (h : a.Laminar b) : b.Laminar a := by
  rcases h with h | h | h
  · exact Or.inr (Or.inl h)
  · exact Or.inl h
  · exact Or.inr (Or.inr h.symm)

lemma laminar_of_empty {a : Extent} (h : a.stop = a.start) (b : Extent) : a.Laminar b := by
  simp only [Laminar, Within, Apart]
  omega

end Extent

namespace Store

def functionNodes (s : Store) (n : NodeId) : List NodeId := s.findByKind n "function_definition"

def classNodes (s : Store) (n : NodeId) : List NodeId := s.findByKind n "class_definition"

/-- The block that is the body of a class. -/
def bodyOf? (s : Store) (c : NodeId) : Option NodeId := s.childOfKind c ["block"]

/-- The definitions of the methods of a class. -/
def methodNodes (s : Store) (c : NodeId) : List NodeId := (s.bodyOf? c).elim [] s.functionNodes

/-- A node lies in the body of the class `c`. -/
def InBody (s : Store) (c m : NodeId) : Prop := ∃ b ∈ s.bodyOf? c, m ∈ s.walk b

/-- A node below `n` lies in no body of a class below `n`. -/
def InNoBody (s : Store) (n m : NodeId) : Prop := ∀ c ∈ s.classNodes n, ¬ s.InBody c m

/-- A class has a body, and that body lies in the body of no other class below `n`. -/
def Outermost (s : Store) (n c : NodeId) : Prop :=
  ∃ b ∈ s.bodyOf? c, ∀ d ∈ s.classNodes n, d ≠ c → ¬ s.InBody d b

instance (s : Store) (c m : NodeId) : Decidable (s.InBody c m) := by
  unfold InBody
  infer_instance

instance (s : Store) (n m : NodeId) : Decidable (s.InNoBody n m) := by
  unfold InNoBody
  infer_instance

instance (s : Store) (n c : NodeId) : Decidable (s.Outermost n c) := by
  unfold Outermost
  infer_instance

/-- How many functions a walk from `n` meets before `m`. -/
def functionsBefore (s : Store) (n m : NodeId) : ℕ :=
  ((s.before n m).filter fun a => s.kind a == "function_definition").length

/-- The places that the functions below `m` take up among those below `n`. -/
def extentBelow (s : Store) (n m : NodeId) : Extent where
  start := s.functionsBefore n m
  stop := s.functionsBefore n m + (s.functionNodes m).length

/-- The places that the methods of a class take up among the functions below `n`. A class without a body
has none, at the place where the class is met. -/
def methodExtent (s : Store) (n c : NodeId) : Extent :=
  match s.bodyOf? c with
  | some b => s.extentBelow n b
  | none => ⟨s.functionsBefore n c, s.functionsBefore n c, Nat.le_refl _⟩

variable {s : Store} {roots : List NodeId} {n m a b c d : NodeId}

lemma mem_functionNodes : m ∈ s.functionNodes n ↔ m ∈ s.walk n ∧ s.kind m = "function_definition" := by
  simp [functionNodes, findByKind]

lemma mem_classNodes : m ∈ s.classNodes n ↔ m ∈ s.walk n ∧ s.kind m = "class_definition" := by
  simp [classNodes, findByKind]

lemma mem_methodNodes :
    m ∈ s.methodNodes c ↔ s.InBody c m ∧ s.kind m = "function_definition" := by
  cases hb : s.bodyOf? c with
  | none => simp [methodNodes, InBody, hb]
  | some b => simp [methodNodes, InBody, hb, mem_functionNodes]

lemma methods_classEntity (s : Store) (settings : Settings) (c : NodeId) :
    (s.classEntity settings c).methods = (s.methodNodes c).map (s.function settings) := by
  cases hb : s.bodyOf? c with
  | none =>
    simp only [bodyOf?] at hb
    simp [classEntity, methodNodes, bodyOf?, hb]
  | some b =>
    simp only [bodyOf?] at hb
    simp [classEntity, methodNodes, bodyOf?, hb, functions, functionNodes]

lemma mem_children_of_bodyOf? (h : b ∈ s.bodyOf? c) : b ∈ s.children c := List.mem_of_find?_eq_some h

namespace Forest

lemma bodyOf?_mem_walk (h : s.Forest roots) (hb : b ∈ s.bodyOf? c) : b ∈ s.walk c :=
  h.acyclic.mem_walk_of_mem_children (mem_children_of_bodyOf? hb)

lemma mem_walk_of_inBody (h : s.Forest roots) (hm : s.InBody c m) : m ∈ s.walk c := by
  obtain ⟨b,hb,hm⟩ := hm
  exact h.acyclic.mem_walk_trans (h.bodyOf?_mem_walk hb) hm

/-- No two classes have the same body. -/
lemma eq_of_bodyOf? (h : s.Forest roots) (hc : b ∈ s.bodyOf? c) (hd : b ∈ s.bodyOf? d) : c = d := by
  have hparent := (h.mem_children_iff c b).mp (mem_children_of_bodyOf? hc)
  rw [(h.mem_children_iff d b).mp (mem_children_of_bodyOf? hd)] at hparent
  exact (Option.some.inj hparent).symm

section Places

/-- Up to a node below `m`, a walk meets the functions before `m` and some of those below `m`. -/
lemma functionsBefore_eq (h : s.Forest roots) (hm : m ∈ s.walk n) (ha : a ∈ s.walk m) :
    s.functionsBefore n a = s.functionsBefore n m + s.functionsBefore m a := by
  rw [functionsBefore, h.before_eq_append hm ha, List.filter_append, List.length_append]
  rfl

lemma functionsBefore_add_le (h : s.Forest roots) (ha : a ∈ s.walk m) :
    s.functionsBefore m a + (s.functionNodes a).length ≤ (s.functionNodes m).length := by
  obtain ⟨after,hsplit⟩ := h.exists_walk_eq ha
  rw [functionNodes.eq_1 s m, findByKind, hsplit, List.filter_append, List.filter_append,
    List.length_append, List.length_append, ← Nat.add_assoc]
  exact Nat.le_add_right _ _

theorem extentBelow_within (h : s.Forest roots) (hm : m ∈ s.walk n) (ha : a ∈ s.walk m) :
    (s.extentBelow n a).Within (s.extentBelow n m) := by
  have hle := h.functionsBefore_add_le ha
  simp only [Extent.Within, extentBelow, h.functionsBefore_eq hm ha]
  omega

/-- Functions below two nodes take up places apart, unless one node is above the other. -/
theorem extentBelow_laminar (h : s.Forest roots) (ha : a ∈ s.walk n) (hb : b ∈ s.walk n) :
    (s.extentBelow n a).Laminar (s.extentBelow n b) := by
  by_cases hab : a ∈ s.walk b
  · exact Or.inl (h.extentBelow_within hb hab)
  by_cases hba : b ∈ s.walk a
  · exact Or.inr (Or.inl (h.extentBelow_within ha hba))
  have hcount : ∀ {a b}, s.before n a ++ s.walk a <+: s.before n b →
      (s.extentBelow n a).stop ≤ (s.extentBelow n b).start := by
    intro a b hp
    have hle := (hp.filter fun m => s.kind m == "function_definition").length_le
    rwa [List.filter_append, List.length_append] at hle
  exact Or.inr (Or.inr ((h.prefix_before_or ha hb hab hba).imp hcount hcount))

theorem methodExtent_laminar (h : s.Forest roots) (hc : c ∈ s.classNodes n) (hd : d ∈ s.classNodes n) :
    (s.methodExtent n c).Laminar (s.methodExtent n d) := by
  have hcn := (mem_classNodes.mp hc).1
  have hdn := (mem_classNodes.mp hd).1
  cases hbc : s.bodyOf? c with
  | none =>
    apply Extent.laminar_of_empty
    simp [methodExtent, hbc]
  | some b =>
    cases hbd : s.bodyOf? d with
    | none =>
      apply Extent.Laminar.symm
      apply Extent.laminar_of_empty
      simp [methodExtent, hbd]
    | some e =>
      simp only [methodExtent, hbc, hbd]
      exact h.extentBelow_laminar (h.acyclic.mem_walk_trans hcn (h.bodyOf?_mem_walk hbc))
        (h.acyclic.mem_walk_trans hdn (h.bodyOf?_mem_walk hbd))

/-- The methods of a class in the body of another one are among the methods of that one. -/
theorem methodExtent_within (h : s.Forest roots) (hc : c ∈ s.classNodes n) (hd : s.InBody c d) :
    (s.methodExtent n d).Within (s.methodExtent n c) := by
  obtain ⟨b,hb,hdb⟩ := hd
  have hbn := h.acyclic.mem_walk_trans (mem_classNodes.mp hc).1 (h.bodyOf?_mem_walk hb)
  have hextent : s.methodExtent n c = s.extentBelow n b := by
    rw [Option.mem_def] at hb
    simp only [methodExtent, hb]
  rw [hextent]
  cases he : s.bodyOf? d with
  | some e =>
    simp only [methodExtent, he]
    exact h.extentBelow_within hbn (h.acyclic.mem_walk_trans hdb (h.bodyOf?_mem_walk he))
  | none =>
    have hle := h.functionsBefore_add_le hdb
    simp only [methodExtent, he, Extent.Within, extentBelow, h.functionsBefore_eq hbn hdb]
    omega

/-- The functions below a node stand, in order, at the places of its extent. -/
theorem cut_extentBelow (h : s.Forest roots) (settings : Settings) (hm : m ∈ s.walk n) :
    (s.extentBelow n m).stop ≤ (s.functions settings n).length ∧
    s.functions settings m = (s.extentBelow n m).cut (s.functions settings n) := by
  obtain ⟨after,hsplit⟩ := h.exists_walk_eq hm
  have hall : s.functions settings n =
      ((s.before n m).filter fun a => s.kind a == "function_definition").map (s.function settings) ++
        (s.functions settings m ++
          (after.filter fun a => s.kind a == "function_definition").map (s.function settings)) := by
    rw [functions, findByKind, hsplit]
    simp only [List.filter_append, List.map_append]
    rfl
  rw [hall]
  constructor
  · simp [extentBelow, functionsBefore, functions, functionNodes]
  · rw [Extent.cut_append]
    · simp [extentBelow, functionsBefore]
    · simp [extentBelow, functionsBefore, functions, functionNodes]

theorem cut_methodExtent (h : s.Forest roots) (settings : Settings) (hc : c ∈ s.classNodes n) :
    (s.methodExtent n c).stop ≤ (s.functions settings n).length ∧
    (s.classEntity settings c).methods = (s.methodExtent n c).cut (s.functions settings n) := by
  have hcn := (mem_classNodes.mp hc).1
  rw [methods_classEntity]
  cases hb : s.bodyOf? c with
  | some b =>
    have hcut := h.cut_extentBelow settings (h.acyclic.mem_walk_trans hcn (h.bodyOf?_mem_walk hb))
    simp only [methodExtent, hb]
    rw [← hcut.2]
    refine ⟨hcut.1,?_⟩
    simp [methodNodes, hb, functions, functionNodes]
  | none =>
    have hle := Nat.le_trans (Nat.le_add_right _ _) (h.cut_extentBelow settings hcn).1
    simp only [methodExtent, hb]
    refine ⟨hle,?_⟩
    simp [methodNodes, hb, Extent.cut]

end Places

section Count

/-- What lies in the body of a class lies in an outermost body: of the bodies above it, the last to be
made is one. -/
theorem exists_outermost (h : s.Forest roots) {c : NodeId} (hc : c ∈ s.classNodes n)
    (hm : s.InBody c m) :
    ∃ d ∈ s.classNodes n, s.Outermost n d ∧ s.InBody d m := by
  obtain ⟨b,hb,hmb⟩ := hm
  by_cases hout : s.Outermost n c
  · exact ⟨c,hc,hout,b,hb,hmb⟩
  · simp only [Outermost, not_exists, not_and] at hout
    have hother := hout b hb
    push Not at hother
    obtain ⟨d,hd,hdc,e,he,hbe⟩ := hother
    have hne : b ≠ e := fun hbe' => hdc (h.eq_of_bodyOf? (hbe' ▸ he) hb)
    have hlt : b < e := Nat.lt_of_le_of_ne (h.le_of_mem_walk hbe) hne
    have hsize : b < s.size := h.listed_lt_size (mem_children_of_bodyOf? hb)
    exact h.exists_outermost hd ⟨e,he,h.acyclic.mem_walk_trans hbe hmb⟩
termination_by s.size - (s.bodyOf? c).getD 0
decreasing_by
  rw [Option.mem_def] at hb he
  rw [hb, he]
  exact Nat.sub_lt_sub_left hsize hlt

lemma nodup_functionNodes (h : s.Forest roots) (n : NodeId) : (s.functionNodes n).Nodup :=
  (h.nodup_walk n).filter _

lemma nodup_methodNodes (h : s.Forest roots) (c : NodeId) : (s.methodNodes c).Nodup := by
  cases hb : s.bodyOf? c with
  | none => simp [methodNodes, hb]
  | some b => simpa [methodNodes, hb] using h.nodup_functionNodes b

/-- Two outermost bodies have nothing in common. -/
lemma disjoint_methodNodes (h : s.Forest roots) (hc : c ∈ s.classNodes n) (hd : d ∈ s.classNodes n)
    (hcout : s.Outermost n c) (hdout : s.Outermost n d) (hcd : c ≠ d) :
    List.Disjoint (s.methodNodes c) (s.methodNodes d) := by
  obtain ⟨b,hb,hbout⟩ := hcout
  obtain ⟨e,he,heout⟩ := hdout
  intro m hmc hmd
  obtain ⟨b',hb',hmb⟩ := (mem_methodNodes.mp hmc).1
  obtain ⟨e',he',hme⟩ := (mem_methodNodes.mp hmd).1
  obtain rfl : b' = b := Option.some.inj (hb'.symm.trans hb)
  obtain rfl : e' = e := Option.some.inj (he'.symm.trans he)
  rcases h.mem_walk_or_mem_walk hmb hme with hbe | heb
  · exact hbout d hd hcd.symm ⟨_,he,hbe⟩
  · exact heout c hc hcd ⟨_,hb,heb⟩

/-- The functions in bodies of classes are those in outermost bodies, each of them once. -/
theorem inBody_perm (h : s.Forest roots) (n : NodeId) :
    ((s.functionNodes n).filter fun m => !decide (s.InNoBody n m)).Perm
      (((s.classNodes n).filter (s.Outermost n)).flatMap s.methodNodes) := by
  apply (List.perm_ext_iff_of_nodup ((h.nodup_functionNodes n).filter _) _).mpr
  · intro m
    simp only [List.mem_filter, List.mem_flatMap, decide_eq_true_eq, Bool.not_eq_true',
      decide_eq_false_iff_not]
    constructor
    · rintro ⟨hm,hbody⟩
      simp only [InNoBody] at hbody
      push Not at hbody
      obtain ⟨c,hc,hcm⟩ := hbody
      obtain ⟨d,hd,hout,hdm⟩ := h.exists_outermost hc hcm
      exact ⟨d,⟨hd,hout⟩,mem_methodNodes.mpr ⟨hdm,(mem_functionNodes.mp hm).2⟩⟩
    · rintro ⟨c,⟨hc,-⟩,hm⟩
      obtain ⟨hbody,hkind⟩ := mem_methodNodes.mp hm
      have hmn := h.acyclic.mem_walk_trans (mem_classNodes.mp hc).1 (h.mem_walk_of_inBody hbody)
      exact ⟨mem_functionNodes.mpr ⟨hmn,hkind⟩,fun hno => hno c hc hbody⟩
  · rw [List.nodup_flatMap]
    refine ⟨fun c _ => h.nodup_methodNodes c,?_⟩
    have hnodup : ((s.classNodes n).filter (s.Outermost n)).Nodup :=
      ((h.nodup_walk n).filter _).filter _
    apply hnodup.imp_of_mem
    intro c d hc hd hcd
    simp only [List.mem_filter, decide_eq_true_eq] at hc hd
    exact h.disjoint_methodNodes hc.1 hd.1 hc.2 hd.2 hcd

/-- Functions are counted by those outside of all bodies and those in each outermost body. -/
theorem length_functions (h : s.Forest roots) (settings : Settings) (n : NodeId) :
    (s.functions settings n).length =
      ((s.functionNodes n).filter (s.InNoBody n)).length +
        (((s.classNodes n).filter (s.Outermost n)).map
          fun c => (s.classEntity settings c).methods.length).sum := by
  have hmethods : ∀ c, (s.classEntity settings c).methods.length = (s.methodNodes c).length := by
    intro c
    rw [methods_classEntity, List.length_map]
  simp only [hmethods]
  rw [← List.length_flatMap, ← (h.inBody_perm n).length_eq,
    ← List.length_eq_length_filter_add, functions, List.length_map]
  rfl

end Count

end Forest

end Store

/-- Each class of a tree has a run of places at which its methods stand among all functions of the tree.
Any two of these runs are apart or one within the other, and a class in the body of another one has its
run within that of the other. There are as many functions as there are outside of all bodies and, added
up, methods of classes with an outermost body. -/
theorem RawTree.methods_laminar (raw : RawTree) (source : Octets) (settings : Settings) :
    let s := (raw.normalize source).2
    let root := (raw.normalize source).1
    let functions := s.functions settings root
    ∃ extent : NodeId → Extent,
      List.Forall₂ (fun c entity => (extent c).stop ≤ functions.length ∧
        entity.methods = (extent c).cut functions) (s.classNodes root) (s.classes settings root) ∧
      (∀ c ∈ s.classNodes root, ∀ d ∈ s.classNodes root, (extent c).Laminar (extent d)) ∧
      (∀ c ∈ s.classNodes root, ∀ d ∈ s.classNodes root, s.InBody c d →
        (extent d).Within (extent c)) ∧
      functions.length = ((s.functionNodes root).filter (s.InNoBody root)).length +
        (((s.classNodes root).filter (s.Outermost root)).map
          fun c => (s.classEntity settings c).methods.length).sum := by
  intro s root functions
  have hforest : s.Forest [root] := raw.forest_normalize source
  refine ⟨s.methodExtent root,?_,?_,?_,hforest.length_functions settings root⟩
  · change List.Forall₂ _ _ ((s.classNodes root).map (s.classEntity settings))
    rw [List.forall₂_map_right_iff, List.forall₂_same]
    exact fun c hc => hforest.cut_methodExtent settings hc
  · exact fun c hc d hd => hforest.methodExtent_laminar hc hd
  · exact fun c hc d _ hd => hforest.methodExtent_within hc hd

end SourceOutline

import Mathlib.Data.List.Chain
import SourceOutline.Entity.Import
import SourceOutline.Proofs.Diagnostic.Marked
import SourceOutline.Proofs.Entity.Extent

/-! That everything is listed in the order of the source text. Where spans are nested like the nodes of a
tree, pre-order meets the nodes by their starts; diagnostics and entities are read off in pre-order, and
methods lie within the lines of their class. -/
namespace SourceOutline

/-- One span lies within another one. -/
def Span.Within (a b : Span) : Prop := b.start ≤ a.start ∧ a.stop ≤ b.stop

/-- One span starts no later than another one. -/
def Span.StartsBefore (a b : Span) : Prop := a.start ≤ b.start

instance (a b : Span) : Decidable (a.Within b) := by
  unfold Span.Within
  infer_instance

lemma Span.within_refl (a : Span) : a.Within a := ⟨Position.le_refl _,Position.le_refl _⟩

lemma Span.Within.trans {a b c : Span} (hab : a.Within b) (hbc : b.Within c) : a.Within c :=
  ⟨Position.le_trans hbc.1 hab.1,Position.le_trans hab.2 hbc.2⟩

lemma RawNode.position_of_diagnostic? {n : RawNode} {r : Bool} {d : Diagnostic}
    (h : n.diagnostic? r = some d) : d.position = n.span.start := by
  rw [diagnostic?, Option.map_eq_some_iff] at h
  obtain ⟨fault,-,rfl⟩ := h
  rfl

namespace RawTree

def span (t : RawTree) : Span := t.label.span

/-- No node starts after its end, children lie within their parent, and each child ends before the next
one starts. -/
def WellNested (t : RawTree) : Prop := ∀ u ∈ t.subtrees, u.span.start ≤ u.span.stop ∧
  (∀ c ∈ u.children, c.span.Within u.span) ∧ u.children.IsChain fun a b => a.span.stop ≤ b.span.start

instance (t : RawTree) : Decidable t.WellNested := by
  unfold WellNested
  infer_instance

variable {t u : RawTree} {l : RawNode} {cs : List RawTree}

lemma label_mem_preorder (t : RawTree) : t.label ∈ t.preorder :=
  mem_preorder_iff.mpr ⟨t,t.mem_subtrees_self,rfl⟩

namespace WellNested

lemma of_mem_subtrees (h : t.WellNested) (hu : u ∈ t.subtrees) : u.WellNested :=
  fun v hv => h v (mem_subtrees_trans hu hv)

lemma child {c : RawTree} (h : (node l cs).WellNested) (hc : c ∈ cs) : c.WellNested :=
  h.of_mem_subtrees (mem_subtrees_child hc)

lemma start_le_stop (h : t.WellNested) (hl : l ∈ t.preorder) : l.span.start ≤ l.span.stop := by
  obtain ⟨u,hu,rfl⟩ := mem_preorder_iff.mp hl
  exact (h u hu).1

lemma child_within {c : RawTree} (h : (node l cs).WellNested) (hc : c ∈ cs) : c.span.Within l.span :=
  (h _ (mem_subtrees_self _)).2.1 c hc

lemma chain (h : (node l cs).WellNested) : cs.IsChain fun a b => a.span.stop ≤ b.span.start :=
  (h _ (mem_subtrees_self _)).2.2

mutual

/-- The spans of all nodes lie within that of the root. -/
theorem within_root : ∀ {t : RawTree}, t.WellNested → ∀ l ∈ t.preorder, l.span.Within t.span
  | .node l cs, h, m, hm => by
    rw [preorder, List.mem_cons] at hm
    rcases hm with rfl | hm
    · exact Span.within_refl _
    · obtain ⟨c,hc,hmc⟩ := within_some (fun c hc => h.child hc) m hm
      exact hmc.trans (h.child_within hc)

theorem within_some : ∀ {ts : List RawTree}, (∀ t ∈ ts, t.WellNested) →
    ∀ l ∈ preorderAll ts, ∃ t ∈ ts, l.span.Within t.span
  | t :: ts, h, m, hm => by
    rw [preorderAll, List.mem_append] at hm
    rcases hm with hm | hm
    · exact ⟨t,List.mem_cons_self,within_root (h t List.mem_cons_self) m hm⟩
    · obtain ⟨u,hu,hmu⟩ := within_some (fun u hu => h u (List.mem_cons_of_mem _ hu)) m hm
      exact ⟨u,List.mem_cons_of_mem _ hu,hmu⟩

end

/-- A tree ends before all later ones start, not only before the next one. -/
lemma stop_le_start {ts : List RawTree} (h : ∀ u ∈ t :: ts, u.WellNested)
    (hchain : (t :: ts).IsChain fun a b => a.span.stop ≤ b.span.start) :
    ∀ u ∈ ts, t.span.stop ≤ u.span.start := by
  induction ts generalizing t with
  | nil => simp
  | cons v ts ih =>
    obtain ⟨hnext,hchain⟩ := List.isChain_cons_cons.mp hchain
    intro u hu
    rcases List.mem_cons.mp hu with rfl | hu
    · exact hnext
    · have hv := (h v (by simp)).start_le_stop v.label_mem_preorder
      have hu := ih (fun w hw => h w (List.mem_cons_of_mem _ hw)) hchain u hu
      exact Position.le_trans hnext (Position.le_trans hv hu)

mutual

/-- Pre-order meets the nodes by their starts. -/
theorem pairwise_preorder : ∀ {t : RawTree}, t.WellNested →
    t.preorder.Pairwise fun a b => a.span.StartsBefore b.span
  | .node l cs, h => by
    rw [preorder, List.pairwise_cons]
    refine ⟨?_,pairwise_preorderAll (fun c hc => h.child hc) h.chain⟩
    intro m hm
    have hwithin := h.within_root m (by rw [preorder]; exact List.mem_cons_of_mem _ hm)
    exact hwithin.1

theorem pairwise_preorderAll : ∀ {ts : List RawTree}, (∀ t ∈ ts, t.WellNested) →
    (ts.IsChain fun a b => a.span.stop ≤ b.span.start) →
    (preorderAll ts).Pairwise fun a b => a.span.StartsBefore b.span
  | [], _, _ => by simp [preorderAll]
  | t :: ts, h, hchain => by
    have hrest : ∀ u ∈ ts, u.WellNested := fun u hu => h u (List.mem_cons_of_mem _ hu)
    rw [preorderAll, List.pairwise_append]
    refine ⟨pairwise_preorder (h t List.mem_cons_self),pairwise_preorderAll hrest hchain.tail,?_⟩
    intro a ha b hb
    obtain ⟨u,hu,hbu⟩ := within_some hrest b hb
    have ht := h t List.mem_cons_self
    have hend : a.span.start ≤ t.span.stop :=
      Position.le_trans (ht.start_le_stop ha) (ht.within_root a ha).2
    exact Position.le_trans hend (Position.le_trans (stop_le_start h hchain u hu) hbu.1)

end

end WellNested

mutual

/-- What the search of a tree reaches stands in the order of its labels. -/
theorem marked_sublist : ∀ t : RawTree, t.marked.Sublist t.preorder
  | .node l cs => by
    rw [marked, preorder]
    split_ifs
    · exact (markedAll_sublist cs).cons_cons l
    · exact List.nil_sublist _

theorem markedAll_sublist : ∀ ts : List RawTree, (markedAll ts).Sublist (preorderAll ts)
  | [] => List.nil_sublist _
  | t :: ts => by
    rw [markedAll, preorderAll]
    exact (marked_sublist t).append (markedAll_sublist ts)

end

theorem WellNested.pairwise_diagnostics (h : t.WellNested) (r : Bool) :
    ((t.diagnostics r).map (·.position)).Pairwise (· ≤ ·) := by
  rw [diagnostics_eq, List.pairwise_map]
  apply List.Pairwise.filterMap _ _ (h.pairwise_preorder.sublist t.marked_sublist)
  intro a b hab d hd e he
  rw [RawNode.position_of_diagnostic? hd, RawNode.position_of_diagnostic? he]
  exact hab

end RawTree

namespace Store
variable {s : Store} {source : Octets} {t : RawTree} {n m : NodeId}

/-- A walk over a copy meets the spans of the engine's tree in pre-order. -/
lemma Mirrors.map_span (hs : s.Acyclic) (h : s.Mirrors source t n) :
    (s.walk n).map s.span = t.preorder.map (·.span) := by
  rw [← List.forall₂_eq_eq_eq, List.forall₂_map_left_iff, List.forall₂_map_right_iff]
  exact (h.forall₂_walk hs).flip.imp fun _ _ hcarries => hcarries.span_eq

lemma Mirrors.span_eq (h : s.Mirrors source t n) : s.span n = t.span := by
  obtain ⟨l,cs⟩ := t
  exact (mirrors_node.mp h).1.span_eq

/-- Every node of a copy is the root of the copy of a subtree. -/
theorem Mirrors.exists_subtree (hs : s.Acyclic) (h : s.Mirrors source t n) (hm : m ∈ s.walk n) :
    ∃ u ∈ t.subtrees, s.Mirrors source u m := by
  induction n using hs.induction generalizing t with
  | step n ih =>
    rcases hs.mem_walk_iff_eq_or.mp hm with rfl | ⟨c,hc,hm⟩
    · exact ⟨t,t.mem_subtrees_self,h⟩
    · obtain ⟨l,cs⟩ := t
      obtain ⟨v,hv,hvc⟩ := exists_of_mem_right (mirrorsAll_iff_forall₂.mp (mirrors_node.mp h).2) hc
      obtain ⟨u,hu,hum⟩ := ih c hc hvc hm
      exact ⟨u,RawTree.mem_subtrees_of_child hv hu,hum⟩

/-- Below each node that a walk from `n` meets, nodes are met by their starts, and their spans lie
within that of the node. -/
structure SpansNested (s : Store) (n : NodeId) : Prop where
  pairwise : ∀ m ∈ s.walk n, (s.walk m).Pairwise fun a b => (s.span a).StartsBefore (s.span b)
  within : ∀ m ∈ s.walk n, ∀ a ∈ s.walk m, (s.span a).Within (s.span m)
  start_le_stop : ∀ m ∈ s.walk n, (s.span m).start ≤ (s.span m).stop

theorem Mirrors.spansNested (hs : s.Acyclic) (h : s.Mirrors source t n) (ht : t.WellNested) :
    s.SpansNested n where
  pairwise m hm := by
    obtain ⟨u,hu,hum⟩ := h.exists_subtree hs hm
    rw [← List.pairwise_map, hum.map_span hs, List.pairwise_map]
    exact (ht.of_mem_subtrees hu).pairwise_preorder
  within m hm a ha := by
    obtain ⟨u,hu,hum⟩ := h.exists_subtree hs hm
    have hspan := List.mem_map_of_mem (f := s.span) ha
    rw [hum.map_span hs] at hspan
    obtain ⟨l,hl,hla⟩ := List.mem_map.mp hspan
    rw [hum.span_eq, ← hla]
    exact (ht.of_mem_subtrees hu).within_root l hl
  start_le_stop m hm := by
    obtain ⟨u,hu,hum⟩ := h.exists_subtree hs hm
    rw [hum.span_eq]
    exact (ht u hu).1

namespace SpansNested

lemma pairwise_startLine (h : s.SpansNested n) (hm : m ∈ s.walk n) (kind : String) :
    ((s.findByKind m kind).map s.startLine).Pairwise (· ≤ ·) := by
  rw [findByKind, List.pairwise_map]
  apply ((h.pairwise m hm).filter _).imp
  exact fun hab => Position.row_le_of_le hab

end SpansNested

/-- The entities of a tree are listed by the lines they start on, methods within the lines of their
class. -/
structure InSourceOrder (s : Store) (settings : Settings) (root : NodeId) : Prop where
  functions : ((s.functions settings root).map (·.startLine)).Pairwise (· ≤ ·)
  classes : ((s.classes settings root).map (·.startLine)).Pairwise (· ≤ ·)
  methods : ∀ c ∈ s.classes settings root, (c.methods.map (·.startLine)).Pairwise (· ≤ ·)
  methods_within : ∀ c ∈ s.classes settings root, ∀ m ∈ c.methods,
    c.startLine ≤ m.startLine ∧ m.startLine ≤ m.endLine ∧ m.endLine ≤ c.endLine
  directImports : (((s.imports root).filter (·.form == .direct)).map (·.startLine)).Pairwise (· ≤ ·)
  moduleImports :
    (((s.imports root).filter (·.form == .ofModule)).map (·.startLine)).Pairwise (· ≤ ·)

lemma filter_direct_imports (s : Store) (n : NodeId) : (s.imports n).filter (·.form == .direct) =
    (s.findByKind n "import_statement").map s.directImport := by
  simp [imports, directImport, moduleImport, List.filter_append, List.filter_map, Function.comp_def]

lemma filter_ofModule_imports (s : Store) (n : NodeId) : (s.imports n).filter (·.form == .ofModule) =
    (s.findByKind n "import_from_statement").map s.moduleImport := by
  simp [imports, directImport, moduleImport, List.filter_append, List.filter_map, Function.comp_def]

theorem SpansNested.inSourceOrder {roots : List NodeId} (hf : s.Forest roots) (h : s.SpansNested n)
    (settings : Settings) : s.InSourceOrder settings n := by
  have hroot := h.pairwise_startLine (hf.acyclic.mem_walk_self n)
  have hclass : ∀ e ∈ s.classes settings n, ∃ c ∈ s.walk n, e = s.classEntity settings c := by
    intro e he
    obtain ⟨c,hc,rfl⟩ := List.mem_map.mp he
    exact ⟨c,(mem_classNodes.mp hc).1,rfl⟩
  constructor
  case functions =>
    rw [Store.functions, List.map_map]
    exact hroot _
  case classes =>
    rw [Store.classes, List.map_map]
    exact hroot _
  case methods =>
    intro e he
    obtain ⟨c,hc,rfl⟩ := hclass e he
    rw [methods_classEntity, List.map_map]
    cases hb : s.bodyOf? c with
    | none => simp [methodNodes, hb]
    | some b =>
      simp only [methodNodes, hb]
      exact h.pairwise_startLine (hf.acyclic.mem_walk_trans hc (hf.bodyOf?_mem_walk hb)) _
  case methods_within =>
    intro e he f hf'
    obtain ⟨c,hc,rfl⟩ := hclass e he
    rw [methods_classEntity] at hf'
    obtain ⟨m,hm,rfl⟩ := List.mem_map.mp hf'
    have hmc := hf.mem_walk_of_inBody (mem_methodNodes.mp hm).1
    have hwithin := h.within c hc m hmc
    have hstart := h.start_le_stop m (hf.acyclic.mem_walk_trans hc hmc)
    exact ⟨Position.row_le_of_le hwithin.1,Position.row_le_of_le hstart,
      Position.row_le_of_le hwithin.2⟩
  case directImports =>
    rw [filter_direct_imports, List.map_map]
    exact hroot _
  case moduleImports =>
    rw [filter_ofModule_imports, List.map_map]
    exact hroot _

end Store

namespace RawTree

/-- Where the engine nests spans like nodes, diagnostics come by their places, with or without missing
nodes, and entities by their lines, whatever octets the text has and whatever the settings. -/
theorem sourceOrder_of_wellNested {raw : RawTree} (h : raw.WellNested) (source : Octets)
    (settings : Settings) :
    (∀ reportMissing, ((raw.diagnostics reportMissing).map (·.position)).Pairwise (· ≤ ·)) ∧
      (raw.normalize source).2.InSourceOrder settings (raw.normalize source).1 := by
  have hforest := raw.forest_normalize source
  have hspans := (raw.mirrors_normalize source).spansNested hforest.acyclic h
  exact ⟨h.pairwise_diagnostics,hspans.inSourceOrder hforest settings⟩

/-- The tree of a class with two methods, the second one broken, and an import. -/
def twoMethods : RawTree :=
  .node ⟨"module", 0, 42, ⟨⟨0, 0⟩, ⟨4, 0⟩⟩, true, false⟩ [
    .node ⟨"class_definition", 0, 32, ⟨⟨0, 0⟩, ⟨2, 11⟩⟩, true, false⟩ [
      .node ⟨"identifier", 6, 7, ⟨⟨0, 6⟩, ⟨0, 7⟩⟩, false, false⟩ [],
      .node ⟨"block", 10, 32, ⟨⟨1, 1⟩, ⟨2, 11⟩⟩, true, false⟩ [
        .node ⟨"function_definition", 10, 20, ⟨⟨1, 1⟩, ⟨1, 11⟩⟩, false, false⟩ [
          .node ⟨"identifier", 14, 15, ⟨⟨1, 5⟩, ⟨1, 6⟩⟩, false, false⟩ []],
        .node ⟨"function_definition", 22, 32, ⟨⟨2, 1⟩, ⟨2, 11⟩⟩, true, false⟩ [
          .node ⟨"identifier", 26, 27, ⟨⟨2, 5⟩, ⟨2, 6⟩⟩, false, false⟩ [],
          .node ⟨"ERROR", 31, 32, ⟨⟨2, 10⟩, ⟨2, 11⟩⟩, true, false⟩ []]]],
    .node ⟨"import_statement", 33, 41, ⟨⟨3, 0⟩, ⟨3, 8⟩⟩, false, false⟩ [
      .node ⟨"import", 33, 39, ⟨⟨3, 0⟩, ⟨3, 6⟩⟩, false, false⟩ [],
      .node ⟨"dotted_name", 40, 41, ⟨⟨3, 7⟩, ⟨3, 8⟩⟩, false, false⟩ []]]

theorem sourceOrder_of_wellNested_twoMethods :
    let source := Text.Utf8.octets "class A:\n def f(): 0\n def g(): (\nimport a\n"
    twoMethods.WellNested ∧
    (∀ reportMissing, ((twoMethods.diagnostics reportMissing).map (·.position)).Pairwise (· ≤ ·)) ∧
      (twoMethods.normalize source).2.InSourceOrder {} (twoMethods.normalize source).1 := by
  intro source
  have hnested : twoMethods.WellNested := by decide
  exact ⟨hnested,sourceOrder_of_wellNested hnested source {}⟩

end RawTree

end SourceOutline

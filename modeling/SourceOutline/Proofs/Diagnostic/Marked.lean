import Mathlib.Data.List.Basic
import Mathlib.Tactic.SplitIfs
import SourceOutline.Diagnostic

/-! What the search of an engine's tree reports, said without its stack: the labels that are marked
together with all labels above them, in pre-order. Where marks are passed on upwards these are all marked
labels, so that no error is left out. -/
namespace SourceOutline

/-- A piece of text that the grammar could not place. -/
def RawNode.isError (n : RawNode) : Bool := n.kind == "ERROR"

/-- The error that such a piece is reported as. -/
def RawNode.misplaced (n : RawNode) : Diagnostic := ⟨.misplaced, n.span.start⟩

namespace RawNode
variable {n : RawNode} {r : Bool}

lemma diagnostic?_of_isError (h : n.isError = true) : n.diagnostic? r = some n.misplaced := by
  simp only [isError] at h
  simp [diagnostic?, fault?, h, misplaced]

lemma diagnostic?_of_isMissing (h : n.isError = false) (hm : n.isMissing = true) :
    n.diagnostic? true = some ⟨.missing n.kind, n.span.start⟩ := by
  simp only [isError] at h
  simp [diagnostic?, fault?, h, hm]

lemma severity_of_diagnostic? {d : Diagnostic} (h : n.isError = false)
    (hd : n.diagnostic? r = some d) : d.severity = .warning := by
  simp only [isError] at h
  simp only [diagnostic?, fault?, h] at hd
  cases hr : r && n.isMissing <;> simp [hr] at hd
  rw [← hd]
  rfl

lemma diagnostic?_false_of_not_isError (h : n.isError = false) : n.diagnostic? false = none := by
  simp only [isError] at h
  simp [diagnostic?, fault?, h]

end RawNode

/-- The errors among the diagnostics of some labels are those that pieces of text are reported as. -/
theorem filter_filterMap_diagnostic? (r : Bool) (ls : List RawNode) :
    (ls.filterMap (·.diagnostic? r)).filter (·.severity == .error) =
      (ls.filter (·.isError)).map RawNode.misplaced := by
  induction ls with
  | nil => rfl
  | cons l ls ih =>
    rw [List.filterMap_cons]
    by_cases hl : l.isError
    · rw [RawNode.diagnostic?_of_isError hl, List.filter_cons_of_pos hl, List.map_cons, ← ih]
      exact List.filter_cons_of_pos rfl
    · rw [List.filter_cons_of_neg hl, ← ih]
      cases hd : l.diagnostic? r with
      | none => rfl
      | some d =>
        have hwarning := RawNode.severity_of_diagnostic? (Bool.eq_false_iff.mpr hl) hd
        exact List.filter_cons_of_neg (by simp [hwarning])

lemma hasErrors_eq_isEmpty (ds : List Diagnostic) :
    hasErrors ds = !(ds.filter (·.severity == .error)).isEmpty := by
  induction ds with
  | nil => rfl
  | cons d ds ih =>
    rw [hasErrors] at ih
    rw [hasErrors, List.any_cons, ih, List.filter_cons]
    split_ifs with hd <;> simp [hd]

namespace RawTree

mutual

/-- The labels, in pre-order, that are marked together with all labels above them. -/
def marked : RawTree → List RawNode
  | node l cs => if l.hasError then l :: markedAll cs else []

/-- The same for a list of trees, tree after tree. -/
def markedAll : List RawTree → List RawNode
  | [] => []
  | t :: ts => t.marked ++ markedAll ts

end

mutual

/-- All subtrees of a tree, each before those within it. -/
def subtrees : RawTree → List RawTree
  | node l cs => node l cs :: subtreesAll cs

/-- All subtrees of a list of trees, tree after tree. -/
def subtreesAll : List RawTree → List RawTree
  | [] => []
  | t :: ts => t.subtrees ++ subtreesAll ts

end

theorem markedAll_eq_flatMap (ts : List RawTree) : markedAll ts = ts.flatMap marked := by
  induction ts with
  | nil => rfl
  | cons t ts ih => rw [markedAll, ih, List.flatMap_cons]

theorem subtreesAll_eq_flatMap (ts : List RawTree) : subtreesAll ts = ts.flatMap subtrees := by
  induction ts with
  | nil => rfl
  | cons t ts ih => rw [subtreesAll, ih, List.flatMap_cons]

/-- The loop reports what is marked on its stack, after what it has found already. -/
theorem collect_eq (r : Bool) (stack : List RawTree) (found : List Diagnostic) :
    collect r stack found = found.reverse ++ (markedAll stack).filterMap (·.diagnostic? r) := by
  induction stack, found using collect.induct r with
  | case1 found => simp [collect_nil, markedAll]
  | case2 l cs stack found hl ih =>
    rw [collect_cons, if_pos hl, ih, markedAll, marked, if_pos hl, markedAll_eq_flatMap,
      List.flatMap_append, ← markedAll_eq_flatMap, ← markedAll_eq_flatMap, List.cons_append,
      List.filterMap_cons]
    cases l.diagnostic? r <;> simp
  | case3 l cs stack found hl ih =>
    rw [collect_cons, if_neg hl, ih, markedAll, marked, if_neg hl, List.nil_append]

theorem diagnostics_eq (t : RawTree) (r : Bool) :
    t.diagnostics r = t.marked.filterMap (·.diagnostic? r) := by
  rw [diagnostics, collect_eq]
  simp [markedAll]

lemma mem_subtrees_self (t : RawTree) : t ∈ t.subtrees := by
  cases t
  rw [subtrees]
  exact List.mem_cons_self

lemma mem_subtrees_of_child {l : RawNode} {cs : List RawTree} {c u : RawTree} (hc : c ∈ cs)
    (hu : u ∈ c.subtrees) : u ∈ (node l cs).subtrees := by
  rw [subtrees, subtreesAll_eq_flatMap]
  exact List.mem_cons_of_mem _ (List.mem_flatMap.mpr ⟨c,hc,hu⟩)

lemma mem_subtrees_child {u c : RawTree} (hc : c ∈ u.children) : c ∈ u.subtrees := by
  cases u
  exact mem_subtrees_of_child hc c.mem_subtrees_self

mutual

theorem mem_subtrees_trans : ∀ {t u v : RawTree}, u ∈ t.subtrees → v ∈ u.subtrees → v ∈ t.subtrees
  | .node l cs, u, v, hu, hv => by
    rw [subtrees, List.mem_cons] at hu
    rcases hu with rfl | hu
    · exact hv
    · rw [subtrees]
      exact List.mem_cons_of_mem _ (mem_subtreesAll_trans hu hv)

theorem mem_subtreesAll_trans : ∀ {ts : List RawTree} {u v : RawTree}, u ∈ subtreesAll ts →
    v ∈ u.subtrees → v ∈ subtreesAll ts
  | t :: ts, u, v, hu, hv => by
    rw [subtreesAll, List.mem_append] at hu ⊢
    exact hu.imp (mem_subtrees_trans · hv) (mem_subtreesAll_trans · hv)

end

mutual

theorem preorder_eq_map : ∀ t : RawTree, t.preorder = t.subtrees.map label
  | .node l cs => by rw [preorder, subtrees, preorderAll_eq_map cs]; rfl

theorem preorderAll_eq_map : ∀ ts : List RawTree, preorderAll ts = (subtreesAll ts).map label
  | [] => rfl
  | t :: ts => by
    rw [preorderAll, subtreesAll, preorder_eq_map t, preorderAll_eq_map ts, List.map_append]

end

lemma mem_preorder_iff {t : RawTree} {l : RawNode} :
    l ∈ t.preorder ↔ ∃ u ∈ t.subtrees, u.label = l := by
  rw [preorder_eq_map, List.mem_map]

/-- Marks are passed on upwards, and every error is marked. -/
def FlagsClosed (t : RawTree) : Prop := ∀ u ∈ t.subtrees,
  (u.label.isError = true → u.label.hasError = true) ∧
    ∀ c ∈ u.children, c.label.hasError = true → u.label.hasError = true

/-- A node is marked just if it or a node below it is an error or missing. -/
def FlagsExact (t : RawTree) : Prop := ∀ u ∈ t.subtrees,
  u.label.hasError = u.preorder.any fun l => l.isError || l.isMissing

instance (t : RawTree) : Decidable t.FlagsClosed := by
  unfold FlagsClosed
  infer_instance

instance (t : RawTree) : Decidable t.FlagsExact := by
  unfold FlagsExact
  infer_instance

lemma FlagsClosed.child {l : RawNode} {cs : List RawTree} (h : (node l cs).FlagsClosed) {c : RawTree}
    (hc : c ∈ cs) : c.FlagsClosed := fun u hu => h u (mem_subtrees_of_child hc hu)

theorem FlagsExact.closed {t : RawTree} (h : t.FlagsExact) : t.FlagsClosed := by
  intro u hu
  rw [h u hu, List.any_eq_true]
  constructor
  · intro herror
    exact ⟨u.label,mem_preorder_iff.mpr ⟨u,u.mem_subtrees_self,rfl⟩,by rw [herror, Bool.true_or]⟩
  · intro c hc hmark
    rw [h c (mem_subtrees_trans hu (mem_subtrees_child hc)), List.any_eq_true] at hmark
    obtain ⟨l,hl,hbad⟩ := hmark
    obtain ⟨v,hv,rfl⟩ := mem_preorder_iff.mp hl
    exact ⟨v.label,mem_preorder_iff.mpr ⟨v,mem_subtrees_trans (mem_subtrees_child hc) hv,rfl⟩,hbad⟩

lemma marked_of_not_hasError {t : RawTree} (h : t.label.hasError = false) : t.marked = [] := by
  obtain ⟨l,cs⟩ := t
  rw [marked, if_neg (by simpa [label] using h)]

mutual

/-- Where marks are passed on upwards, every marked label is reached. -/
theorem FlagsClosed.marked_eq_filter : ∀ {t : RawTree}, t.FlagsClosed →
    t.marked = t.preorder.filter (·.hasError)
  | .node l cs, h => by
    have hall : markedAll cs = (preorderAll cs).filter (·.hasError) :=
      markedAll_eq_filter fun c hc => h.child hc
    by_cases hl : l.hasError
    · rw [marked, if_pos hl, preorder, List.filter_cons_of_pos hl, hall]
    · -- nothing below is marked either, for its mark would have been passed on to `l`
      have hnone : markedAll cs = [] := by
        rw [markedAll_eq_flatMap, List.flatMap_eq_nil_iff]
        intro c hc
        have hup := (h _ (mem_subtrees_self _)).2 c hc
        exact marked_of_not_hasError (Bool.eq_false_iff.mpr fun hmark => hl (hup hmark))
      rw [marked, if_neg hl, preorder, List.filter_cons_of_neg hl, ← hall, hnone]

theorem markedAll_eq_filter : ∀ {ts : List RawTree}, (∀ t ∈ ts, t.FlagsClosed) →
    markedAll ts = (preorderAll ts).filter (·.hasError)
  | [], _ => rfl
  | t :: ts, h => by
    rw [markedAll, preorderAll, List.filter_append, (h t List.mem_cons_self).marked_eq_filter,
      markedAll_eq_filter fun u hu => h u (List.mem_cons_of_mem _ hu)]

end

/-- Where the flags allow it, the errors reported are those of the whole tree, in pre-order. -/
theorem FlagsClosed.errors_diagnostics {t : RawTree} (h : t.FlagsClosed) (r : Bool) :
    (t.diagnostics r).filter (·.severity == .error) =
      (t.preorder.filter (·.isError)).map RawNode.misplaced := by
  rw [diagnostics_eq, filter_filterMap_diagnostic?, h.marked_eq_filter, List.filter_filter]
  congr 1
  apply List.filter_congr
  intro l hl
  obtain ⟨u,hu,rfl⟩ := mem_preorder_iff.mp hl
  cases herror : u.label.isError with
  | false => rfl
  | true => rw [(h u hu).1 herror]; rfl

theorem FlagsClosed.hasErrors_diagnostics {t : RawTree} (h : t.FlagsClosed) (r : Bool) :
    hasErrors (t.diagnostics r) = true ↔ ∃ u ∈ t.subtrees, u.label.isError = true := by
  rw [hasErrors_eq_isEmpty, h.errors_diagnostics, preorder_eq_map]
  simp

/-- A marked tree without errors has been mended by the engine somewhere. -/
theorem FlagsExact.exists_missing {t : RawTree} (h : t.FlagsExact) (hroot : t.label.hasError = true)
    (hno : ∀ u ∈ t.subtrees, u.label.isError = false) : ∃ u ∈ t.subtrees, u.label.isMissing = true := by
  rw [h t t.mem_subtrees_self, List.any_eq_true] at hroot
  obtain ⟨l,hl,hbad⟩ := hroot
  obtain ⟨u,hu,rfl⟩ := mem_preorder_iff.mp hl
  rw [hno u hu, Bool.false_or] at hbad
  exact ⟨u,hu,hbad⟩

/-- What was mended is reported on request only. -/
theorem FlagsExact.diagnostics_ne_nil_iff {t : RawTree} (h : t.FlagsExact)
    (hroot : t.label.hasError = true) (hno : ∀ u ∈ t.subtrees, u.label.isError = false) (r : Bool) :
    t.diagnostics r ≠ [] ↔ r = true := by
  rw [diagnostics_eq, h.closed.marked_eq_filter]
  cases r with
  | false =>
    have hnone : (t.preorder.filter (·.hasError)).filterMap (·.diagnostic? false) = [] := by
      rw [List.filterMap_eq_nil_iff]
      intro l hl
      obtain ⟨u,hu,rfl⟩ := mem_preorder_iff.mp (List.mem_filter.mp hl).1
      exact RawNode.diagnostic?_false_of_not_isError (hno u hu)
    simp [hnone]
  | true =>
    obtain ⟨u,hu,hmissing⟩ := h.exists_missing hroot hno
    have hmark : u.label.hasError = true := by
      rw [h u hu, List.any_eq_true]
      exact ⟨u.label,mem_preorder_iff.mpr ⟨u,u.mem_subtrees_self,rfl⟩,by rw [hmissing, Bool.or_true]⟩
    have hmem : u.label ∈ t.preorder.filter (·.hasError) :=
      List.mem_filter.mpr ⟨mem_preorder_iff.mpr ⟨u,hu,rfl⟩,hmark⟩
    have hreported := List.mem_filterMap.mpr
      ⟨u.label,hmem,RawNode.diagnostic?_of_isMissing (hno u hu) hmissing⟩
    exact iff_of_true (List.ne_nil_of_mem hreported) rfl

end RawTree

end SourceOutline

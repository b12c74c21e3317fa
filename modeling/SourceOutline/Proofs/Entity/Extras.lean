import Mathlib.Data.List.Forall2
import SourceOutline.Proofs.Entity.Imports

/-! Comments and line continuations in import statements. The grammar lets them stand between any two nodes.
What is looked up by kind does not change when some are put in, but the alias of a name is the third child
of its node, whatever that is: extras in front of it change the alias, and nothing else. -/
namespace SourceOutline

def Entity.ImportedName.withoutAlias (x : Entity.ImportedName) : Entity.ImportedName :=
  { x with knownAs := none }

/-- An import without the aliases of its names and of itself. -/
def Entity.Import.withoutAliases (i : Entity.Import) : Entity.Import :=
  { i with names := i.names.map (·.withoutAlias), knownAs := none }

namespace Store

/-- The kinds of node that the grammar lets stand anywhere. -/
def extraKinds : List String := ["comment", "line_continuation"]

def IsExtra (s : Store) (n : NodeId) : Prop := s.kind n ∈ extraKinds ∧ s.children n = []

instance (s : Store) (n : NodeId) : Decidable (s.IsExtra n) :=
  inferInstanceAs (Decidable (_ ∈ _ ∧ _ = _))

/-- Two nodes are alike in all but their links. -/
structure SameLabel (s t : Store) (n m : NodeId) : Prop where
  kind_eq : s.kind n = t.kind m
  text_eq : s.text n = t.text m
  span_eq : s.span n = t.span m

/-- The nodes of `t`, from child `i` of a node of some kind on, and all below them are those of `s` with
extras put in. Extras stand between two children only, and behind child `i` only where that is allowed for a
node of its kind. -/
inductive Spaced (s t : Store) (allowed : String → ℕ → Prop) :
    String → ℕ → List NodeId → List NodeId → Prop
  | nil {kind : String} {i : ℕ} : Spaced s t allowed kind i [] []
  | cons {kind : String} {i : ℕ} {n m : NodeId} {ns ms extras : List NodeId} (same : s.SameLabel t n m)
      (below : Spaced s t allowed (s.kind n) 0 (s.children n) (t.children m))
      (hextras : ∀ e ∈ extras, t.IsExtra e) (hplace : extras ≠ [] → ns ≠ [] ∧ allowed kind i)
      (rest : Spaced s t allowed kind (i + 1) ns ms) :
      Spaced s t allowed kind i (n :: ns) (m :: (extras ++ ms))

/-- The tree of `t` at `m` is that of `s` at `n` with extras put in where they are allowed. -/
structure SpacedTree (s t : Store) (allowed : String → ℕ → Prop) (n m : NodeId) : Prop where
  label : s.SameLabel t n m
  children : s.Spaced t allowed (s.kind n) 0 (s.children n) (t.children m)

/-- The nodes of a list that are of some kinds. -/
def ofKind (s : Store) (kinds : List String) (ns : List NodeId) : List NodeId :=
  ns.filter fun n => kinds.contains (s.kind n)

section Lists
variable {α β γ : Type} {R : α → β → Prop} {xs : List α} {ys : List β}

lemma filterMap_eq_of_forall₂ (h : List.Forall₂ R xs ys) {f : α → Option γ} {g : β → Option γ}
    (hfg : ∀ x y, R x y → f x = g y) : xs.filterMap f = ys.filterMap g := by
  induction h with
  | nil => rfl
  | cons hxy _ ih => rw [List.filterMap_cons, List.filterMap_cons, hfg _ _ hxy, ih]

lemma rel_head? (h : List.Forall₂ R xs ys) : Option.Rel R xs.head? ys.head? := by
  cases h with
  | nil => exact .none
  | cons hxy _ => exact .some hxy

lemma map_eq_of_forall₂ (h : List.Forall₂ R xs ys) {f : α → γ} {g : β → γ}
    (hfg : ∀ x y, R x y → f x = g y) : xs.map f = ys.map g := by
  rw [← List.forall₂_eq_eq_eq, List.forall₂_map_left_iff, List.forall₂_map_right_iff]
  exact h.imp hfg

end Lists

variable {s t : Store} {allowed : String → ℕ → Prop} {kind : String} {i : ℕ} {n m : NodeId}
  {ns ms : List NodeId} {kinds : List String}

lemma ofKind_cons (s : Store) (kinds : List String) (n : NodeId) (ns : List NodeId) :
    s.ofKind kinds (n :: ns) =
      if kinds.contains (s.kind n) then n :: s.ofKind kinds ns else s.ofKind kinds ns := List.filter_cons

lemma ofKind_extras_append {extras : List NodeId} (h : ∀ e ∈ extras, t.IsExtra e)
    (hkinds : ∀ k ∈ extraKinds, k ∉ kinds) (ms : List NodeId) :
    t.ofKind kinds (extras ++ ms) = t.ofKind kinds ms := by
  rw [ofKind, List.filter_append, List.filter_eq_nil_iff.mpr, List.nil_append, ofKind]
  intro e he
  simpa using hkinds _ (h e he).1

lemma childOfKind_eq_head? (s : Store) (n : NodeId) (kinds : List String) :
    s.childOfKind n kinds = (s.ofKind kinds (s.children n)).head? := by
  rw [ofKind, List.head?_filter, childOfKind]

/-- A reading that finds something at nodes of some kinds only. -/
lemma filterMap_ofKind {β : Type} {f : NodeId → Option β} (hf : ∀ c, s.kind c ∉ kinds → f c = none)
    (ns : List NodeId) : (s.ofKind kinds ns).filterMap f = ns.filterMap f := by
  rw [ofKind, List.filterMap_filter]
  apply List.filterMap_congr
  intro c _
  split_ifs with hc
  · rfl
  · exact (hf c (by simpa using hc)).symm

namespace Spaced

/-- A node behind which nothing is put in. -/
lemma next (same : s.SameLabel t n m)
    (below : s.Spaced t allowed (s.kind n) 0 (s.children n) (t.children m))
    (rest : s.Spaced t allowed kind (i + 1) ns ms) : s.Spaced t allowed kind i (n :: ns) (m :: ms) :=
  .cons same below (List.forall_mem_nil _) (fun hne => absurd rfl hne) rest

/-- Extras among siblings do not matter to who looks for nodes of other kinds. -/
theorem forall₂_ofKind (h : s.Spaced t allowed kind i ns ms) (hkinds : ∀ k ∈ extraKinds, k ∉ kinds) :
    List.Forall₂ (s.SpacedTree t allowed) (s.ofKind kinds ns) (t.ofKind kinds ms) := by
  induction h with
  | nil => exact .nil
  | cons same below hextras _ _ _ ih =>
    rw [ofKind_cons, ofKind_cons, ofKind_extras_append hextras hkinds, same.kind_eq]
    split_ifs
    · exact .cons ⟨same,below⟩ ih
    · exact ih

/-- Nor do they matter to who looks for such nodes further down. -/
theorem forall₂_findByKind (hs : s.Acyclic) (ht : t.Acyclic) (h : s.Spaced t allowed kind i ns ms)
    {wanted : String} (hwanted : wanted ∉ extraKinds) :
    List.Forall₂ (s.SpacedTree t allowed) (ns.flatMap fun c => s.findByKind c wanted)
      (ms.flatMap fun c => t.findByKind c wanted) := by
  induction h with
  | nil => exact .nil
  | @cons _ _ n m ns ms extras same below hextras _ _ ihbelow ih =>
    have hnone : (extras.flatMap fun c => t.findByKind c wanted) = [] := by
      rw [List.flatMap_eq_nil_iff]
      intro e he
      obtain ⟨hkind,hchildren⟩ := hextras e he
      have hne : t.kind e ≠ wanted := fun heq => hwanted (heq ▸ hkind)
      rw [ht.findByKind_eq_append, if_neg hne, hchildren]
      rfl
    rw [List.flatMap_cons, List.flatMap_cons, List.flatMap_append, hnone, List.nil_append,
      hs.findByKind_eq_append n, ht.findByKind_eq_append m, same.kind_eq]
    refine List.rel_append (List.rel_append ?_ ihbelow) ih
    split_ifs
    · exact .cons ⟨same,below⟩ .nil
    · exact .nil

/-- What follows the word `import` is the same but for extras. -/
theorem forall₂_afterKeyword (h : s.Spaced t allowed kind i ns ms) :
    List.Forall₂ (s.SpacedTree t allowed)
      (s.ofKind itemKinds ((ns.dropWhile fun c => s.kind c != "import").drop 1))
      (t.ofKind itemKinds ((ms.dropWhile fun c => t.kind c != "import").drop 1)) := by
  induction h with
  | nil => exact .nil
  | @cons _ _ n m ns ms extras same below hextras _ rest _ ih =>
    by_cases hm : t.kind m = "import"
    · have hn : s.kind n = "import" := same.kind_eq.trans hm
      rw [List.dropWhile_cons_of_neg (by simp [hn]), List.dropWhile_cons_of_neg (by simp [hm]),
        List.drop_one, List.drop_one, List.tail_cons, List.tail_cons]
      rw [ofKind_extras_append hextras (by decide)]
      exact rest.forall₂_ofKind (by decide)
    · have hn : s.kind n ≠ "import" := fun heq => hm (same.kind_eq.symm.trans heq)
      have hskip : ∀ e ∈ extras, (t.kind e != "import") = true := by
        intro e he
        have hne : t.kind e ≠ "import" := fun heq => absurd (heq ▸ (hextras e he).1) (by decide)
        simpa using hne
      rw [List.dropWhile_cons_of_pos (by simpa using hn), List.dropWhile_cons_of_pos (by simpa using hm),
        List.dropWhile_append_of_pos hskip]
      exact ih

/-- A child that no extras are allowed in front of stays where it is. -/
theorem map_text_getElem? (h : s.Spaced t allowed kind i ns ms) (k : ℕ)
    (hfree : ∀ j < k, ¬ allowed kind (i + j)) : ns[k]?.map s.text = ms[k]?.map t.text := by
  induction h generalizing k with
  | nil => rfl
  | @cons kind i n m ns ms extras same _ _ hplace _ _ ih =>
    cases k with
    | zero => simp [same.text_eq]
    | succ k =>
      have hnone : extras = [] := by
        by_contra hne
        exact hfree 0 (Nat.succ_pos k) (hplace hne).2
      subst hnone
      rw [List.nil_append, List.getElem?_cons_succ, List.getElem?_cons_succ]
      apply ih
      intro j hj
      have hfree' := hfree (j + 1) (by omega)
      rwa [Nat.add_comm j 1, ← Nat.add_assoc] at hfree'

end Spaced

namespace SpacedTree

lemma rel_childOfKind (h : s.SpacedTree t allowed n m) (hkinds : ∀ k ∈ extraKinds, k ∉ kinds) :
    Option.Rel (s.SpacedTree t allowed) (s.childOfKind n kinds) (t.childOfKind m kinds) := by
  rw [childOfKind_eq_head?, childOfKind_eq_head?]
  exact rel_head? (h.children.forall₂_ofKind hkinds)

theorem forall₂_importItems (h : s.SpacedTree t allowed n m) : List.Forall₂ (s.SpacedTree t allowed)
    (s.ofKind itemKinds (s.importItems n)) (t.ofKind itemKinds (t.importItems m)) := by
  have hlist := h.rel_childOfKind (by decide : ∀ k ∈ extraKinds, k ∉ ["import_list"])
  rw [importItems, importItems]
  generalize s.childOfKind n ["import_list"] = a, t.childOfKind m ["import_list"] = b at hlist
  cases hlist with
  | none => exact h.children.forall₂_afterKeyword
  | some hlist => exact hlist.children.forall₂_ofKind (by decide)

/-- What is read item by item is the same if it is the same for each pair of items. -/
lemma filterMap_importItems {β : Type} (h : s.SpacedTree t allowed n m) {f g : NodeId → Option β}
    (hf : ∀ c, s.kind c ∉ itemKinds → f c = none) (hg : ∀ c, t.kind c ∉ itemKinds → g c = none)
    (hfg : ∀ c d, s.SpacedTree t allowed c d → f c = g d) :
    (s.importItems n).filterMap f = (t.importItems m).filterMap g := by
  rw [← filterMap_ofKind hf, ← filterMap_ofKind hg]
  exact filterMap_eq_of_forall₂ h.forall₂_importItems hfg

lemma textOf_eq_getD (s : Store) (n : Option NodeId) (otherwise : String) :
    s.textOf n otherwise = (n.map s.text).getD otherwise := by
  cases n <;> rfl

/-- The name of an item is its own text or that of its first child, before which there are no extras. -/
theorem withoutAlias_importedName? {c d : NodeId} (h : s.SpacedTree t allowed c d) :
    (s.importedName? c).map (·.withoutAlias) = (t.importedName? d).map (·.withoutAlias) := by
  have hname := h.children.map_text_getElem? 0 (by simp)
  simp only [importedName?, h.label.kind_eq, h.label.text_eq, textOf_eq_getD, hname]
  split <;> rfl

/-- The alias is the third child, so it stays what it is if no extras come before that. -/
theorem importedName?_eq {c d : NodeId} (h : s.SpacedTree t allowed c d)
    (hfree : ∀ j < 2, ¬ allowed "aliased_import" j) : s.importedName? c = t.importedName? d := by
  have hname := h.children.map_text_getElem? 0 (by simp)
  by_cases hkind : s.kind c = "aliased_import"
  · have halias := h.children.map_text_getElem? 2 (by simpa [hkind] using hfree)
    simp only [importedName?, ← h.label.kind_eq, hkind, textOf_eq_getD, hname, halias]
  · simp only [importedName?, ← h.label.kind_eq, ← h.label.text_eq]
    split <;> simp_all

lemma map_importedNames (h : s.SpacedTree t allowed n m) :
    (s.importedNames (s.importItems n)).map (·.withoutAlias) =
      (t.importedNames (t.importItems m)).map (·.withoutAlias) := by
  rw [importedNames, importedNames, List.map_filterMap, List.map_filterMap]
  apply h.filterMap_importItems
  · exact fun c hc => by rw [importedName?_of_not_mem_itemKinds hc, Option.map_none]
  · exact fun c hc => by rw [importedName?_of_not_mem_itemKinds hc, Option.map_none]
  · exact fun c d hcd => hcd.withoutAlias_importedName?

lemma importedNames_eq (h : s.SpacedTree t allowed n m)
    (hfree : ∀ j < 2, ¬ allowed "aliased_import" j) :
    s.importedNames (s.importItems n) = t.importedNames (t.importItems m) :=
  h.filterMap_importItems (fun _ => importedName?_of_not_mem_itemKinds)
    (fun _ => importedName?_of_not_mem_itemKinds) fun _ _ hcd => hcd.importedName?_eq hfree

lemma startLine_eq (h : s.SpacedTree t allowed n m) : s.startLine n = t.startLine m := by
  rw [startLine, startLine, h.label.span_eq]

/-- The module is looked up by kind. -/
lemma source_eq (h : s.SpacedTree t allowed n m) :
    s.textOf (s.childOfKind n ["dotted_name", "relative_import"]) "" =
      t.textOf (t.childOfKind m ["dotted_name", "relative_import"]) "" := by
  have hmodule := h.rel_childOfKind (by decide : ∀ k ∈ extraKinds, k ∉ ["dotted_name", "relative_import"])
  generalize s.childOfKind n _ = a, t.childOfKind m _ = b at hmodule
  cases hmodule with
  | none => rfl
  | some hmodule => exact hmodule.label.text_eq

theorem withoutAliases_directImport (h : s.SpacedTree t allowed n m) :
    (s.directImport n).withoutAliases = (t.directImport m).withoutAliases := by
  have hnames := h.map_importedNames
  -- the first name stands for the statement, and it keeps its place
  have hfirst := congrArg (fun names => names.head?.elim "" (·.name)) hnames
  simp only [List.head?_map, Option.elim_map] at hfirst
  simp only [Entity.Import.withoutAliases, directImport, hnames, h.startLine_eq]
  exact congrArg (fun source => (⟨_, source, _, _, _⟩ : Entity.Import)) hfirst

theorem withoutAliases_moduleImport (h : s.SpacedTree t allowed n m) :
    (s.moduleImport n).withoutAliases = (t.moduleImport m).withoutAliases := by
  simp only [Entity.Import.withoutAliases, moduleImport, h.map_importedNames, h.startLine_eq, h.source_eq]

lemma directImport_eq (h : s.SpacedTree t allowed n m)
    (hfree : ∀ j < 2, ¬ allowed "aliased_import" j) : s.directImport n = t.directImport m := by
  simp only [directImport, h.importedNames_eq hfree, h.startLine_eq]

lemma moduleImport_eq (h : s.SpacedTree t allowed n m)
    (hfree : ∀ j < 2, ¬ allowed "aliased_import" j) : s.moduleImport n = t.moduleImport m := by
  simp only [moduleImport, h.importedNames_eq hfree, h.startLine_eq, h.source_eq]

theorem forall₂_statements (hs : s.Acyclic) (ht : t.Acyclic) (h : s.SpacedTree t allowed n m)
    {wanted : String} (hwanted : wanted ∉ extraKinds) :
    List.Forall₂ (s.SpacedTree t allowed) (s.findByKind n wanted) (t.findByKind m wanted) := by
  have halone : s.Spaced t allowed "" 0 [n] [m] := .next h.label h.children .nil
  simpa using halone.forall₂_findByKind hs ht hwanted

end SpacedTree

/-- Comments and line continuations that are put in between the nodes of a tree leave its imports as they
are, but for aliases. If none comes before the third child of a renamed name, which is its alias, they leave
the aliases as well. -/
theorem imports_spaced (hs : s.Acyclic) (ht : t.Acyclic) (h : s.SpacedTree t allowed n m) :
    (s.imports n).map (·.withoutAliases) = (t.imports m).map (·.withoutAliases) ∧
    ((∀ j < 2, ¬ allowed "aliased_import" j) → s.imports n = t.imports m) := by
  have hmodules := h.forall₂_statements hs ht (by decide : "import_statement" ∉ extraKinds)
  have hnames := h.forall₂_statements hs ht (by decide : "import_from_statement" ∉ extraKinds)
  constructor
  · simp only [imports, List.map_append, List.map_map]
    congr 1
    · exact map_eq_of_forall₂ hmodules fun _ _ hcd => hcd.withoutAliases_directImport
    · exact map_eq_of_forall₂ hnames fun _ _ hcd => hcd.withoutAliases_moduleImport
  · intro hfree
    rw [imports, imports]
    congr 1
    · exact map_eq_of_forall₂ hmodules fun _ _ hcd => hcd.directImport_eq hfree
    · exact map_eq_of_forall₂ hnames fun _ _ hcd => hcd.moduleImport_eq hfree

/-- The tree of a module that imports one name under another one. The comment, node 6, may be listed among the
children of the statement or of the renamed name, or not at all. -/
def renamedName (statement name : List NodeId) : Store where
  nodes := #[
    ⟨"from", ⟨⟨0, 0⟩, ⟨0, 4⟩⟩, "from", [], some 10⟩,
    ⟨"dotted_name", ⟨⟨0, 5⟩, ⟨0, 6⟩⟩, "m", [], some 10⟩,
    ⟨"import", ⟨⟨0, 7⟩, ⟨0, 13⟩⟩, "import", [], some 10⟩,
    ⟨"(", ⟨⟨0, 14⟩, ⟨0, 15⟩⟩, "(", [], some 10⟩,
    ⟨"dotted_name", ⟨⟨0, 15⟩, ⟨0, 16⟩⟩, "b", [], some 8⟩,
    ⟨"as", ⟨⟨0, 17⟩, ⟨0, 19⟩⟩, "as", [], some 8⟩,
    ⟨"comment", ⟨⟨0, 20⟩, ⟨0, 23⟩⟩, "# c", [], none⟩,
    ⟨"identifier", ⟨⟨1, 2⟩, ⟨1, 3⟩⟩, "d", [], some 8⟩,
    ⟨"aliased_import", ⟨⟨0, 15⟩, ⟨1, 3⟩⟩, "b as d", name, some 10⟩,
    ⟨")", ⟨⟨1, 3⟩, ⟨1, 4⟩⟩, ")", [], some 10⟩,
    ⟨"import_from_statement", ⟨⟨0, 0⟩, ⟨1, 4⟩⟩, "from m import (b as d)", statement, some 11⟩,
    ⟨"module", ⟨⟨0, 0⟩, ⟨2, 0⟩⟩, "from m import (b as d)\n", [10], none⟩]

theorem imports_spaced_renamedName :
    let plain := renamedName [0, 1, 2, 3, 8, 9] [4, 5, 7]
    let commented := renamedName [0, 1, 2, 3, 6, 8, 9] [4, 5, 7]
    let allowed := fun kind j => kind = "aliased_import" → 2 ≤ j
    plain.Acyclic ∧ commented.Acyclic ∧ plain.SpacedTree commented allowed 11 11 ∧
      plain.imports 11 = commented.imports 11 := by
  intro plain commented allowed
  have hs : plain.Acyclic := acyclic_of_lt (by decide)
  have ht : commented.Acyclic := acyclic_of_lt (by decide)
  have hname : plain.Spaced commented allowed "aliased_import" 0 [4, 5, 7] [4, 5, 7] :=
    .next ⟨rfl,rfl,rfl⟩ .nil <| .next ⟨rfl,rfl,rfl⟩ .nil <| .next ⟨rfl,rfl,rfl⟩ .nil .nil
  have hcomment : plain.Spaced commented allowed "import_from_statement" 3 [3, 8, 9]
      (3 :: ([6] ++ [8, 9])) :=
    .cons ⟨rfl,rfl,rfl⟩ .nil (by decide) (by simp [allowed]) <|
      .next ⟨rfl,rfl,rfl⟩ hname <| .next ⟨rfl,rfl,rfl⟩ .nil .nil
  have hstatement : plain.Spaced commented allowed "import_from_statement" 0 [0, 1, 2, 3, 8, 9]
      [0, 1, 2, 3, 6, 8, 9] :=
    .next ⟨rfl,rfl,rfl⟩ .nil <| .next ⟨rfl,rfl,rfl⟩ .nil <| .next ⟨rfl,rfl,rfl⟩ .nil hcomment
  have htree : plain.SpacedTree commented allowed 11 11 :=
    ⟨⟨rfl,rfl,rfl⟩,.next ⟨rfl,rfl,rfl⟩ hstatement .nil⟩
  exact ⟨hs,ht,htree,(imports_spaced hs ht htree).2 (by simp [allowed])⟩

/-- A comment in front of an alias is taken for the alias. -/
theorem imports_commentedAlias :
    let plain := renamedName [0, 1, 2, 3, 8, 9] [4, 5, 7]
    let commented := renamedName [0, 1, 2, 3, 8, 9] [4, 5, 6, 7]
    let allowed := fun kind (_ : ℕ) =>
      kind ∈ ["import_statement", "import_from_statement", "aliased_import"]
    plain.Acyclic ∧ commented.Acyclic ∧ plain.SpacedTree commented allowed 11 11 ∧
      plain.imports 11 = [⟨.ofModule, "m", [⟨"b", some "d"⟩], none, 0⟩] ∧
      commented.imports 11 = [⟨.ofModule, "m", [⟨"b", some "# c"⟩], none, 0⟩] := by
  intro plain commented allowed
  have hcomment : plain.Spaced commented allowed "aliased_import" 1 [5, 7] (5 :: ([6] ++ [7])) :=
    .cons ⟨rfl,rfl,rfl⟩ .nil (by decide) (by simp [allowed]) <| .next ⟨rfl,rfl,rfl⟩ .nil .nil
  have hname : plain.Spaced commented allowed "aliased_import" 0 [4, 5, 7] [4, 5, 6, 7] :=
    .next ⟨rfl,rfl,rfl⟩ .nil hcomment
  have hstatement : plain.Spaced commented allowed "import_from_statement" 0 [0, 1, 2, 3, 8, 9]
      [0, 1, 2, 3, 8, 9] :=
    .next ⟨rfl,rfl,rfl⟩ .nil <| .next ⟨rfl,rfl,rfl⟩ .nil <| .next ⟨rfl,rfl,rfl⟩ .nil <|
      .next ⟨rfl,rfl,rfl⟩ .nil <| .next ⟨rfl,rfl,rfl⟩ hname <| .next ⟨rfl,rfl,rfl⟩ .nil .nil
  have htree : plain.SpacedTree commented allowed 11 11 :=
    ⟨⟨rfl,rfl,rfl⟩,.next ⟨rfl,rfl,rfl⟩ hstatement .nil⟩
  exact ⟨acyclic_of_lt (by decide),acyclic_of_lt (by decide),htree,by decide,by decide⟩

end Store

end SourceOutline

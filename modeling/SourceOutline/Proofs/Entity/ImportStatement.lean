import SourceOutline.Proofs.Entity.Imports
import SourceOutline.Proofs.Entity.Interleaved

/-! What an import statement says is what is read from it. A statement has the grammar's shape if its names
follow the word `import`, in a list of their own or not, with anything in between that is no name; from
such a statement all names are read in their order, together with the module. -/
namespace SourceOutline.Store

/-- The name that an item of an import statement stands for. -/
inductive NamesImport (s : Store) (n : NodeId) : Entity.ImportedName → Prop
  | plain (hkind : s.kind n = "dotted_name" ∨ s.kind n = "identifier") :
      NamesImport s n { name := s.text n }
  | renamed {name word other : NodeId} (hkind : s.kind n = "aliased_import")
      (hchildren : s.children n = [name, word, other]) :
      NamesImport s n { name := s.text name, knownAs := some (s.text other) }
  | star (hkind : s.kind n = "wildcard_import") : NamesImport s n { name := "*" }

/-- Nodes that may stand among the items: punctuation, comments and all else that is no item, no list of
items and no statement. -/
def StandsAmongItems (s : Store) (n : NodeId) : Prop :=
  s.kind n ∉ itemKinds ++ ["import_list", "import_statement", "import_from_statement"]

instance (s : Store) (n : NodeId) : Decidable (s.StandsAmongItems n) :=
  inferInstanceAs (Decidable (_ ∉ _))

/-- Nodes that stand for these names one after the other. -/
def NamesImports (s : Store) : List NodeId → List Entity.ImportedName → Prop :=
  Interleaved s.NamesImport s.StandsAmongItems

/-- What follows the word `import` in a statement: the items themselves, or a list of the items. -/
inductive FollowsKeyword (s : Store) : List NodeId → List Entity.ImportedName → Prop
  | inlined {ns : List NodeId} {names : List Entity.ImportedName} (hnames : s.NamesImports ns names) :
      FollowsKeyword s ns names
  | listed {before after : List NodeId} {list : NodeId} {names : List Entity.ImportedName}
      (hbefore : ∀ n ∈ before, s.StandsAmongItems n) (hafter : ∀ n ∈ after, s.StandsAmongItems n)
      (hkind : s.kind list = "import_list") (hnames : s.NamesImports (s.children list) names) :
      FollowsKeyword s (before ++ list :: after) names

/-- The import that a statement in the grammar's shape stands for. It has at least one name; that of modules
goes by its first name. -/
inductive SaysImport (s : Store) (n : NodeId) : Entity.Import → Prop
  | direct {keyword : NodeId} {tail : List NodeId} {first : Entity.ImportedName}
      {more : List Entity.ImportedName} (hkind : s.kind n = "import_statement")
      (hchildren : s.children n = keyword :: tail) (hkeyword : s.kind keyword = "import")
      (htail : s.FollowsKeyword tail (first :: more)) :
      SaysImport s n {
        form := .direct
        source := first.name
        names := first :: more
        knownAs := first.knownAs
        startLine := s.startLine n }
  | ofModule {word module keyword : NodeId} {tail : List NodeId} {first : Entity.ImportedName}
      {more : List Entity.ImportedName} (hkind : s.kind n = "import_from_statement")
      (hchildren : s.children n = word :: module :: keyword :: tail) (hword : s.kind word = "from")
      (hmodule : s.kind module = "dotted_name" ∨ s.kind module = "relative_import")
      (hkeyword : s.kind keyword = "import") (htail : s.FollowsKeyword tail (first :: more)) :
      SaysImport s n {
        form := .ofModule
        source := s.text module
        names := first :: more
        knownAs := none
        startLine := s.startLine n }

variable {s : Store} {n : NodeId} {ns : List NodeId} {names : List Entity.ImportedName}

lemma kind_mem_of_namesImport {name : Entity.ImportedName} (h : s.NamesImport n name) :
    s.kind n ∈ itemKinds := by
  cases h with
  | plain hkind => rcases hkind with hkind | hkind <;> simp [itemKinds, hkind]
  | renamed hkind => simp [itemKinds, hkind]
  | star hkind => simp [itemKinds, hkind]

lemma importedName?_of_namesImport {name : Entity.ImportedName} (h : s.NamesImport n name) :
    s.importedName? n = some name := by
  cases h with
  | plain hkind => rcases hkind with hkind | hkind <;> simp [importedName?, hkind]
  | renamed hkind hchildren => simp [importedName?, hkind, hchildren, textOf]
  | star hkind => simp [importedName?, hkind]

theorem importedNames_of_namesImports (h : s.NamesImports ns names) : s.importedNames ns = names := by
  have hother : ∀ m, s.StandsAmongItems m → s.importedName? m = none :=
    fun m hm => importedName?_of_not_mem_itemKinds fun hitem => hm (List.mem_append_left _ hitem)
  have hread := h.filterMap_eq (fun _ _ => importedName?_of_namesImport) hother
  rw [importedNames, hread, List.filterMap_some]

lemma kind_ne_of_standsAmongItems (h : s.StandsAmongItems n) : s.kind n ≠ "import_list" :=
  fun hlist => h (by simp [hlist])

/-- No list of items stands among items. -/
lemma kind_ne_of_namesImports (h : s.NamesImports ns names) : ∀ m ∈ ns, s.kind m ≠ "import_list" := by
  have hitem : ∀ m name, s.NamesImport m name → s.kind m ≠ "import_list" := by
    intro m name hm hlist
    have hmem := kind_mem_of_namesImport hm
    rw [hlist] at hmem
    exact absurd hmem (by decide)
  exact h.forall_mem hitem fun m hm => kind_ne_of_standsAmongItems hm

/-- The items are found wherever they are: in the first list of items, or else behind the first word
`import`. -/
theorem importedNames_of_followsKeyword {leading : List NodeId} {keyword : NodeId} {tail : List NodeId}
    (hchildren : s.children n = leading ++ keyword :: tail)
    (hleading : ∀ m ∈ leading, s.kind m ≠ "import" ∧ s.kind m ≠ "import_list")
    (hkeyword : s.kind keyword = "import") (h : s.FollowsKeyword tail names) :
    s.importedNames (s.importItems n) = names := by
  have hword : ∀ m ∈ leading ++ [keyword], s.kind m ≠ "import_list" := by
    simp only [List.forall_mem_append, List.forall_mem_singleton, hkeyword]
    exact ⟨fun m hm => (hleading m hm).2,by decide⟩
  cases h with
  | inlined hnames =>
    have hnone : s.childOfKind n ["import_list"] = none := by
      rw [childOfKind_eq_none_iff, hchildren, List.append_cons, List.forall_mem_append]
      simp only [List.mem_singleton]
      exact ⟨hword,kind_ne_of_namesImports hnames⟩
    have hdrop : (s.children n).dropWhile (fun c => s.kind c != "import") = keyword :: tail := by
      rw [hchildren, List.dropWhile_append_of_pos, List.dropWhile_cons_of_neg]
      · simp [hkeyword]
      · intro m hm
        simpa using (hleading m hm).1
    rw [importItems, hnone]
    simp only [hdrop, List.drop_succ_cons, List.drop_zero]
    exact importedNames_of_namesImports hnames
  | @listed before after list _ hbefore _ hkind hnames =>
    have hsplit : s.children n = (leading ++ keyword :: before) ++ list :: after := by
      rw [hchildren, List.append_assoc, List.cons_append]
    have hsome : s.childOfKind n ["import_list"] = some list := by
      apply s.childOfKind_of_append hsplit
      · rw [List.append_cons, List.forall_mem_append]
        simp only [List.mem_singleton]
        exact ⟨hword,fun m hm => kind_ne_of_standsAmongItems (hbefore m hm)⟩
      · simp [hkind]
    rw [importItems, hsome]
    exact importedNames_of_namesImports hnames

/-- All that lies below a node is met in the walks from its children. -/
lemma Acyclic.forall_below_iff (hs : s.Acyclic) {P : NodeId → Prop} :
    (∀ m, Relation.TransGen s.Lists n m → P m) ↔ ∀ c ∈ s.children n, ∀ m ∈ s.walk c, P m := by
  constructor
  · exact fun h c hc m hm => h m (.head' hc (hs.mem_walk_iff.mp hm))
  · intro h m hm
    obtain ⟨c,hc,hcm⟩ := Relation.TransGen.head'_iff.mp hm
    exact h c hc m (hs.mem_walk_iff.mpr hcm)

/-- Where no statement lies below a statement, its own entity is all that there is. -/
lemma Acyclic.imports_eq_singleton (hs : s.Acyclic) (hn : s.isImport n)
    (hbelow : ∀ m, Relation.TransGen s.Lists n m → ¬ s.isImport m) :
    s.imports n = [s.importEntity n] := by
  have hnone : (s.children n).flatMap s.importStatements = [] := by
    rw [List.flatMap_eq_nil_iff]
    intro c hc
    rw [importStatements, List.filter_eq_nil_iff]
    exact hs.forall_below_iff.mp hbelow c hc
  have hperm := s.imports_perm n
  rw [hs.importStatements_eq_append, if_pos hn, hnone] at hperm
  exact List.perm_singleton.mp hperm

/-- Whether items stand in the statement or in a list, and whatever stands among them: the import that a
statement stands for is the one import that is read from it, unless there are statements below it. -/
theorem imports_of_saysImport (hs : s.Acyclic) {e : Entity.Import} (h : s.SaysImport n e)
    (hbelow : ∀ m, Relation.TransGen s.Lists n m → ¬ s.isImport m) : s.imports n = [e] := by
  cases h with
  | @direct keyword tail _ _ hkind hchildren hkeyword htail =>
    have hmodules : s.importsModules n := by simp [importsModules, hkind]
    have hsplit : s.children n = [] ++ keyword :: tail := hchildren
    have hnames := importedNames_of_followsKeyword hsplit (by simp) hkeyword htail
    rw [hs.imports_eq_singleton (by simp [isImport, hmodules]) hbelow,
      importEntity_of_importsModules hmodules, directImport_of_cons hnames]
  | @ofModule word module keyword tail _ _ hkind hchildren hword hmodule hkeyword htail =>
    have hmember : s.importsNames n := by simp [importsNames, hkind]
    have hsplit : s.children n = [word, module] ++ keyword :: tail := hchildren
    have hleading : ∀ m ∈ [word, module], s.kind m ≠ "import" ∧ s.kind m ≠ "import_list" := by
      rcases hmodule with hmodule | hmodule <;> simp [hword, hmodule]
    have hnames := importedNames_of_followsKeyword hsplit hleading hkeyword htail
    have hmodule' : s.children n = [word] ++ module :: keyword :: tail := hchildren
    have hsource : s.childOfKind n ["dotted_name", "relative_import"] = some module := by
      apply s.childOfKind_of_append hmodule'
      · simp [hword]
      · simpa using hmodule
    rw [hs.imports_eq_singleton (by simp [isImport, hmember]) hbelow,
      importEntity_of_importsNames hmember, moduleImport, hnames, hsource]
    rfl

/-- A module with two statements. The first imports names, with punctuation and a comment among them; the
second has a list of two modules. -/
def twoStatements : Store where
  nodes := #[
    ⟨"from", ⟨⟨0, 0⟩, ⟨0, 4⟩⟩, "from", [], some 14⟩,
    ⟨"relative_import", ⟨⟨0, 5⟩, ⟨0, 7⟩⟩, ".p", [], some 14⟩,
    ⟨"import", ⟨⟨0, 8⟩, ⟨0, 14⟩⟩, "import", [], some 14⟩,
    ⟨"(", ⟨⟨0, 15⟩, ⟨0, 16⟩⟩, "(", [], some 14⟩,
    ⟨"comment", ⟨⟨0, 17⟩, ⟨0, 20⟩⟩, "# a", [], some 14⟩,
    ⟨"dotted_name", ⟨⟨1, 0⟩, ⟨1, 1⟩⟩, "a", [], some 14⟩,
    ⟨",", ⟨⟨1, 1⟩, ⟨1, 2⟩⟩, ",", [], some 14⟩,
    ⟨"dotted_name", ⟨⟨1, 3⟩, ⟨1, 4⟩⟩, "b", [], some 10⟩,
    ⟨"as", ⟨⟨1, 5⟩, ⟨1, 7⟩⟩, "as", [], some 10⟩,
    ⟨"identifier", ⟨⟨1, 8⟩, ⟨1, 9⟩⟩, "c", [], some 10⟩,
    ⟨"aliased_import", ⟨⟨1, 3⟩, ⟨1, 9⟩⟩, "b as c", [7, 8, 9], some 14⟩,
    ⟨",", ⟨⟨1, 9⟩, ⟨1, 10⟩⟩, ",", [], some 14⟩,
    ⟨"wildcard_import", ⟨⟨1, 11⟩, ⟨1, 12⟩⟩, "*", [], some 14⟩,
    ⟨")", ⟨⟨1, 12⟩, ⟨1, 13⟩⟩, ")", [], some 14⟩,
    ⟨"import_from_statement", ⟨⟨0, 0⟩, ⟨1, 13⟩⟩, "from .p import ( # a\na, b as c, *)",
      [0, 1, 2, 3, 4, 5, 6, 10, 11, 12, 13], some 25⟩,
    ⟨"import", ⟨⟨2, 0⟩, ⟨2, 6⟩⟩, "import", [], some 24⟩,
    ⟨"dotted_name", ⟨⟨2, 7⟩, ⟨2, 10⟩⟩, "x.y", [], some 19⟩,
    ⟨"as", ⟨⟨2, 11⟩, ⟨2, 13⟩⟩, "as", [], some 19⟩,
    ⟨"identifier", ⟨⟨2, 14⟩, ⟨2, 15⟩⟩, "z", [], some 19⟩,
    ⟨"aliased_import", ⟨⟨2, 7⟩, ⟨2, 15⟩⟩, "x.y as z", [16, 17, 18], some 22⟩,
    ⟨",", ⟨⟨2, 15⟩, ⟨2, 16⟩⟩, ",", [], some 22⟩,
    ⟨"identifier", ⟨⟨2, 17⟩, ⟨2, 18⟩⟩, "w", [], some 22⟩,
    ⟨"import_list", ⟨⟨2, 7⟩, ⟨2, 18⟩⟩, "x.y as z, w", [19, 20, 21], some 24⟩,
    ⟨"comment", ⟨⟨2, 19⟩, ⟨2, 22⟩⟩, "# x", [], some 24⟩,
    ⟨"import_statement", ⟨⟨2, 0⟩, ⟨2, 22⟩⟩, "import x.y as z, w # x", [15, 22, 23], some 25⟩,
    ⟨"module", ⟨⟨0, 0⟩, ⟨3, 0⟩⟩, "from .p import ( # a\na, b as c, *)\nimport x.y as z, w # x\n",
      [14, 24], none⟩]

theorem imports_of_saysImport_twoStatements :
    twoStatements.Acyclic ∧
    twoStatements.imports 14 =
      [⟨.ofModule, ".p", [⟨"a", none⟩, ⟨"b", some "c"⟩, ⟨"*", none⟩], none, 0⟩] ∧
    twoStatements.imports 24 =
      [⟨.direct, "x.y", [⟨"x.y", some "z"⟩, ⟨"w", none⟩], some "z", 2⟩] := by
  have hs : twoStatements.Acyclic := acyclic_of_lt (by decide)
  have hb : twoStatements.NamesImport 10 ⟨"b", some "c"⟩ := @NamesImport.renamed _ 10 7 8 9 rfl rfl
  have hx : twoStatements.NamesImport 19 ⟨"x.y", some "z"⟩ := @NamesImport.renamed _ 19 16 17 18 rfl rfl
  have hnames : twoStatements.NamesImports [3, 4, 5, 6, 10, 11, 12, 13]
      [⟨"a", none⟩, ⟨"b", some "c"⟩, ⟨"*", none⟩] :=
    .other (by decide) <| .other (by decide) <| .item (.plain (by decide)) <| .other (by decide) <|
      .item hb <| .other (by decide) <| .item (.star rfl) <| .other (by decide) .nil
  have hlist : twoStatements.NamesImports [19, 20, 21] [⟨"x.y", some "z"⟩, ⟨"w", none⟩] :=
    .item hx <| .other (by decide) <| .item (.plain (by decide)) .nil
  have htail : twoStatements.FollowsKeyword ([] ++ 22 :: [23]) [⟨"x.y", some "z"⟩, ⟨"w", none⟩] :=
    .listed (by simp) (by decide) rfl hlist
  have hmember : twoStatements.SaysImport 14
      ⟨.ofModule, ".p", [⟨"a", none⟩, ⟨"b", some "c"⟩, ⟨"*", none⟩], none, 0⟩ :=
    @SaysImport.ofModule _ 14 0 1 2 _ _ _ rfl rfl rfl (by decide) rfl (.inlined hnames)
  have hdirect : twoStatements.SaysImport 24
      ⟨.direct, "x.y", [⟨"x.y", some "z"⟩, ⟨"w", none⟩], some "z", 2⟩ :=
    @SaysImport.direct _ 24 15 _ _ _ rfl rfl rfl htail
  exact ⟨hs,imports_of_saysImport hs hmember (hs.forall_below_iff.mpr (by decide)),
    imports_of_saysImport hs hdirect (hs.forall_below_iff.mpr (by decide))⟩

end SourceOutline.Store

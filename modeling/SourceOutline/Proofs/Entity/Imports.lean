import SourceOutline.Entity.Import
import SourceOutline.Proofs.Store.Composition

/-! How the imports below a node are listed. Every import statement gives one entity, those that import
modules before those that import names out of a module, and otherwise in the order of the walk. A
statement that imports modules goes by its first name. -/
namespace SourceOutline.Store

def importsModules (s : Store) (n : NodeId) : Bool := s.kind n == "import_statement"

def importsNames (s : Store) (n : NodeId) : Bool := s.kind n == "import_from_statement"

def isImport (s : Store) (n : NodeId) : Bool := s.importsModules n || s.importsNames n

/-- The import statements of both forms below a node, each before those below it. -/
def importStatements (s : Store) (n : NodeId) : List NodeId := (s.walk n).filter s.isImport

/-- The entity of an import statement of either form. -/
def importEntity (s : Store) (n : NodeId) : Entity.Import :=
  if s.importsNames n then s.moduleImport n else s.directImport n

/-- The kinds of node that stand for imported names. -/
def itemKinds : List String := ["identifier", "dotted_name", "aliased_import", "wildcard_import"]

/-- What the entity of an import statement holds besides its names and its line. Where names are imported
out of a module, no alias stands for the statement; where modules are imported, the first name stands for
it, if there is one. -/
inductive Summarizes (s : Store) (n : NodeId) : Entity.Import → Prop
  | ofModule (hkind : s.kind n = "import_from_statement") :
      Summarizes s n {
        form := .ofModule
        source := s.textOf (s.childOfKind n ["dotted_name", "relative_import"])
        names := s.importedNames (s.importItems n)
        knownAs := none
        startLine := s.startLine n }
  | nameless (hkind : s.kind n = "import_statement") (hnames : s.importedNames (s.importItems n) = []) :
      Summarizes s n {
        form := .direct
        source := ""
        names := []
        knownAs := none
        startLine := s.startLine n }
  | byFirst {first : Entity.ImportedName} {more : List Entity.ImportedName}
      (hkind : s.kind n = "import_statement")
      (hnames : s.importedNames (s.importItems n) = first :: more) :
      Summarizes s n {
        form := .direct
        source := first.name
        names := first :: more
        knownAs := first.knownAs
        startLine := s.startLine n }

variable {s : Store} {n : NodeId}

lemma importedName?_of_not_mem_itemKinds (h : s.kind n ∉ itemKinds) : s.importedName? n = none := by
  simp only [itemKinds, List.mem_cons, List.not_mem_nil, not_or, or_false] at h
  simp only [importedName?]
  split <;> simp_all

lemma directImport_of_nil (h : s.importedNames (s.importItems n) = []) :
    s.directImport n = ⟨.direct, "", [], none, s.startLine n⟩ := by
  simp [directImport, h]

lemma directImport_of_cons {first : Entity.ImportedName} {more : List Entity.ImportedName}
    (h : s.importedNames (s.importItems n) = first :: more) :
    s.directImport n = ⟨.direct, first.name, first :: more, first.knownAs, s.startLine n⟩ := by
  simp [directImport, h]

lemma importEntity_of_importsModules (h : s.importsModules n) : s.importEntity n = s.directImport n := by
  have hkind : s.kind n = "import_statement" := by simpa [importsModules] using h
  simp [importEntity, importsNames, hkind]

lemma importEntity_of_importsNames (h : s.importsNames n) : s.importEntity n = s.moduleImport n :=
  if_pos h

theorem summarizes_importEntity (h : s.isImport n) : s.Summarizes n (s.importEntity n) := by
  rcases (Bool.or_eq_true _ _).mp h with hmodules | hnames
  · have hkind : s.kind n = "import_statement" := by simpa [importsModules] using hmodules
    rw [importEntity_of_importsModules hmodules]
    cases hlist : s.importedNames (s.importItems n) with
    | nil =>
      rw [directImport_of_nil hlist]
      exact .nameless hkind hlist
    | cons first more =>
      rw [directImport_of_cons hlist]
      exact .byFirst hkind hlist
  · have hkind : s.kind n = "import_from_statement" := by simpa [importsNames] using hnames
    rw [importEntity_of_importsNames hnames]
    exact .ofModule hkind

/-- Statements of one form can be picked from all import statements or from all nodes. -/
lemma filter_importStatements {p : NodeId → Bool} (hp : ∀ m, p m → s.isImport m) (n : NodeId) :
    (s.importStatements n).filter p = (s.walk n).filter p := by
  rw [importStatements, List.filter_filter]
  apply List.filter_congr
  intro m _
  cases hm : p m with
  | false => rfl
  | true => simp [hp m hm]

/-- Of the two forms, an import statement has just one. -/
lemma importsNames_eq_not (h : s.isImport n) : s.importsNames n = !s.importsModules n := by
  rcases (Bool.or_eq_true _ _).mp h with hn | hn <;>
    simp_all [importsModules, importsNames]

theorem imports_eq (s : Store) (n : NodeId) :
    s.imports n = ((s.importStatements n).filter s.importsModules).map s.importEntity ++
      ((s.importStatements n).filter s.importsNames).map s.importEntity := by
  have hmodules : ((s.importStatements n).filter s.importsModules).map s.importEntity =
      (s.findByKind n "import_statement").map s.directImport := by
    rw [filter_importStatements fun m hm => by simp [isImport, hm]]
    exact List.map_congr_left fun m hm => importEntity_of_importsModules (List.of_mem_filter hm)
  have hnames : ((s.importStatements n).filter s.importsNames).map s.importEntity =
      (s.findByKind n "import_from_statement").map s.moduleImport := by
    rw [filter_importStatements fun m hm => by simp [isImport, hm]]
    exact List.map_congr_left fun m hm => importEntity_of_importsNames (List.of_mem_filter hm)
  rw [hmodules, hnames, imports]

theorem imports_perm (s : Store) (n : NodeId) :
    (s.imports n).Perm ((s.importStatements n).map s.importEntity) := by
  have hnames : (s.importStatements n).filter s.importsNames =
      (s.importStatements n).filter fun m => !s.importsModules m :=
    List.filter_congr fun m hm => importsNames_eq_not (List.of_mem_filter hm)
  rw [imports_eq, hnames, ← List.map_append]
  exact (List.filter_append_perm _ _).map _

theorem Acyclic.importStatements_eq_append (hs : s.Acyclic) (n : NodeId) :
    s.importStatements n =
      (if s.isImport n then [n] else []) ++ (s.children n).flatMap s.importStatements := by
  rw [importStatements, hs.walk_eq_cons, List.filter_cons, List.filter_flatMap]
  split_ifs <;> rfl

/-- The import statements below a node are the node itself, if it is one, and those below its children.
The imports are their entities, one for each: first those of the statements that import modules, then
those of the others, both in the order of the statements. -/
theorem imports_partition (hs : s.Acyclic) (n : NodeId) :
    s.importStatements n =
      (if s.isImport n then [n] else []) ++ (s.children n).flatMap s.importStatements ∧
    (∀ m, m ∈ s.importStatements n ↔ Relation.ReflTransGen s.Lists n m ∧ s.isImport m) ∧
    s.imports n = ((s.importStatements n).filter s.importsModules).map s.importEntity ++
      ((s.importStatements n).filter s.importsNames).map s.importEntity ∧
    (s.imports n).Perm ((s.importStatements n).map s.importEntity) ∧
    ∀ m ∈ s.importStatements n, s.Summarizes m (s.importEntity m) := by
  refine ⟨hs.importStatements_eq_append n,?_,s.imports_eq n,s.imports_perm n,?_⟩
  · intro m
    rw [importStatements, List.mem_filter, hs.mem_walk_iff]
  · exact fun m hm => summarizes_importEntity (List.of_mem_filter hm)

/-- A module with a statement that imports names, within which there is one that imports a module under
another name, and after it a statement without any names. -/
def nestedImports : Store where
  nodes := #[
    ⟨"import", ⟨⟨1, 1⟩, ⟨1, 7⟩⟩, "import", [], some 5⟩,
    ⟨"dotted_name", ⟨⟨1, 8⟩, ⟨1, 9⟩⟩, "b", [], some 4⟩,
    ⟨"as", ⟨⟨1, 10⟩, ⟨1, 12⟩⟩, "as", [], some 4⟩,
    ⟨"identifier", ⟨⟨1, 13⟩, ⟨1, 14⟩⟩, "c", [], some 4⟩,
    ⟨"aliased_import", ⟨⟨1, 8⟩, ⟨1, 14⟩⟩, "b as c", [1, 2, 3], some 5⟩,
    ⟨"import_statement", ⟨⟨1, 1⟩, ⟨1, 14⟩⟩, "import b as c", [0, 4], some 9⟩,
    ⟨"from", ⟨⟨0, 0⟩, ⟨0, 4⟩⟩, "from", [], some 9⟩,
    ⟨"dotted_name", ⟨⟨0, 5⟩, ⟨0, 6⟩⟩, "a", [], some 9⟩,
    ⟨"ERROR", ⟨⟨1, 1⟩, ⟨1, 14⟩⟩, "import b as c", [5], some 9⟩,
    ⟨"import_from_statement", ⟨⟨0, 0⟩, ⟨1, 14⟩⟩, "from a\n import b as c", [6, 7, 8], some 12⟩,
    ⟨"import", ⟨⟨2, 0⟩, ⟨2, 6⟩⟩, "import", [], some 11⟩,
    ⟨"import_statement", ⟨⟨2, 0⟩, ⟨2, 6⟩⟩, "import", [10], some 12⟩,
    ⟨"module", ⟨⟨0, 0⟩, ⟨3, 0⟩⟩, "from a\n import b as c\nimport\n", [9, 11], none⟩]

theorem imports_partition_nestedImports :
    nestedImports.Acyclic ∧
    nestedImports.importStatements 12 = [] ++ ([9, 5] ++ [11]) ∧
    nestedImports.imports 12 =
      [⟨.direct, "b", [⟨"b", some "c"⟩], some "c", 1⟩, ⟨.direct, "", [], none, 2⟩] ++
        [⟨.ofModule, "a", [], none, 0⟩] ∧
    nestedImports.Summarizes 5 ⟨.direct, "b", [⟨"b", some "c"⟩], some "c", 1⟩ := by
  have hs : nestedImports.Acyclic := acyclic_of_lt (by decide)
  obtain ⟨hstatements,hmem,himports,-,hsummary⟩ := imports_partition hs 12
  have hfive : 5 ∈ nestedImports.importStatements 12 := by
    rw [hstatements]
    decide
  exact ⟨hs,hstatements.trans (by decide),himports.trans (by decide),hsummary 5 hfive⟩

end SourceOutline.Store

import SourceOutline.Entity.Definition

/-!
Import statements of a tree. Statements that import modules come first and those that import names out
of a module second, each group in the order of the walk.
-/
namespace SourceOutline.Store

/-- The items of an import statement: those of its list, or whatever follows the word `import`. -/
def importItems (s : Store) (n : NodeId) : List NodeId :=
  match s.childOfKind n ["import_list"] with
  | some list => s.children list
  | none => ((s.children n).dropWhile fun c => s.kind c != "import").drop 1

/-- The name that one item imports; punctuation imports none. -/
def importedName? (s : Store) (n : NodeId) : Option Entity.ImportedName :=
  match s.kind n with
  | "identifier" | "dotted_name" => some { name := s.text n }
  | "aliased_import" =>
    some {
      name := s.textOf (s.children n)[0]?
      knownAs := (s.children n)[2]?.map s.text }
  | "wildcard_import" => some { name := "*" }
  | _ => none

/-- The names that a list of items imports. -/
def importedNames (s : Store) (items : List NodeId) : List Entity.ImportedName :=
  items.filterMap s.importedName?

/-- The entity of a statement that imports modules; the first module stands for all of them. -/
def directImport (s : Store) (n : NodeId) : Entity.Import :=
  let names := s.importedNames (s.importItems n)
  { form := .direct
    source := names.head?.elim "" (·.name)
    names
    knownAs := names.head?.bind (·.knownAs)
    startLine := s.startLine n }

/-- The entity of a statement that imports names out of a module. -/
def moduleImport (s : Store) (n : NodeId) : Entity.Import where
  form := .ofModule
  source := s.textOf (s.childOfKind n ["dotted_name", "relative_import"])
  names := s.importedNames (s.importItems n)
  knownAs := none
  startLine := s.startLine n

/-- All imports below a node. -/
def imports (s : Store) (n : NodeId) : List Entity.Import :=
  (s.findByKind n "import_statement").map s.directImport ++
    (s.findByKind n "import_from_statement").map s.moduleImport

end SourceOutline.Store

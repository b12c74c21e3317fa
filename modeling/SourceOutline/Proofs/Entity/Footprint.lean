import SourceOutline.Entity.Import
import SourceOutline.Proofs.Entity.Decorators

/-! What is read of a store. Walks and import statements are read from the nodes below a node alone, and so
is all of a definition but its decorators. These are read on the way up, from the wrappers around it and from
the kind of the node that comes after them. -/
namespace SourceOutline

def Entity.Function.withoutDecorators (f : Entity.Function) : Entity.Function :=
  { f with decorators := [] }

/-- A class without its decorators and those of its methods. -/
def Entity.Class.withoutDecorators (c : Entity.Class) : Entity.Class :=
  { c with methods := c.methods.map (·.withoutDecorators), decorators := [] }

namespace Store

/-- Two stores say the same of a node, its parent apart. -/
structure AgreesAt (s t : Store) (n : NodeId) : Prop where
  kind_eq : s.kind n = t.kind n
  text_eq : s.text n = t.text n
  span_eq : s.span n = t.span n
  children_eq : s.children n = t.children n

/-- Two stores say the same of a node and of all nodes below it, their parents apart. -/
def AgreesBelow (s t : Store) (n : NodeId) : Prop :=
  ∀ m, Relation.ReflTransGen s.Lists n m → s.AgreesAt t m

/-- The nodes that a climb for decorators looks at: it goes on from wrappers only. -/
inductive LooksAt (s : Store) : Option NodeId → NodeId → Prop
  | here {n : NodeId} : LooksAt s (some n) n
  | above {n m : NodeId} (hn : s.isWrapper n) (rest : LooksAt s (s.parent n) m) : LooksAt s (some n) m

/-- What a climb for decorators finds out about each child of a wrapper. -/
def listed (s : Store) (n : NodeId) : List (String × String) :=
  (s.children n).map fun c => (s.kind c, s.text c)

/-- Two stores say the same of a node to a climb for decorators: its kind and, if it is a wrapper, its parent
and the kinds and texts of its children. -/
structure AgreesOnWrapper (s t : Store) (n : NodeId) : Prop where
  kind_eq : s.kind n = t.kind n
  parent_eq : s.isWrapper n → s.parent n = t.parent n
  listed_eq : s.isWrapper n → s.listed n = t.listed n

def isDefinition (s : Store) (n : NodeId) : Bool :=
  s.kind n == "function_definition" || s.kind n == "class_definition"

/-- Two stores give each definition below a node the same parent, and agree on all that a climb from there
looks at. -/
def AgreesAround (s t : Store) (n : NodeId) : Prop :=
  ∀ d, Relation.ReflTransGen s.Lists n d → s.isDefinition d →
    s.parent d = t.parent d ∧ ∀ m, s.LooksAt (s.parent d) m → s.AgreesOnWrapper t m

variable {s t : Store} {settings : Settings} {n m : NodeId} {kinds : List String}

section Climb
variable {link : Option NodeId}

lemma looksAt_some_iff :
    s.LooksAt (some n) m ↔ m = n ∨ s.isWrapper n ∧ s.LooksAt (s.parent n) m := by
  constructor
  · intro h
    cases h with
    | here => exact Or.inl rfl
    | above hn rest => exact Or.inr ⟨hn,rest⟩
  · rintro (rfl | ⟨hn,rest⟩)
    · exact .here
    · exact .above hn rest

lemma ownDecorators_eq_listed (s : Store) (n : NodeId) :
    s.ownDecorators n = ((s.listed n).filter fun c => c.1 == "decorator").map (·.2) := by
  simp [ownDecorators, listed, List.filter_map, Function.comp_def]

lemma AgreesOnWrapper.isWrapper_eq (h : s.AgreesOnWrapper t n) : s.isWrapper n = t.isWrapper n := by
  rw [isWrapper, isWrapper, h.kind_eq]

/-- A climb reads nothing but what it looks at, also where parent links go round in a circle. -/
theorem wrapperDecorators_eq (depth : ℕ) (h : ∀ m, s.LooksAt link m → s.AgreesOnWrapper t m) :
    s.wrapperDecorators depth link = t.wrapperDecorators depth link := by
  induction depth generalizing link with
  | zero => rfl
  | succ depth ih =>
    cases link with
    | none => rfl
    | some n =>
      have hn := h n .here
      rw [wrapperDecorators_some, wrapperDecorators_some, ← hn.isWrapper_eq]
      split_ifs with hwrapper
      · rw [← hn.parent_eq hwrapper, ih fun m hm => h m (.above hwrapper hm), ownDecorators_eq_listed,
          ownDecorators_eq_listed, hn.listed_eq hwrapper]
      · rfl

lemma AgreesAround.decorators_eq (h : s.AgreesAround t n) (hm : Relation.ReflTransGen s.Lists n m)
    (hdefinition : s.isDefinition m) (maxDepth : ℤ) :
    s.decorators m maxDepth = t.decorators m maxDepth := by
  obtain ⟨hparent,hclimb⟩ := h m hm hdefinition
  rw [decorators, decorators, ← hparent]
  exact wrapperDecorators_eq maxDepth.toNat hclimb

lemma AgreesAround.trans (h : s.AgreesAround t n) (hm : Relation.ReflTransGen s.Lists n m) :
    s.AgreesAround t m := fun d hd => h d (hm.trans hd)

end Climb

section Lists
variable {ns : List NodeId}

lemma map_text_eq (h : ∀ c ∈ ns, s.AgreesAt t c) : ns.map s.text = ns.map t.text :=
  List.map_congr_left fun c hc => (h c hc).text_eq

lemma filter_kind_eq {p : String → Bool} (h : ∀ c ∈ ns, s.AgreesAt t c) :
    (ns.filter fun c => p (s.kind c)) = ns.filter fun c => p (t.kind c) :=
  List.filter_congr fun c hc => by rw [(h c hc).kind_eq]

lemma dropWhile_kind_eq {p : String → Bool} (h : ∀ c ∈ ns, s.AgreesAt t c) :
    (ns.dropWhile fun c => p (s.kind c)) = ns.dropWhile fun c => p (t.kind c) := by
  induction ns with
  | nil => rfl
  | cons c ns ih =>
    rw [List.dropWhile_cons, List.dropWhile_cons, (h c List.mem_cons_self).kind_eq,
      ih fun d hd => h d (List.mem_cons_of_mem _ hd)]

lemma textOf_eq {c : Option NodeId} (h : ∀ m ∈ c, s.AgreesAt t m) (otherwise : String) :
    s.textOf c otherwise = t.textOf c otherwise := by
  cases c with
  | none => rfl
  | some m => exact (h m rfl).text_eq

end Lists

namespace AgreesBelow

lemma trans (h : s.AgreesBelow t n) (hm : Relation.ReflTransGen s.Lists n m) : s.AgreesBelow t m :=
  fun a ha => h a (hm.trans ha)

lemma agreesAt (h : s.AgreesBelow t n) : s.AgreesAt t n := h n .refl

lemma child (h : s.AgreesBelow t n) (hm : m ∈ s.children n) : s.AgreesBelow t m := h.trans (.single hm)

lemma agreesAt_child (h : s.AgreesBelow t n) : ∀ c ∈ s.children n, s.AgreesAt t c :=
  fun _ hc => (h.child hc).agreesAt

/-- From a node on, both walks meet the same nodes in the same order. -/
theorem walk_eq (hs : s.Acyclic) (ht : t.Acyclic) (h : s.AgreesBelow t n) : s.walk n = t.walk n := by
  induction n using hs.induction with
  | step n ih =>
    rw [hs.walk_eq_cons, ht.walk_eq_cons, ← h.agreesAt.children_eq]
    congr 1
    exact List.flatMap_congr fun c hc => ih c hc (h.child hc)

theorem findByKind_eq (hs : s.Acyclic) (ht : t.Acyclic) (h : s.AgreesBelow t n) (kind : String) :
    s.findByKind n kind = t.findByKind n kind := by
  rw [findByKind, findByKind, ← h.walk_eq hs ht]
  exact filter_kind_eq (p := (· == kind)) fun m hm => h m (hs.mem_walk_iff.mp hm)

lemma childOfKind_eq (h : s.AgreesBelow t n) (kinds : List String) :
    s.childOfKind n kinds = t.childOfKind n kinds := by
  rw [childOfKind, childOfKind, ← List.head?_filter, ← List.head?_filter, ← h.agreesAt.children_eq,
    filter_kind_eq h.agreesAt_child]

lemma of_mem_childOfKind (h : s.AgreesBelow t n) (hm : m ∈ s.childOfKind n kinds) : s.AgreesBelow t m :=
  h.child (List.mem_of_find?_eq_some hm)

lemma textOf_childOfKind_eq (h : s.AgreesBelow t n) (kinds : List String) (otherwise : String) :
    s.textOf (s.childOfKind n kinds) otherwise = t.textOf (t.childOfKind n kinds) otherwise := by
  rw [← h.childOfKind_eq]
  exact textOf_eq (fun m hm => (h.of_mem_childOfKind hm).agreesAt) otherwise

lemma startLine_eq (h : s.AgreesBelow t n) : s.startLine n = t.startLine n := by
  rw [startLine, startLine, h.agreesAt.span_eq]

lemma endLine_eq (h : s.AgreesBelow t n) : s.endLine n = t.endLine n := by
  rw [endLine, endLine, h.agreesAt.span_eq]

lemma typeText_eq (h : s.AgreesBelow t n) :
    (s.childOfKind n ["type"]).map s.text = (t.childOfKind n ["type"]).map t.text := by
  rw [← h.childOfKind_eq]
  exact Option.map_congr fun m hm => (h.of_mem_childOfKind hm).agreesAt.text_eq

lemma lastText?_eq (h : s.AgreesBelow t n) : s.lastText? n = t.lastText? n := by
  rw [lastText?, lastText?, ← h.agreesAt.children_eq]
  exact Option.map_congr fun m hm => (h.agreesAt_child m (List.mem_of_getLast? hm)).text_eq

lemma parameter?_eq (h : s.AgreesBelow t n) : s.parameter? settings n = t.parameter? settings n := by
  simp only [parameter?, h.agreesAt.kind_eq, h.agreesAt.text_eq, h.typeText_eq, h.lastText?_eq, nameOf,
    h.textOf_childOfKind_eq]

lemma parameters_eq (h : s.AgreesBelow t n) : s.parameters settings (s.childOfKind n kinds) =
    t.parameters settings (t.childOfKind n kinds) := by
  rw [← h.childOfKind_eq]
  cases hlist : s.childOfKind n kinds with
  | none => rfl
  | some list =>
    have hbelow := h.of_mem_childOfKind hlist
    rw [parameters, parameters, ← hbelow.agreesAt.children_eq]
    exact List.filterMap_congr fun c hc => (hbelow.child hc).parameter?_eq

lemma isAsync_eq (h : s.AgreesBelow t n) :
    ((s.children n).any fun c => s.text c == "async") =
      (t.children n).any fun c => t.text c == "async" := by
  have hany : ∀ u : Store, ((u.children n).any fun c => u.text c == "async") =
      ((u.children n).map u.text).any (· == "async") := by
    intro u
    rw [List.any_map]
    rfl
  rw [hany, hany, map_text_eq h.agreesAt_child, h.agreesAt.children_eq]

/-- All of a function but its decorators stands in the nodes below its definition. -/
theorem withoutDecorators_function (h : s.AgreesBelow t n) (settings : Settings) :
    (s.function settings n).withoutDecorators = (t.function settings n).withoutDecorators := by
  simp only [Entity.Function.withoutDecorators, function, nameOf, h.textOf_childOfKind_eq, h.parameters_eq,
    h.startLine_eq, h.endLine_eq, h.isAsync_eq]

theorem function_eq (h : s.AgreesBelow t n) (haround : s.AgreesAround t n)
    (hkind : s.kind n = "function_definition") : s.function settings n = t.function settings n := by
  have hdefinition : s.isDefinition n := by simp [isDefinition, hkind]
  have hdecorators := haround.decorators_eq .refl hdefinition settings.maxDecoratorDepth
  simp only [function, nameOf, h.textOf_childOfKind_eq, h.parameters_eq, h.startLine_eq, h.endLine_eq,
    h.isAsync_eq, hdecorators]

lemma superclasses_eq (h : s.AgreesBelow t n) :
    s.superclasses (s.childOfKind n kinds) = t.superclasses (t.childOfKind n kinds) := by
  rw [← h.childOfKind_eq]
  cases hlist : s.childOfKind n kinds with
  | none => rfl
  | some list =>
    have hbelow := h.of_mem_childOfKind hlist
    rw [superclasses, superclasses, ← hbelow.agreesAt.children_eq, ← filter_kind_eq hbelow.agreesAt_child]
    exact map_text_eq fun c hc => hbelow.agreesAt_child c (List.mem_of_mem_filter hc)

/-- An entity read from each definition of a kind, in two ways that agree on each. -/
lemma map_findByKind_eq {α : Type} {f g : NodeId → α} {kind : String} (hs : s.Acyclic) (ht : t.Acyclic)
    (h : s.AgreesBelow t n)
    (hfg : ∀ d, Relation.ReflTransGen s.Lists n d → s.kind d = kind → f d = g d) :
    (s.findByKind n kind).map f = (t.findByKind n kind).map g := by
  rw [← h.findByKind_eq hs ht]
  apply List.map_congr_left
  intro d hd
  obtain ⟨hwalk,hkind⟩ := List.mem_filter.mp hd
  exact hfg d (hs.mem_walk_iff.mp hwalk) (beq_iff_eq.mp hkind)

section Definitions
variable (hs : s.Acyclic) (ht : t.Acyclic) (h : s.AgreesBelow t n)
include hs ht h

theorem withoutDecorators_functions (settings : Settings) :
    (s.functions settings n).map (·.withoutDecorators) =
      (t.functions settings n).map (·.withoutDecorators) := by
  rw [functions, functions, List.map_map, List.map_map]
  exact h.map_findByKind_eq hs ht fun d hd _ => (h.trans hd).withoutDecorators_function settings

theorem functions_eq (haround : s.AgreesAround t n) (settings : Settings) :
    s.functions settings n = t.functions settings n :=
  h.map_findByKind_eq hs ht fun _ hd hkind => (h.trans hd).function_eq (haround.trans hd) hkind

/-- The methods of a class are read from the body that stands among the nodes below it. -/
lemma withoutDecorators_classEntity (settings : Settings) :
    (s.classEntity settings n).withoutDecorators = (t.classEntity settings n).withoutDecorators := by
  have hmethods : ((s.childOfKind n ["block"]).elim [] (s.functions settings)).map
      (·.withoutDecorators) =
      ((t.childOfKind n ["block"]).elim [] (t.functions settings)).map (·.withoutDecorators) := by
    rw [← h.childOfKind_eq]
    cases hbody : s.childOfKind n ["block"] with
    | none => rfl
    | some body => exact withoutDecorators_functions hs ht (h.of_mem_childOfKind hbody) settings
  simp only [Entity.Class.withoutDecorators, classEntity, nameOf, h.textOf_childOfKind_eq,
    h.superclasses_eq, h.startLine_eq, h.endLine_eq, hmethods]

lemma classEntity_eq (haround : s.AgreesAround t n) (hkind : s.kind n = "class_definition") :
    s.classEntity settings n = t.classEntity settings n := by
  have hdefinition : s.isDefinition n := by simp [isDefinition, hkind]
  have hdecorators := haround.decorators_eq .refl hdefinition settings.maxDecoratorDepth
  have hmethods : (s.childOfKind n ["block"]).elim [] (s.functions settings) =
      (t.childOfKind n ["block"]).elim [] (t.functions settings) := by
    rw [← h.childOfKind_eq]
    cases hbody : s.childOfKind n ["block"] with
    | none => rfl
    | some body =>
      have hlisted : s.Lists n body := List.mem_of_find?_eq_some hbody
      exact functions_eq hs ht (h.child hlisted) (haround.trans (.single hlisted)) settings
  simp only [classEntity, nameOf, h.textOf_childOfKind_eq, h.superclasses_eq, h.startLine_eq, h.endLine_eq,
    hdecorators, hmethods]

theorem withoutDecorators_classes (settings : Settings) :
    (s.classes settings n).map (·.withoutDecorators) =
      (t.classes settings n).map (·.withoutDecorators) := by
  rw [classes, classes, List.map_map, List.map_map]
  exact h.map_findByKind_eq hs ht fun d hd _ =>
    withoutDecorators_classEntity hs ht (h.trans hd) settings

theorem classes_eq (haround : s.AgreesAround t n) (settings : Settings) :
    s.classes settings n = t.classes settings n :=
  h.map_findByKind_eq hs ht fun _ hd hkind => classEntity_eq hs ht (h.trans hd) (haround.trans hd) hkind

end Definitions

lemma importItems_eq (h : s.AgreesBelow t n) : s.importItems n = t.importItems n := by
  rw [importItems, importItems, ← h.childOfKind_eq, ← h.agreesAt.children_eq,
    dropWhile_kind_eq (p := (· != "import")) h.agreesAt_child]
  cases hlist : s.childOfKind n ["import_list"] with
  | none => rfl
  | some list => exact (h.of_mem_childOfKind hlist).agreesAt.children_eq

/-- The items of an import statement stand below it. -/
lemma of_mem_importItems (h : s.AgreesBelow t n) (hm : m ∈ s.importItems n) : s.AgreesBelow t m := by
  rw [importItems] at hm
  cases hlist : s.childOfKind n ["import_list"] with
  | some list =>
    rw [hlist] at hm
    exact (h.of_mem_childOfKind hlist).child hm
  | none =>
    rw [hlist] at hm
    exact h.child ((List.dropWhile_sublist _).subset (List.mem_of_mem_drop hm))

lemma importedName?_eq (h : s.AgreesBelow t n) : s.importedName? n = t.importedName? n := by
  have hchild : ∀ i, ∀ c ∈ (s.children n)[i]?, s.AgreesAt t c :=
    fun i c hc => h.agreesAt_child c (List.mem_of_getElem? hc)
  have hname : s.textOf (s.children n)[0]? = t.textOf (t.children n)[0]? := by
    rw [← h.agreesAt.children_eq]
    exact textOf_eq (hchild 0) ""
  have halias : (s.children n)[2]?.map s.text = (t.children n)[2]?.map t.text := by
    rw [← h.agreesAt.children_eq]
    exact Option.map_congr fun c hc => (hchild 2 c hc).text_eq
  simp only [importedName?, h.agreesAt.kind_eq, h.agreesAt.text_eq, hname, halias]

lemma importedNames_eq (h : s.AgreesBelow t n) :
    s.importedNames (s.importItems n) = t.importedNames (t.importItems n) := by
  rw [importedNames, importedNames, ← h.importItems_eq]
  exact List.filterMap_congr fun c hc => (h.of_mem_importItems hc).importedName?_eq

theorem imports_eq (hs : s.Acyclic) (ht : t.Acyclic) (h : s.AgreesBelow t n) :
    s.imports n = t.imports n := by
  have hdirect : ∀ d, Relation.ReflTransGen s.Lists n d → s.directImport d = t.directImport d := by
    intro d hd
    simp only [directImport, (h.trans hd).importedNames_eq, (h.trans hd).startLine_eq]
  have hmodule : ∀ d, Relation.ReflTransGen s.Lists n d → s.moduleImport d = t.moduleImport d := by
    intro d hd
    simp only [moduleImport, (h.trans hd).importedNames_eq, (h.trans hd).startLine_eq,
      (h.trans hd).textOf_childOfKind_eq]
  rw [imports, imports, h.map_findByKind_eq hs ht fun d hd _ => hdirect d hd,
    h.map_findByKind_eq hs ht fun d hd _ => hmodule d hd]

end AgreesBelow

/-- Two stores that say the same of all nodes below a node, whatever they say of parents and of other nodes,
have the same walk, counts, nodes of a kind and imports there, and the same functions and classes, one for
one, but for the decorators of these and of methods. The decorators are the same too where the stores also
agree on what the climbs from the definitions look at. -/
theorem readings_agree (hs : s.Acyclic) (ht : t.Acyclic) (h : s.AgreesBelow t n) :
    s.walk n = t.walk n ∧ s.countFrom n = t.countFrom n ∧
    (∀ kind, s.findByKind n kind = t.findByKind n kind) ∧ s.imports n = t.imports n ∧
    (∀ settings,
      (s.functions settings n).map (·.withoutDecorators) =
        (t.functions settings n).map (·.withoutDecorators) ∧
      (s.classes settings n).map (·.withoutDecorators) =
        (t.classes settings n).map (·.withoutDecorators)) ∧
    (s.AgreesAround t n → ∀ settings, s.functions settings n = t.functions settings n ∧
      s.classes settings n = t.classes settings n) := by
  have hwalk := h.walk_eq hs ht
  refine ⟨hwalk,congrArg List.length hwalk,h.findByKind_eq hs ht,h.imports_eq hs ht,?_,?_⟩
  · exact fun settings => ⟨h.withoutDecorators_functions hs ht settings,
      h.withoutDecorators_classes hs ht settings⟩
  · exact fun haround settings => ⟨h.functions_eq hs ht haround settings,
      h.classes_eq hs ht haround settings⟩

/-- A class with a wrapped method in it and a wrapper around it, which lists `decorator` before the class. -/
def wrappedClass (stray : Option NodeId) (decorator : NodeId) (above : Node) : Store where
  nodes := #[
    ⟨"identifier", ⟨⟨3, 5⟩, ⟨3, 6⟩⟩, "f", [], stray⟩,
    ⟨"function_definition", ⟨⟨3, 1⟩, ⟨3, 12⟩⟩, "def f(): 0", [0], some 3⟩,
    ⟨"decorator", ⟨⟨2, 1⟩, ⟨2, 3⟩⟩, "@d", [], stray⟩,
    ⟨"decorated_definition", ⟨⟨2, 1⟩, ⟨3, 12⟩⟩, "@d\n def f(): 0", [2, 1], some 4⟩,
    ⟨"block", ⟨⟨2, 1⟩, ⟨3, 12⟩⟩, "@d\n def f(): 0", [3], stray⟩,
    ⟨"identifier", ⟨⟨1, 6⟩, ⟨1, 7⟩⟩, "A", [], stray⟩,
    ⟨"class_definition", ⟨⟨1, 0⟩, ⟨3, 12⟩⟩, "class A:\n @d\n def f(): 0", [5, 4], some 9⟩,
    ⟨"decorator", ⟨⟨0, 0⟩, ⟨0, 2⟩⟩, "@e", [], some 9⟩,
    ⟨"decorator", ⟨⟨7, 0⟩, ⟨7, 2⟩⟩, "@e", [1], none⟩,
    ⟨"decorated_definition", ⟨⟨0, 0⟩, ⟨3, 12⟩⟩, "@e\nclass A:\n @d\n def f(): 0", [decorator, 6], some 10⟩,
    above]

theorem readings_agree_wrappedClass :
    let s := wrappedClass none 7 ⟨"module", ⟨⟨0, 0⟩, ⟨4, 0⟩⟩, "", [9], none⟩
    let t := wrappedClass (some 1) 8 ⟨"module", ⟨⟨5, 0⟩, ⟨6, 0⟩⟩, "other", [0, 0], some 6⟩
    s.Acyclic ∧ t.Acyclic ∧ s.AgreesBelow t 6 ∧ s.AgreesAround t 6 ∧
    t.walk 6 = [6, 5, 4, 3, 2, 1, 0] ∧ t.imports 6 = [] ∧
    (t.functions {} 6).map (·.withoutDecorators) = [⟨"f", [], "", 3, 3, false, []⟩] ∧
    t.classes {} 6 = [⟨"A", [], [⟨"f", [], "", 3, 3, false, ["@d"]⟩], 1, 3, ["@e"]⟩] := by
  intro s t
  have hs : s.Acyclic := acyclic_of_lt (by decide)
  have ht : t.Acyclic := acyclic_of_lt (by decide)
  have hwalk : s.walk 6 = [6, 5, 4, 3, 2, 1, 0] := by decide
  have hmem : ∀ m, Relation.ReflTransGen s.Lists 6 m → m ∈ [6, 5, 4, 3, 2, 1, 0] := by
    intro m hm
    rw [← hwalk]
    exact hs.mem_walk_iff.mpr hm
  have hbelow : s.AgreesBelow t 6 := by
    intro m hm
    have h := hmem m hm
    simp only [List.mem_cons, List.not_mem_nil, or_false] at h
    rcases h with rfl | rfl | rfl | rfl | rfl | rfl | rfl <;> exact ⟨rfl,rfl,rfl,rfl⟩
  -- either climb looks at a wrapper and at one more node, at which it stops
  have hclimb : ∀ p above m, s.AgreesOnWrapper t p → s.parent p = some above →
      s.isWrapper above = false → s.kind above = t.kind above → s.LooksAt (some p) m →
      s.AgreesOnWrapper t m := by
    intro p above m hp hparent hstop hkind hm
    rcases looksAt_some_iff.mp hm with rfl | ⟨-,hm⟩
    · exact hp
    · rw [hparent] at hm
      rcases looksAt_some_iff.mp hm with rfl | ⟨hwrapper,-⟩
      · exact ⟨hkind,by simp [hstop],by simp [hstop]⟩
      · rw [hstop] at hwrapper
        cases hwrapper
  have haround : s.AgreesAround t 6 := by
    intro d hd hdefinition
    have hdefinitions : ∀ d ∈ [6, 5, 4, 3, 2, 1, 0], s.isDefinition d → d = 6 ∨ d = 1 := by decide
    rcases hdefinitions d (hmem d hd) hdefinition with rfl | rfl
    · exact ⟨rfl,fun m => hclimb 9 10 m ⟨rfl,fun _ => rfl,fun _ => rfl⟩ rfl rfl rfl⟩
    · exact ⟨rfl,fun m => hclimb 3 4 m ⟨rfl,fun _ => rfl,fun _ => rfl⟩ rfl rfl rfl⟩
  obtain ⟨hwalks,-,-,himports,hreadings,hdecorated⟩ := readings_agree hs ht hbelow
  exact ⟨hs,ht,hbelow,haround,hwalks.symm.trans hwalk,himports.symm.trans (by decide),
    (hreadings {}).1.symm.trans (by decide),(hdecorated haround {}).2.symm.trans (by decide)⟩

end Store

end SourceOutline

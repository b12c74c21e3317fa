import SourceOutline.Proofs.Entity.Extent
import SourceOutline.Proofs.Entity.Interleaved

/-! What a parameter list declares is what is read from it. Each declared parameter gives one entity with its
name, its type and its value, whatever else stands in the list; those with both a type and a value are left
out where the settings do not ask for them. -/
namespace SourceOutline

/-- Whether a parameter has both a type and a value. -/
def Entity.Parameter.isTypedDefault (p : Entity.Parameter) : Bool := p.typeText.isSome && p.value.isSome

/-- Whether a declared parameter is listed under some settings. -/
def Settings.lists (settings : Settings) (p : Entity.Parameter) : Bool :=
  settings.typedDefaultParameters || !p.isTypedDefault

namespace Store

/-- The parameter that a child of a parameter list declares. Its value may be any node, be it an identifier
or a type. -/
inductive DeclaresParameter (s : Store) (n : NodeId) : Entity.Parameter → Prop
  | bare (hkind : s.kind n = "identifier") : DeclaresParameter s n { name := s.text n }
  | withValue {name sign value : NodeId} (hkind : s.kind n = "default_parameter")
      (hchildren : s.children n = [name, sign, value]) (hname : s.kind name = "identifier")
      (hsign : s.kind sign = "=") :
      DeclaresParameter s n { name := s.text name, value := some (s.text value) }
  | typed {name colon type : NodeId} (hkind : s.kind n = "typed_parameter")
      (hchildren : s.children n = [name, colon, type]) (hname : s.kind name = "identifier")
      (hcolon : s.kind colon = ":") (htype : s.kind type = "type") :
      DeclaresParameter s n { name := s.text name, typeText := some (s.text type) }
  | typedWithValue {name colon type sign value : NodeId} (hkind : s.kind n = "typed_default_parameter")
      (hchildren : s.children n = [name, colon, type, sign, value])
      (hname : s.kind name = "identifier") (hcolon : s.kind colon = ":") (htype : s.kind type = "type")
      (hsign : s.kind sign = "=") :
      DeclaresParameter s n {
        name := s.text name
        typeText := some (s.text type)
        value := some (s.text value) }

/-- Nodes of a parameter list that declare nothing: punctuation, separators, splats, comments and so on. -/
def DeclaresNothing (s : Store) (n : NodeId) : Prop :=
  s.kind n ∉ ["identifier", "default_parameter", "typed_parameter", "typed_default_parameter"]

instance (s : Store) (n : NodeId) : Decidable (s.DeclaresNothing n) :=
  inferInstanceAs (Decidable (_ ∉ _))

/-- Nodes that declare these parameters one after the other. -/
def DeclaresParameters (s : Store) : List NodeId → List Entity.Parameter → Prop :=
  Interleaved s.DeclaresParameter s.DeclaresNothing

/-- The node `c` is the first child of `n` that has this kind. -/
def FirstOfKind (s : Store) (n c : NodeId) (kind : String) : Prop :=
  ∃ before after, s.children n = before ++ c :: after ∧ (∀ b ∈ before, s.kind b ≠ kind) ∧
    s.kind c = kind

variable {s : Store} {n c list root : NodeId} {ns : List NodeId} {ps : List Entity.Parameter}

lemma FirstOfKind.childOfKind_eq {kind : String} (h : s.FirstOfKind n c kind) :
    s.childOfKind n [kind] = some c := by
  obtain ⟨before,after,hchildren,hbefore,hc⟩ := h
  apply s.childOfKind_of_append hchildren
  · simpa using hbefore
  · simpa using hc

/-- A parameter's name is its first child, so an identifier among the later ones does no harm. -/
lemma nameOf_of_children {name : NodeId} {rest : List NodeId} (h : s.children n = name :: rest)
    (hname : s.kind name = "identifier") : s.nameOf n = s.text name := by
  have hsplit : s.children n = [] ++ name :: rest := h
  rw [nameOf, s.childOfKind_of_append hsplit (by simp) (by simp [hname]), textOf]

/-- The type of a parameter is behind the name and the colon, neither of which is a type. -/
lemma childOfKind_type_of_children {name colon type : NodeId} {rest : List NodeId}
    (h : s.children n = name :: colon :: type :: rest) (hname : s.kind name = "identifier")
    (hcolon : s.kind colon = ":") (htype : s.kind type = "type") :
    s.childOfKind n ["type"] = some type := by
  have hsplit : s.children n = [name, colon] ++ type :: rest := h
  apply s.childOfKind_of_append hsplit
  · simp [hname, hcolon]
  · simp [htype]

lemma lastText?_of_children {value : NodeId} {before : List NodeId}
    (h : s.children n = before ++ [value]) : s.lastText? n = some (s.text value) := by
  rw [lastText?, h, List.getLast?_concat, Option.map_some]

/-- Only parameters with both a type and a value can be left out. -/
lemma guard_lists {p : Entity.Parameter} (h : p.isTypedDefault = false) (settings : Settings) :
    Option.guard settings.lists p = some p := by
  simp [Option.guard, Settings.lists, h]

/-- The entity of a declared parameter is the parameter, if it is listed at all. -/
theorem parameter?_of_declaresParameter {p : Entity.Parameter} (h : s.DeclaresParameter n p)
    (settings : Settings) : s.parameter? settings n = Option.guard settings.lists p := by
  cases h with
  | bare hkind =>
    rw [guard_lists rfl]
    simp [parameter?, hkind]
  | @withValue name sign value hkind hchildren hname =>
    have hlast : s.children n = [name, sign] ++ [value] := hchildren
    rw [guard_lists rfl]
    simp [parameter?, hkind, nameOf_of_children hchildren hname, lastText?_of_children hlast]
  | typed hkind hchildren hname hcolon htype =>
    rw [guard_lists rfl]
    simp [parameter?, hkind, nameOf_of_children hchildren hname,
      childOfKind_type_of_children hchildren hname hcolon htype]
  | @typedWithValue name colon type sign value hkind hchildren hname hcolon htype =>
    have hlast : s.children n = [name, colon, type, sign] ++ [value] := hchildren
    simp [parameter?, hkind, nameOf_of_children hchildren hname, lastText?_of_children hlast,
      childOfKind_type_of_children hchildren hname hcolon htype, Option.guard, Settings.lists,
      Entity.Parameter.isTypedDefault]

lemma parameter?_of_declaresNothing (h : s.DeclaresNothing n) (settings : Settings) :
    s.parameter? settings n = none := by
  simp only [DeclaresNothing, List.mem_cons, List.not_mem_nil, not_or, or_false] at h
  simp only [parameter?]
  split <;> simp_all

theorem parameters_of_declaresParameters (h : s.DeclaresParameters (s.children list) ps)
    (settings : Settings) : s.parameters settings (some list) = ps.filter settings.lists := by
  have hread := h.filterMap_eq (fun _ _ hp => parameter?_of_declaresParameter hp settings)
    fun _ hn => parameter?_of_declaresNothing hn settings
  rw [parameters, hread, List.filterMap_eq_filter]

/-- The entity of the function definition at some place in the walk stands at that place. -/
lemma getElem?_functions {i : ℕ} (settings : Settings) (hi : (s.functionNodes root)[i]? = some n) :
    (s.functions settings root)[i]? = some (s.function settings n) := by
  rw [functions, List.getElem?_map, ← functionNodes, hi, Option.map_some]

/-- A list in which parameters are declared, with other nodes around them, gives these parameters in their
order, but for those that the settings leave out. Where it is the parameter list of a function definition,
the entity of that definition has them too, from wherever the definition is come to. -/
theorem parameters_declared (hs : s.Acyclic) (h : s.DeclaresParameters (s.children list) ps)
    (settings : Settings) :
    s.parameters settings (some list) = ps.filter settings.lists ∧
    ∀ n, s.kind n = "function_definition" → s.FirstOfKind n list "parameters" →
      ∀ root, Relation.ReflTransGen s.Lists root n →
        (∃ i : ℕ, (s.functionNodes root)[i]? = some n) ∧
        ∀ i : ℕ, (s.functionNodes root)[i]? = some n → ∃ f : Entity.Function,
          (s.functions settings root)[i]? = some f ∧ f.parameters = ps.filter settings.lists := by
  have hlist := parameters_of_declaresParameters h settings
  refine ⟨hlist,?_⟩
  intro n hkind hfirst root hreached
  have hn : n ∈ s.functionNodes root := mem_functionNodes.mpr ⟨hs.mem_walk_iff.mpr hreached,hkind⟩
  refine ⟨List.mem_iff_getElem?.mp hn,?_⟩
  intro i hi
  refine ⟨s.function settings n,getElem?_functions settings hi,?_⟩
  rw [function, hfirst.childOfKind_eq]
  exact hlist

/-- A function with a parameter of each shape, the value of one of them an identifier, and with a splat and
punctuation around them. -/
def everyShape : Store where
  nodes := #[
    ⟨"(", ⟨⟨0, 5⟩, ⟨0, 6⟩⟩, "(", [], some 19⟩,
    ⟨"identifier", ⟨⟨0, 6⟩, ⟨0, 7⟩⟩, "a", [], some 19⟩,
    ⟨"identifier", ⟨⟨0, 9⟩, ⟨0, 10⟩⟩, "b", [], some 5⟩,
    ⟨"=", ⟨⟨0, 10⟩, ⟨0, 11⟩⟩, "=", [], some 5⟩,
    ⟨"identifier", ⟨⟨0, 11⟩, ⟨0, 12⟩⟩, "a", [], some 5⟩,
    ⟨"default_parameter", ⟨⟨0, 9⟩, ⟨0, 12⟩⟩, "b=a", [2, 3, 4], some 19⟩,
    ⟨"identifier", ⟨⟨0, 15⟩, ⟨0, 16⟩⟩, "r", [], some 7⟩,
    ⟨"list_splat_pattern", ⟨⟨0, 14⟩, ⟨0, 16⟩⟩, "*r", [6], some 19⟩,
    ⟨"identifier", ⟨⟨0, 18⟩, ⟨0, 19⟩⟩, "c", [], some 11⟩,
    ⟨":", ⟨⟨0, 19⟩, ⟨0, 20⟩⟩, ":", [], some 11⟩,
    ⟨"type", ⟨⟨0, 21⟩, ⟨0, 22⟩⟩, "T", [], some 11⟩,
    ⟨"typed_parameter", ⟨⟨0, 18⟩, ⟨0, 22⟩⟩, "c: T", [8, 9, 10], some 19⟩,
    ⟨"identifier", ⟨⟨0, 24⟩, ⟨0, 25⟩⟩, "d", [], some 17⟩,
    ⟨":", ⟨⟨0, 25⟩, ⟨0, 26⟩⟩, ":", [], some 17⟩,
    ⟨"type", ⟨⟨0, 27⟩, ⟨0, 28⟩⟩, "T", [], some 17⟩,
    ⟨"=", ⟨⟨0, 29⟩, ⟨0, 30⟩⟩, "=", [], some 17⟩,
    ⟨"integer", ⟨⟨0, 31⟩, ⟨0, 32⟩⟩, "1", [], some 17⟩,
    ⟨"typed_default_parameter", ⟨⟨0, 24⟩, ⟨0, 32⟩⟩, "d: T = 1", [12, 13, 14, 15, 16], some 19⟩,
    ⟨")", ⟨⟨0, 32⟩, ⟨0, 33⟩⟩, ")", [], some 19⟩,
    ⟨"parameters", ⟨⟨0, 5⟩, ⟨0, 33⟩⟩, "(a, b=a, *r, c: T, d: T = 1)",
      [0, 1, 5, 7, 11, 17, 18], some 21⟩,
    ⟨"identifier", ⟨⟨0, 4⟩, ⟨0, 5⟩⟩, "f", [], some 21⟩,
    ⟨"function_definition", ⟨⟨0, 0⟩, ⟨0, 37⟩⟩, "def f(a, b=a, *r, c: T, d: T = 1): 0",
      [20, 19], some 22⟩,
    ⟨"module", ⟨⟨0, 0⟩, ⟨1, 0⟩⟩, "def f(a, b=a, *r, c: T, d: T = 1): 0\n",
      [21], none⟩]

theorem parameters_declared_everyShape :
    everyShape.Acyclic ∧
    everyShape.parameters {} (some 19) =
      [⟨"a", none, none⟩, ⟨"b", none, some "a"⟩, ⟨"c", some "T", none⟩] ∧
    ∃ f : Entity.Function, (everyShape.functions ⟨32, true, false⟩ 22)[0]? = some f ∧
      f.parameters =
        [⟨"a", none, none⟩, ⟨"b", none, some "a"⟩, ⟨"c", some "T", none⟩,
          ⟨"d", some "T", some "1"⟩] := by
  have hs : everyShape.Acyclic := acyclic_of_lt (by decide)
  have hb : everyShape.DeclaresParameter 5 ⟨"b", none, some "a"⟩ :=
    @DeclaresParameter.withValue _ 5 2 3 4 rfl rfl rfl rfl
  have hc : everyShape.DeclaresParameter 11 ⟨"c", some "T", none⟩ :=
    @DeclaresParameter.typed _ 11 8 9 10 rfl rfl rfl rfl rfl
  have hd : everyShape.DeclaresParameter 17 ⟨"d", some "T", some "1"⟩ :=
    @DeclaresParameter.typedWithValue _ 17 12 13 14 15 16 rfl rfl rfl rfl rfl rfl
  have hlist : everyShape.DeclaresParameters (everyShape.children 19) [⟨"a", none, none⟩,
      ⟨"b", none, some "a"⟩, ⟨"c", some "T", none⟩, ⟨"d", some "T", some "1"⟩] :=
    .other (by decide) <| .item (.bare rfl) <| .item hb <| .other (by decide) <| .item hc <| .item hd <|
      .other (by decide) .nil
  have hfirst : everyShape.FirstOfKind 21 19 "parameters" := ⟨[20],[],rfl,by decide,rfl⟩
  have hreached : Relation.ReflTransGen everyShape.Lists 22 21 := hs.mem_walk_iff.mp (by decide)
  obtain ⟨hoff,-⟩ := parameters_declared hs hlist {}
  obtain ⟨-,hfunction⟩ := parameters_declared hs hlist ⟨32, true, false⟩
  obtain ⟨f,hf,hparameters⟩ := (hfunction 21 rfl hfirst 22 hreached).2 0 (by decide)
  exact ⟨hs,hoff.trans (by decide),f,hf,hparameters.trans (by decide)⟩

end Store

end SourceOutline

import Mathlib.Data.List.Infix
import SourceOutline.Proofs.Diagnostic.Parse
import SourceOutline.Proofs.Entity.Decorators
import SourceOutline.Proofs.Entity.Extent

/-! What each of the settings changes in an outline. Two outlines of one text under different settings
have the same tree and the same entities in the same order; the depth decides how far lists of decorators
go, one flag decides about parameters with both a type and a value, and the other about warnings. -/
namespace SourceOutline

/-- Two lists have one entry each for every node of a list, in its order, and the two entries of a node
are related. -/
inductive Along {α : Type} (R : NodeId → α → α → Prop) : List NodeId → List α → List α → Prop
  | nil : Along R [] [] []
  | cons {n : NodeId} {ns : List NodeId} {x y : α} {xs ys : List α} (head : R n x y)
      (tail : Along R ns xs ys) : Along R (n :: ns) (x :: xs) (y :: ys)

/-- After a result, all depends on what is done with it. -/
theorem Logged.result_bind {α β : Type} {x : Logged α} {a : α} (h : x.result = .ok a)
    (f : α → Logged β) : (x.bind f).result = (f a).result := by
  rw [Logged.bind, h]

namespace Along
variable {α : Type} {R : NodeId → α → α → Prop} {ns : List NodeId} {xs ys : List α}

theorem of_map {f g : NodeId → α} (h : ∀ n, R n (f n) (g n)) (ns : List NodeId) :
    Along R ns (ns.map f) (ns.map g) := by
  induction ns with
  | nil => exact .nil
  | cons n ns ih => exact .cons (h n) ih

theorem length_eq (h : Along R ns xs ys) : xs.length = ys.length := by
  induction h with
  | nil => rfl
  | cons _ _ ih => rw [List.length_cons, List.length_cons, ih]

end Along

namespace Store
variable {s : Store} {c₁ c₂ : Settings}

/-- The parameters that a parameter list declares, each with the child that declares it. -/
def declared (s : Store) (settings : Settings) (list : Option NodeId) :
    List (NodeId × Entity.Parameter) :=
  (list.elim [] s.children).filterMap fun c => (s.parameter? settings c).map fun p => (c, p)

/-- Whether a child of a parameter list has both a type and a default value. -/
def isTypedDefault (s : Store) (n : NodeId) : Bool := s.kind n == "typed_default_parameter"

lemma parameters_eq_map (s : Store) (settings : Settings) (list : Option NodeId) :
    s.parameters settings list = (s.declared settings list).map (·.2) := by
  cases list with
  | none => rfl
  | some n =>
    rw [parameters, declared, List.map_filterMap]
    congr 1
    funext c
    simp [Function.comp_def]

lemma parameter?_congr (h : c₁.typedDefaultParameters = c₂.typedDefaultParameters) (n : NodeId) :
    s.parameter? c₁ n = s.parameter? c₂ n := by
  simp only [parameter?, h]

/-- With the flag off, a child with both a type and a default value declares nothing. -/
lemma parameter?_of_off (h₁ : c₁.typedDefaultParameters = false)
    (h₂ : c₂.typedDefaultParameters = true) (n : NodeId) :
    s.parameter? c₁ n = if s.isTypedDefault n then none else s.parameter? c₂ n := by
  by_cases hn : s.kind n = "typed_default_parameter"
  · simp [parameter?, isTypedDefault, hn, h₁]
  · rw [if_neg (by simpa [isTypedDefault] using hn)]
    simp only [parameter?, h₁, h₂]
    split <;> simp_all

/-- With the flag off, just those entries are left out that such children declare. -/
theorem declared_of_off (h₁ : c₁.typedDefaultParameters = false)
    (h₂ : c₂.typedDefaultParameters = true) (list : Option NodeId) :
    s.declared c₁ list = (s.declared c₂ list).filter fun entry => !s.isTypedDefault entry.1 := by
  rw [declared, declared]
  induction list.elim [] s.children with
  | nil => rfl
  | cons c cs ih =>
    rw [List.filterMap_cons, List.filterMap_cons, parameter?_of_off h₁ h₂]
    by_cases hc : s.isTypedDefault c
    · cases hp : s.parameter? c₂ c <;> simp [hc, ih]
    · cases hp : s.parameter? c₂ c <;> simp [hc, ih]

/-- Two entities of one function definition, under settings `c₁` and `c₂`. -/
structure SameFunction (s : Store) (c₁ c₂ : Settings) (n : NodeId) (f g : Entity.Function) : Prop where
  name_eq : f.name = g.name
  body_eq : f.body = g.body
  startLine_eq : f.startLine = g.startLine
  endLine_eq : f.endLine = g.endLine
  isAsync_eq : f.isAsync = g.isAsync
  parameters_eq : c₁.typedDefaultParameters = c₂.typedDefaultParameters → f.parameters = g.parameters
  parameters_of_off : c₁.typedDefaultParameters = false → c₂.typedDefaultParameters = true →
    let entries := s.declared c₂ (s.childOfKind n ["parameters"])
    g.parameters = entries.map (·.2) ∧
      f.parameters = (entries.filter fun entry => !s.isTypedDefault entry.1).map (·.2)
  decorators_prefix : c₁.maxDecoratorDepth ≤ c₂.maxDecoratorDepth → f.decorators <+: g.decorators

/-- Two entities of one class definition, under settings `c₁` and `c₂`. -/
structure SameClass (s : Store) (c₁ c₂ : Settings) (n : NodeId) (a b : Entity.Class) : Prop where
  name_eq : a.name = b.name
  superclasses_eq : a.superclasses = b.superclasses
  startLine_eq : a.startLine = b.startLine
  endLine_eq : a.endLine = b.endLine
  length_methods : a.methods.length = b.methods.length
  methods : Along (s.SameFunction c₁ c₂) (s.methodNodes n) a.methods b.methods
  decorators_prefix : c₁.maxDecoratorDepth ≤ c₂.maxDecoratorDepth → a.decorators <+: b.decorators

theorem sameFunction (s : Store) (c₁ c₂ : Settings) (n : NodeId) :
    s.SameFunction c₁ c₂ n (s.function c₁ n) (s.function c₂ n) where
  name_eq := rfl
  body_eq := rfl
  startLine_eq := rfl
  endLine_eq := rfl
  isAsync_eq := rfl
  parameters_eq h := by
    simp only [function, parameters_eq_map, declared, parameter?_congr h]
  parameters_of_off h₁ h₂ := by
    refine ⟨s.parameters_eq_map c₂ _,?_⟩
    rw [← declared_of_off h₁ h₂]
    exact s.parameters_eq_map c₁ _
  decorators_prefix h := s.decorators_prefix h n

theorem sameClass (s : Store) (c₁ c₂ : Settings) (n : NodeId) :
    s.SameClass c₁ c₂ n (s.classEntity c₁ n) (s.classEntity c₂ n) := by
  have hmethods : Along (s.SameFunction c₁ c₂) (s.methodNodes n) (s.classEntity c₁ n).methods
      (s.classEntity c₂ n).methods := by
    rw [methods_classEntity, methods_classEntity]
    exact .of_map (s.sameFunction c₁ c₂) _
  constructor
  case length_methods => exact hmethods.length_eq
  case methods => exact hmethods
  case decorators_prefix => exact fun h => s.decorators_prefix h n
  all_goals rfl

end Store

namespace Outline

/-- Two outlines of one text, under settings `c₁` and `c₂`. -/
structure Same (c₁ c₂ : Settings) (a b : Outline) : Prop where
  store_eq : a.parsed.store = b.parsed.store
  root_eq : a.parsed.root = b.parsed.root
  imports_eq : a.imports = b.imports
  diagnostics_eq : c₁.reportMissingNodes = c₂.reportMissingNodes →
    a.parsed.diagnostics = b.parsed.diagnostics
  length_functions : a.functions.length = b.functions.length
  functions : Along (a.parsed.store.SameFunction c₁ c₂) (a.parsed.store.functionNodes a.parsed.root)
    a.functions b.functions
  length_classes : a.classes.length = b.classes.length
  classes : Along (a.parsed.store.SameClass c₁ c₂) (a.parsed.store.classNodes a.parsed.root)
    a.classes b.classes

/-- A text in the language that has a grammar gets an outline, unless the engine is broken. -/
theorem result_read (parse : Octets → RawTree) (source : String) (settings : Settings) :
    (read (.ready parse) source "python" settings).result =
      .ok (ofParsed settings ((⟨⟨.python, parse⟩, settings⟩ : Parser).parsed source)) := by
  have hparser : (Parser.ofTag? (.ready parse) "python" settings).result =
      .ok (some ⟨⟨.python, parse⟩, settings⟩) := rfl
  have hparsed := (⟨⟨.python, parse⟩, settings⟩ : Parser).result_parse source
  rw [read]
  change (Logged.bind _ _).result = _
  rw [Logged.result_bind hparser]
  change (Logged.bind _ _).result = _
  rw [Logged.result_bind hparsed]
  rfl

theorem same_ofParsed (grammar : Grammar) (source : String) (c₁ c₂ : Settings) :
    Same c₁ c₂ (ofParsed c₁ ((⟨grammar, c₁⟩ : Parser).parsed source))
      (ofParsed c₂ ((⟨grammar, c₂⟩ : Parser).parsed source)) := by
  -- the tree does not depend on the settings, so one of the two will do for both
  let p := (⟨grammar, c₁⟩ : Parser).parsed source
  have hfunctions := Along.of_map (p.store.sameFunction c₁ c₂) (p.store.functionNodes p.root)
  have hclasses := Along.of_map (p.store.sameClass c₁ c₂) (p.store.classNodes p.root)
  constructor
  case diagnostics_eq =>
    intro h
    simp only [ofParsed, Parser.parsed, h]
    rfl
  case length_functions => exact hfunctions.length_eq
  case functions => exact hfunctions
  case length_classes => exact hclasses.length_eq
  case classes => exact hclasses
  all_goals rfl

/-- A text has an outline under any settings, and its outlines under any two settings, in either order,
differ only in what these settings decide. -/
theorem read_same (parse : Octets → RawTree) (source : String) (c₁ c₂ : Settings) :
    ∃ a b, (read (.ready parse) source "python" c₁).result = .ok a ∧
      (read (.ready parse) source "python" c₂).result = .ok b ∧ Same c₁ c₂ a b ∧ Same c₂ c₁ b a :=
  ⟨_,_,result_read parse source c₁,result_read parse source c₂,
    same_ofParsed ⟨.python, parse⟩ source c₁ c₂,same_ofParsed ⟨.python, parse⟩ source c₂ c₁⟩

end Outline

end SourceOutline

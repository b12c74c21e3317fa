import SourceOutline.CommandLine.Report
import SourceOutline.Proofs.Entity.Influence
import SourceOutline.Proofs.Store.Order
import SourceOutline.Proofs.Text.Utf8

/-! Where the texts of an outline come from. If the engine cuts the source between characters, every node
holds a piece of the source, and entities copy texts of nodes; all else is one of a few fixed words, each
in its own place. -/
namespace SourceOutline

/-- A text is a piece of the source; the empty text is a piece of every source. -/
def Occurs (source text : String) : Prop := text.toList <:+: source.toList

instance (source text : String) : Decidable (Occurs source text) := by
  unfold Occurs
  infer_instance

/-- The octet range of a raw node starts and ends between characters of the source. -/
structure RawNode.Aligned (source : String) (l : RawNode) : Prop where
  start_le_stop : l.startByte ≤ l.stopByte
  start : Text.Utf8.IsBoundary source.toList l.startByte
  stop : Text.Utf8.IsBoundary source.toList l.stopByte

instance (source : String) (l : RawNode) : Decidable (l.Aligned source) :=
  decidable_of_iff (l.startByte ≤ l.stopByte ∧ Text.Utf8.IsBoundary source.toList l.startByte ∧
    Text.Utf8.IsBoundary source.toList l.stopByte)
    ⟨fun h => ⟨h.1, h.2.1, h.2.2⟩, fun h => ⟨h.start_le_stop, h.start, h.stop⟩⟩

/-- The engine cuts the source between characters only. -/
def RawTree.Aligned (source : String) (t : RawTree) : Prop := ∀ u ∈ t.subtrees, u.label.Aligned source

instance (source : String) (t : RawTree) : Decidable (t.Aligned source) := by
  unfold RawTree.Aligned
  infer_instance

lemma occurs_empty (source : String) : Occurs source "" := List.nil_infix

lemma RawNode.Aligned.occurs {source : String} {l : RawNode} (h : l.Aligned source) :
    Occurs source (Text.Utf8.sliceText (Text.Utf8.octets source) l.startByte l.stopByte) := by
  obtain ⟨piece,hpiece,hslice⟩ := Text.Utf8.slice_of_boundaries h.start_le_stop h.start h.stop
  rw [Occurs, Text.Utf8.sliceText, Text.Utf8.octets, hslice, Text.Utf8.decodeLossy_encode,
    String.toList_ofList]
  exact hpiece

/-- Every node of the tree holds a piece of the source. -/
theorem RawTree.Aligned.occurs_text {source : String} {raw : RawTree} (h : raw.Aligned source)
    (n : NodeId) : Occurs source ((raw.normalize (Text.Utf8.octets source)).2.text n) := by
  let octets := Text.Utf8.octets source
  have hforest := raw.forest_normalize octets
  rcases Nat.lt_or_ge n (raw.normalize octets).2.size with hn | hn
  · have hwalk := hforest.acyclic.mem_walk_iff.mpr (hforest.linked.reachable n hn)
    obtain ⟨l,hl,hcarries⟩ := exists_of_mem_right (raw.forall₂_walk_normalize octets) hwalk
    obtain ⟨u,hu,rfl⟩ := RawTree.mem_preorder_iff.mp hl
    rw [hcarries.text_eq]
    exact (h u hu).occurs
  · rw [Store.text, Store.node_of_size_le _ hn]
    exact occurs_empty source

namespace Entity

structure Parameter.FromSource (source : String) (p : Parameter) : Prop where
  name : Occurs source p.name ∨ p.name = "unknown"
  typeText : ∀ text ∈ p.typeText, Occurs source text
  value : ∀ text ∈ p.value, Occurs source text

structure Function.FromSource (source : String) (f : Function) : Prop where
  name : Occurs source f.name ∨ f.name = "unknown"
  parameters : ∀ p ∈ f.parameters, p.FromSource source
  body : Occurs source f.body ∨ f.body = ""
  decorators : ∀ text ∈ f.decorators, Occurs source text

structure Class.FromSource (source : String) (c : Class) : Prop where
  name : Occurs source c.name ∨ c.name = "unknown"
  superclasses : ∀ text ∈ c.superclasses, Occurs source text
  methods : ∀ m ∈ c.methods, m.FromSource source
  decorators : ∀ text ∈ c.decorators, Occurs source text

structure ImportedName.FromSource (source : String) (n : ImportedName) : Prop where
  name : Occurs source n.name ∨ n.name = "" ∨ n.name = "*"
  knownAs : ∀ text ∈ n.knownAs, Occurs source text

/-- The star stands for all names of a module. It is a module itself only where a statement that imports
modules has it for its first name. -/
structure Import.FromSource (source : String) (i : Import) : Prop where
  form : i.form.name = "direct" ∨ i.form.name = "from"
  module : Occurs source i.source ∨ i.source = "" ∨
    i.source = "*" ∧ i.form = .direct ∧ ∃ n ∈ i.names.head?, n.name = "*"
  names : ∀ n ∈ i.names, n.FromSource source
  knownAs : ∀ text ∈ i.knownAs, Occurs source text

end Entity

namespace Store
variable {s : Store} {source : String} (h : ∀ n, Occurs source (s.text n))
include h

lemma occurs_textOf (n : Option NodeId) (otherwise : String) :
    Occurs source (s.textOf n otherwise) ∨ s.textOf n otherwise = otherwise := by
  cases n with
  | none => exact Or.inr rfl
  | some n => exact Or.inl (h n)

lemma occurs_of_mem_map (ns : List NodeId) :
    ∀ text ∈ ns.map s.text, Occurs source text := by
  simp only [List.forall_mem_map]
  exact fun n _ => h n

lemma occurs_of_mem_map? (n : Option NodeId) :
    ∀ text ∈ n.map s.text, Occurs source text := by
  intro text htext
  obtain ⟨m,-,rfl⟩ := Option.map_eq_some_iff.mp htext
  exact h m

lemma fromSource_parameter? {settings : Settings} {n : NodeId} {p : Entity.Parameter}
    (hp : s.parameter? settings n = some p) : p.FromSource source := by
  have hname := occurs_textOf h (s.childOfKind n ["identifier"]) "unknown"
  have htype := occurs_of_mem_map? h (s.childOfKind n ["type"])
  have hvalue := occurs_of_mem_map? h (s.children n).getLast?
  have hnone : ∀ text ∈ (none : Option String), Occurs source text := by simp
  simp only [parameter?] at hp
  split at hp
  · cases hp
    exact ⟨Or.inl (h n),hnone,hnone⟩
  · cases hp
    exact ⟨hname,hnone,hvalue⟩
  · cases hp
    exact ⟨hname,htype,hnone⟩
  · split at hp
    · cases hp
      exact ⟨hname,htype,hvalue⟩
    · cases hp
  · cases hp

lemma occurs_of_mem_decorators (depth : ℕ) (n : Option NodeId) :
    ∀ text ∈ s.wrapperDecorators depth n, Occurs source text := by
  induction depth generalizing n with
  | zero => simp [wrapperDecorators]
  | succ depth ih =>
    cases n with
    | none => simp
    | some n =>
      intro text htext
      rw [wrapperDecorators] at htext
      split_ifs at htext
      · rcases List.mem_append.mp htext with hown | hmore
        · exact occurs_of_mem_map h _ text hown
        · exact ih _ text hmore
      · simp at htext

theorem fromSource_function (settings : Settings) (n : NodeId) :
    (s.function settings n).FromSource source where
  name := occurs_textOf h _ _
  parameters := by
    intro p hp
    cases hlist : s.childOfKind n ["parameters"] with
    | none => simp [function, hlist, parameters] at hp
    | some list =>
      simp only [function, hlist, parameters] at hp
      obtain ⟨c,-,hc⟩ := List.mem_filterMap.mp hp
      exact fromSource_parameter? h hc
  body := occurs_textOf h _ _
  decorators := occurs_of_mem_decorators h _ _

theorem fromSource_classEntity (settings : Settings) (n : NodeId) :
    (s.classEntity settings n).FromSource source where
  name := occurs_textOf h _ _
  superclasses := by
    cases hlist : s.childOfKind n ["argument_list"] with
    | none => simp [classEntity, hlist, superclasses]
    | some list =>
      simp only [classEntity, hlist, superclasses]
      exact occurs_of_mem_map h _
  methods := by
    rw [methods_classEntity]
    simp only [List.forall_mem_map]
    exact fun m _ => fromSource_function h settings m
  decorators := occurs_of_mem_decorators h _ _

lemma fromSource_importedName? {n : NodeId}
    {name : Entity.ImportedName} (hn : s.importedName? n = some name) : name.FromSource source := by
  have hnone : ∀ text ∈ (none : Option String), Occurs source text := by simp
  simp only [importedName?] at hn
  split at hn
  · cases hn
    exact ⟨Or.inl (h n),hnone⟩
  · cases hn
    exact ⟨Or.inl (h n),hnone⟩
  · cases hn
    exact ⟨(occurs_textOf h _ _).imp_right Or.inl,occurs_of_mem_map? h _⟩
  · cases hn
    exact ⟨Or.inr (Or.inr rfl),hnone⟩
  · cases hn

lemma fromSource_importedNames (items : List NodeId) :
    ∀ name ∈ s.importedNames items, name.FromSource source := by
  intro name hname
  obtain ⟨n,-,hn⟩ := List.mem_filterMap.mp hname
  exact fromSource_importedName? h hn

/-- A statement that imports modules stands for its first name. -/
theorem fromSource_directImport (n : NodeId) :
    (s.directImport n).FromSource source := by
  have hnames := fromSource_importedNames h (s.importItems n)
  have hfirst : ∀ name ∈ (s.importedNames (s.importItems n)).head?, name.FromSource source :=
    fun name hname => hnames name (List.mem_of_mem_head? hname)
  constructor
  case form => exact Or.inl rfl
  case names => exact hnames
  case module =>
    cases hhead : (s.importedNames (s.importItems n)).head? with
    | none =>
      have hempty : (s.directImport n).source = "" := by simp only [directImport, hhead, Option.elim]
      exact Or.inr (Or.inl hempty)
    | some name =>
      have hsource : (s.directImport n).source = name.name := by
        simp only [directImport, hhead, Option.elim]
      rw [hsource]
      rcases (hfirst name hhead).name with hname | hname | hname
      · exact Or.inl hname
      · exact Or.inr (Or.inl hname)
      · exact Or.inr (Or.inr ⟨hname,rfl,name,hhead,hname⟩)
  case knownAs =>
    intro text htext
    obtain ⟨name,hname,halias⟩ := Option.bind_eq_some_iff.mp htext
    exact (hfirst name hname).knownAs text halias

theorem fromSource_moduleImport (n : NodeId) :
    (s.moduleImport n).FromSource source where
  form := Or.inr rfl
  module := (occurs_textOf h _ _).imp_right Or.inl
  names := fromSource_importedNames h _
  knownAs := by simp [moduleImport]

end Store

namespace Outline

/-- All texts of an outline come from the source, but for the fixed words. -/
structure FromSource (source : String) (o : Outline) : Prop where
  functions : ∀ f ∈ o.functions, f.FromSource source
  classes : ∀ c ∈ o.classes, c.FromSource source
  imports : ∀ i ∈ o.imports, i.FromSource source

theorem fromSource_ofParsed {source : String} {p : Parsed}
    (h : ∀ n, Occurs source (p.store.text n)) (settings : Settings) :
    (ofParsed settings p).FromSource source where
  functions := by
    simp only [ofParsed, Store.functions, List.forall_mem_map]
    exact fun n _ => Store.fromSource_function h settings n
  classes := by
    simp only [ofParsed, Store.classes, List.forall_mem_map]
    exact fun n _ => Store.fromSource_classEntity h settings n
  imports := by
    simp only [ofParsed, Store.imports, List.forall_mem_append, List.forall_mem_map]
    exact ⟨fun n _ => Store.fromSource_directImport h n,fun n _ => Store.fromSource_moduleImport h n⟩

/-- A text whose tree is cut between its characters has an outline, and under any settings all texts of the
outline are pieces of the text or fixed words in their own places. -/
theorem read_fromSource (parse : Octets → RawTree) (source : String) (settings : Settings)
    (h : (parse (Text.Utf8.octets source)).Aligned source) :
    ∃ o, (read (.ready parse) source "python" settings).result = .ok o ∧ o.FromSource source := by
  let p := (⟨⟨.python, parse⟩, settings⟩ : Parser).parsed source
  have htexts : ∀ n, Occurs source (p.store.text n) := h.occurs_text
  exact ⟨_,result_read parse source settings,fromSource_ofParsed htexts settings⟩

/-- The tree of `import é as e`. -/
def accentedImport : RawTree :=
  .node ⟨"module", 0, 14, ⟨⟨0, 0⟩, ⟨0, 14⟩⟩, false, false⟩ [
    .node ⟨"import_statement", 0, 14, ⟨⟨0, 0⟩, ⟨0, 14⟩⟩, false, false⟩ [
      .node ⟨"import", 0, 6, ⟨⟨0, 0⟩, ⟨0, 6⟩⟩, false, false⟩ [],
      .node ⟨"aliased_import", 7, 14, ⟨⟨0, 7⟩, ⟨0, 14⟩⟩, false, false⟩ [
        .node ⟨"dotted_name", 7, 9, ⟨⟨0, 7⟩, ⟨0, 9⟩⟩, false, false⟩ [],
        .node ⟨"as", 10, 12, ⟨⟨0, 10⟩, ⟨0, 12⟩⟩, false, false⟩ [],
        .node ⟨"identifier", 13, 14, ⟨⟨0, 13⟩, ⟨0, 14⟩⟩, false, false⟩ []]]]

theorem read_fromSource_accentedImport :
    accentedImport.Aligned "import é as e" ∧
    ∃ o, (read (.ready fun _ => accentedImport) "import é as e" "python" {}).result = .ok o ∧
      o.FromSource "import é as e" := by
  have haligned : accentedImport.Aligned "import é as e" := by decide +kernel
  exact ⟨haligned,read_fromSource (fun _ => accentedImport) "import é as e" {} haligned⟩

/-- A tree in which a star stands where a statement that imports modules has its first name. -/
def starImport : RawTree :=
  .node ⟨"module", 0, 8, ⟨⟨0, 0⟩, ⟨0, 8⟩⟩, false, false⟩ [
    .node ⟨"import_statement", 0, 8, ⟨⟨0, 0⟩, ⟨0, 8⟩⟩, false, false⟩ [
      .node ⟨"import", 0, 6, ⟨⟨0, 0⟩, ⟨0, 6⟩⟩, false, false⟩ [],
      .node ⟨"wildcard_import", 7, 8, ⟨⟨0, 7⟩, ⟨0, 8⟩⟩, false, false⟩ []]]

/-- The module of an import can be a star that the source does not hold. -/
theorem exists_source_starImport :
    starImport.Aligned "import a" ∧ ¬ Occurs "import a" "*" ∧
    ∃ o, (read (.ready fun _ => starImport) "import a" "python" {}).result = .ok o ∧
      ∃ i ∈ o.imports, i.source = "*" := by
  refine ⟨by decide +kernel,by decide +kernel,_,result_read _ _ _,?_⟩
  simp only [ofParsed, Parser.parsed, Parser.tree, RawTree.normalize_eq_grow]
  decide +kernel

end Outline

end SourceOutline

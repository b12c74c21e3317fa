import SourceOutline.Proofs.Settings.Section
import SourceOutline.Proofs.Yaml.Number

/-! Settings files that are written for settings. A file names the section and gives some of its keys, each
on a line of its own, in any order; it is read as the settings it was written for, with the usual values in
place of those that were left out, and nothing is warned of. -/
namespace SourceOutline.Settings

/-- A key of the section, which stands for one field. -/
inductive Key where
  | maxDecoratorDepth
  | typedDefaultParameters
  | reportMissingNodes
deriving DecidableEq, Repr

namespace Key

def name : Key → String
  | maxDecoratorDepth => "max_decorator_depth"
  | typedDefaultParameters => "typed_default_parameters"
  | reportMissingNodes => "report_missing_nodes"

/-- The value of a field. -/
def atom (settings : Settings) : Key → Atom
  | maxDecoratorDepth => .int settings.maxDecoratorDepth
  | typedDefaultParameters => .bool settings.typedDefaultParameters
  | reportMissingNodes => .bool settings.reportMissingNodes

end Key

/-- How a truth value is written. -/
def flagText (b : Bool) : List Char := (if b then "true" else "false").toList

/-- How the value of a field is written. -/
def fieldText (settings : Settings) : Key → List Char
  | .maxDecoratorDepth => Nat.toDigits 10 settings.maxDecoratorDepth.toNat
  | .typedDefaultParameters => flagText settings.typedDefaultParameters
  | .reportMissingNodes => flagText settings.reportMissingNodes

/-- The line of a field below the section's name. -/
def fieldLine (settings : Settings) (k : Key) : List Char :=
  "  ".toList ++ k.name.toList ++ ": ".toList ++ fieldText settings k

/-- A settings file with the lines of some fields; its last line may have a line break behind it. -/
def fileText (settings : Settings) (keys : List Key) (lastBreak : Bool) : List Char :=
  "parser:".toList ++ keys.flatMap (fun k => '\n' :: fieldLine settings k) ++
    if lastBreak then ['\n'] else []

/-- Settings with the usual values in all fields but some. -/
def restrict (settings : Settings) (keys : List Key) : Settings where
  maxDecoratorDepth :=
    if .maxDecoratorDepth ∈ keys then settings.maxDecoratorDepth else ({} : Settings).maxDecoratorDepth
  typedDefaultParameters :=
    if .typedDefaultParameters ∈ keys then settings.typedDefaultParameters
    else ({} : Settings).typedDefaultParameters
  reportMissingNodes :=
    if .reportMissingNodes ∈ keys then settings.reportMissingNodes else ({} : Settings).reportMissingNodes

/-- The words on the line of a field. -/
def fieldWords (settings : Settings) (k : Key) : List Char × List Char :=
  (k.name.toList, fieldText settings k)

/-- The entry that the line of a field stands for. -/
def fieldEntry (settings : Settings) (k : Key) : Atom × Atom :=
  (.text (Text.symbols k.name), k.atom settings)

section Text
variable {settings : Settings} {keys : List Key} {lastBreak : Bool}

lemma flatMap_fieldLine (settings : Settings) (keys : List Key) (lastBreak : Bool) :
    keys.flatMap (fun k => '\n' :: fieldLine settings k) ++ (if lastBreak then ['\n'] else []) =
      Yaml.lines 2 lastBreak (keys.map (fieldWords settings)) := by
  have hmargin : "  ".toList = List.replicate 2 ' ' := rfl
  have hcolon : ": ".toList = [':', ' '] := rfl
  induction keys with
  | nil => rfl
  | cons k keys ih =>
    rw [List.flatMap_cons, List.append_assoc, ih, List.map_cons, fieldWords, Yaml.lines, fieldLine, hmargin,
      hcolon]
    simp only [List.append_assoc, List.cons_append, List.nil_append]

/-- A settings file is a section of plain lines. -/
lemma fileText_eq (settings : Settings) (keys : List Key) (lastBreak : Bool) :
    fileText settings keys lastBreak =
      Yaml.sectionText "parser".toList 2 lastBreak (keys.map (fieldWords settings)) := by
  have hname : "parser:".toList = "parser".toList ++ [':'] := rfl
  unfold fileText
  simp only [List.append_assoc, flatMap_fieldLine, hname, Yaml.sectionText, List.cons_append, List.nil_append]

lemma isWord_flagText (b : Bool) : Yaml.IsWord (flagText b) := by
  cases b <;> decide

lemma means_flagText (b : Bool) : Yaml.Means (flagText b) (.bool b) := by
  cases b <;> exact fun _ => rfl

lemma isWord_name (k : Key) : Yaml.IsWord k.name.toList ∧ k.name.toList.length ≤ 1024 := by
  cases k <;> decide

lemma means_name (k : Key) : Yaml.Means k.name.toList (.text (Text.symbols k.name)) := by
  cases k <;> exact fun _ => rfl

lemma isWord_fieldText (k : Key) : Yaml.IsWord (fieldText settings k) := by
  cases k with
  | maxDecoratorDepth => exact Yaml.isWord_toDigits _
  | typedDefaultParameters => exact isWord_flagText _
  | reportMissingNodes => exact isWord_flagText _

lemma means_fieldText (hdepth : 1 ≤ settings.maxDecoratorDepth)
    (hdigits : (Nat.toDigits 10 settings.maxDecoratorDepth.toNat).length ≤ Decimal.mostDigits) (k : Key) :
    Yaml.Means (fieldText settings k) (k.atom settings) := by
  cases k with
  | maxDecoratorDepth =>
    have hnat : ((settings.maxDecoratorDepth.toNat : ℕ) : ℤ) = settings.maxDecoratorDepth :=
      Int.toNat_of_nonneg (by omega)
    have hmeans := Yaml.means_toDigits _ hdigits
    rwa [hnat] at hmeans
  | typedDefaultParameters => exact means_flagText _
  | reportMissingNodes => exact means_flagText _

lemma sameKey_name (k k' : Key) :
    (Atom.text (Text.symbols k.name)).sameKey (.text (Text.symbols k'.name)) = decide (k = k') := by
  cases k <;> cases k' <;> decide

/-- The file holds one section, with the entries that its lines stand for. -/
lemma readDocument_fileText (hdepth : 1 ≤ settings.maxDecoratorDepth)
    (hdigits : (Nat.toDigits 10 settings.maxDecoratorDepth.toNat).length ≤ Decimal.mostDigits)
    (hkeys : keys.Nodup) (lastBreak : Bool) :
    readDocument (Text.Utf8.encode (fileText settings keys lastBreak)).toArray =
      .ok (Yaml.sectionValue (.text (Text.symbols "parser")) (keys.map (fieldEntry settings))) := by
  have hname : Yaml.IsWord "parser".toList := by decide
  have hwords : ∀ e ∈ keys.map (fieldWords settings),
      Yaml.IsWord e.1 ∧ e.1.length ≤ 1024 ∧ Yaml.IsWord e.2 :=
    List.forall_mem_map.mpr fun k _ => ⟨(isWord_name k).1,(isWord_name k).2,isWord_fieldText k⟩
  have hmeans : Yaml.MeanEntries (keys.map (fieldWords settings)) (keys.map (fieldEntry settings)) := by
    rw [Yaml.MeanEntries, List.forall₂_map_left_iff, List.forall₂_map_right_iff]
    exact List.forall₂_same.mpr fun k _ => ⟨means_name k,means_fieldText hdepth hdigits k⟩
  have hdistinct : (keys.map (fieldEntry settings)).Pairwise fun a b => a.1.sameKey b.1 = false := by
    rw [List.pairwise_map]
    exact hkeys.imp fun hne => (sameKey_name _ _).trans (decide_eq_false hne)
  have hchars : ∀ {p : Char → Prop}, (∀ x, Yaml.isWordChar x = true → p x) → p ':' → p ' ' → p '\n' →
      ∀ x ∈ fileText settings keys lastBreak, p x := by
    rw [fileText_eq]
    exact fun hword hcolon hblank hnewline =>
      Yaml.forall_mem_sectionText hword hcolon hblank hnewline hname hwords
  have hreturn : '\r' ∉ fileText settings keys lastBreak := fun hmem =>
    hchars (p := (· ≠ '\r')) (fun x hx => Yaml.ne_of_isWordChar hx (by decide)) (by decide) (by decide)
      (by decide) _ hmem rfl
  have hallowed : ∀ x ∈ Text.unifyBreaks (fileText settings keys lastBreak), Yaml.isAllowed x = true := by
    rw [Text.unifyBreaks_eq_self hreturn]
    exact hchars (fun _ hx => Yaml.isAllowed_of_isWordChar hx) (by decide) (by decide) (by decide)
  have hload : Yaml.load ⟨Yaml.sectionText "parser".toList 2 lastBreak (keys.map (fieldWords settings)), none⟩ =
      .ok (Yaml.sectionValue (.text (Text.symbols "parser")) (keys.map (fieldEntry settings))) :=
    Yaml.load_sectionText hname (by decide) (fun _ => rfl) hwords hmeans hdistinct (by decide) lastBreak
  rw [readDocument, Yaml.Source.ofFile_encode hallowed, Text.unifyBreaks_eq_self hreturn, fileText_eq, hload]
  rfl

/-- What stands under a key in a section with the entries of some keys. -/
lemma lookup_fieldEntry (settings : Settings) (keys : List Key) (k : Key) :
    lookup ((keys.map (fieldEntry settings)).map fun a => (a.1, .atom a.2)) k.name =
      if k ∈ keys then some (.atom (k.atom settings)) else none := by
  induction keys with
  | nil => rfl
  | cons first keys ih =>
    simp only [lookup, List.map_cons, fieldEntry, List.find?_cons, sameKey_name] at ih ⊢
    by_cases hk : first = k
    · subst hk
      simp
    · simpa [hk, Ne.symm hk] using ih

/-- The section of a file is empty if the file has no lines for fields, for then there is no value in it. -/
lemma parserOptions?_sectionValue (atoms : List (Atom × Atom)) :
    parserOptions? (Yaml.sectionValue (.text (Text.symbols "parser")) atoms) =
      if atoms.isEmpty then none else some (atoms.map fun a => (a.1, .atom a.2)) := by
  cases atoms <;> rfl

/-- A flag that is left out is the usual one, and nothing is warned of. -/
lemma flag_of_lookup {v : Option Value} {p : Prop} [Decidable p] {b : Bool} (key : String) (usual : Bool)
    (h : v = if p then some (.atom (.bool b)) else none) :
    Writable v ∧ flagGiven usual v = (if p then b else usual) ∧ flagWarnings key v = [] := by
  subst h
  split_ifs
  · exact ⟨writable_bool b,rfl,rfl⟩
  · exact ⟨trivial,rfl,rfl⟩

/-- A depth that is left out is the usual one. -/
lemma depth_of_lookup {v : Option Value} {p : Prop} [Decidable p] {n : ℤ}
    (h : v = if p then some (.atom (.int n)) else none) :
    depthNumber v = .ok (if p then n else ({} : Settings).maxDecoratorDepth) := by
  subst h
  split_ifs
  · rfl
  · rfl

lemma one_le_restrict (hdepth : 1 ≤ settings.maxDecoratorDepth) (keys : List Key) :
    1 ≤ (restrict settings keys).maxDecoratorDepth := by
  change 1 ≤ if .maxDecoratorDepth ∈ keys then settings.maxDecoratorDepth else 32
  split_ifs
  · exact hdepth
  · decide

/-- A section gives the settings that its values are of, whatever else it may hold. -/
lemma fromDocument_of_lookup {document : Value} {options : List (Atom × Value)}
    (hoptions : parserOptions? document = some options)
    (hlookup : ∀ k : Key, lookup options k.name =
      if k ∈ keys then some (.atom (k.atom settings)) else none)
    (hdepth : 1 ≤ settings.maxDecoratorDepth) (path : String) :
    fromDocument path document = .ok { settings := restrict settings keys, warnings := [] } := by
  have hnumber : depthNumber (lookup options "max_decorator_depth") =
      .ok (restrict settings keys).maxDecoratorDepth := depth_of_lookup (hlookup .maxDecoratorDepth)
  obtain ⟨htyped,htypedGiven,htypedWarnings⟩ :=
    flag_of_lookup "typed_default_parameters" ({} : Settings).typedDefaultParameters
      (hlookup .typedDefaultParameters)
  obtain ⟨hmissing,hmissingGiven,hmissingWarnings⟩ :=
    flag_of_lookup "report_missing_nodes" ({} : Settings).reportMissingNodes (hlookup .reportMissingNodes)
  rw [(fieldByField hoptions).of_writable _ hnumber (one_le_restrict hdepth keys) htyped hmissing]
  simp only [Key.name] at htypedGiven htypedWarnings hmissingGiven hmissingWarnings
  rw [htypedGiven, htypedWarnings, hmissingGiven, hmissingWarnings]
  rfl

end Text

/-- A settings file that is written for settings, with some of the keys and in any order, is read as these
settings, with the usual values in the fields that have no line, and without a warning. -/
theorem load_fileText (path : String) (settings : Settings) (keys : List Key) (lastBreak : Bool)
    (hdepth : 1 ≤ settings.maxDecoratorDepth)
    (hdigits : (Nat.toDigits 10 settings.maxDecoratorDepth.toNat).length ≤ 4300) (hkeys : keys.Nodup) :
    load path (.file (Text.Utf8.encode (fileText settings keys lastBreak)).toArray) =
      .ok { settings := restrict settings keys, warnings := [] } := by
  rw [load_of_readDocument path (readDocument_fileText hdepth hdigits hkeys lastBreak)]
  have hoptions := parserOptions?_sectionValue (keys.map (fieldEntry settings))
  cases keys with
  | nil => exact fromDocument_of_none hoptions
  | cons first others => exact fromDocument_of_lookup hoptions (lookup_fieldEntry settings _) hdepth path

/-- Two fields are set, out of their usual order; a missing node is not reported, for that field has no
line. -/
theorem load_fileText_twoFields :
    load "/work/.arbor" (.file (Text.Utf8.octets
      "parser:\n  typed_default_parameters: true\n  max_decorator_depth: 7\n")) =
      .ok { settings := ⟨7,true,false⟩, warnings := [] } := by
  have htext : "parser:\n  typed_default_parameters: true\n  max_decorator_depth: 7\n".toList =
      fileText ⟨7,true,true⟩ [.typedDefaultParameters, .maxDecoratorDepth] true := by decide +kernel
  rw [Text.Utf8.octets, htext, load_fileText "/work/.arbor" ⟨7,true,true⟩
    [.typedDefaultParameters, .maxDecoratorDepth] true (by decide) (by decide) (by decide)]
  rfl

end SourceOutline.Settings

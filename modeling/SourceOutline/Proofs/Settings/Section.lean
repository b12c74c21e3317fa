import SourceOutline.Proofs.Settings.Recovery

/-! What the keys of a settings file decide. A depth that cannot be used sets all fields back with one
warning; under a usable depth each flag stands for itself, and a key that is not documented stands for
nothing. One kind of value breaks this: a flag with a number too long to be written in its own warning
takes the whole file with it. -/
namespace SourceOutline.Settings

/-- The whole number that is given as the depth; it need not be positive. -/
def depthNumber : Option Value → Except Fault Int
  | none => .ok ({} : Settings).maxDecoratorDepth
  | some v => wholeNumber v

/-- A value, if there is one, can be written in a warning. -/
def Writable : Option Value → Prop
  | none => True
  | some v => v.write?.isSome = true

instance : DecidablePred Writable
  | none => isTrue trivial
  | some v => inferInstanceAs (Decidable (v.write?.isSome = true))

/-- What is warned of when a flag is read: any value but a truth value. -/
def flagWarnings (key : String) : Option Value → List Warning
  | none | some (.atom (.bool _)) => []
  | some v => [.notBoolean key (v.write?.getD [])]

section Flags
variable {v : Option Value} {key : String} {usual : Bool}

lemma writable_bool (b : Bool) : Writable (some (.atom (.bool b))) := by
  cases b <;> simp [Writable, Value.write?, Atom.write?]

/-- A value that is no truth value stands for the usual one, with a warning. -/
lemma flagOf_of_writable (h : Writable v) :
    flagOf key usual v = .ok (flagGiven usual v, flagWarnings key v) := by
  unfold flagOf
  split
  · rfl
  · rfl
  · rename_i w hno
    obtain ⟨written,hwritten⟩ := Option.isSome_iff_exists.mp h
    have hgiven : flagGiven usual (some w) = usual := by
      rw [flagGiven]
      exact fun b hb => hno b (Option.some.inj hb)
    have hwarnings : flagWarnings key (some w) = [.notBoolean key written] := by
      rw [flagWarnings, hwritten]
      · rfl
      · exact fun b hb => hno b hb
    rw [hwritten, hgiven, hwarnings]

lemma flagOf_of_not_writable (h : ¬ Writable v) : flagOf key usual v = .error .tooLongToWrite := by
  unfold flagOf
  split
  · exact absurd trivial h
  · exact absurd (writable_bool _) h
  · rename_i w _
    have hnone : w.write? = none := by simpa [Writable] using h
    rw [hnone]

end Flags

section Depth
variable {v : Option Value} {n : Int} {fault : Fault}

lemma depthOf_eq_bind (v : Option Value) : depthOf v = (depthNumber v).bind fun n =>
    if 1 ≤ n then .ok n
    else if (Decimal.writeInteger? n).isSome then .error (.depthNotPositive n)
    else .error .tooLongToWrite := by
  cases v <;> rfl

lemma depthOf_of_error (h : depthNumber v = .error fault) : depthOf v = .error fault := by
  rw [depthOf_eq_bind, h]
  rfl

lemma depthOf_of_one_le (h : depthNumber v = .ok n) (hn : 1 ≤ n) : depthOf v = .ok n := by
  rw [depthOf_eq_bind, h]
  exact if_pos hn

/-- Whether or not a number that is not positive can be written, it is warned of. -/
lemma depthOf_of_lt_one (h : depthNumber v = .ok n) (hn : n < 1) :
    ∃ fault, depthOf v = .error fault ∧ fault.isForeseen = true := by
  have hdepth : depthOf v = if (Decimal.writeInteger? n).isSome then .error (.depthNotPositive n)
      else .error .tooLongToWrite := by
    rw [depthOf_eq_bind, h]
    exact if_neg (Int.not_le.mpr hn)
  rw [hdepth]
  split_ifs
  · exact ⟨_,rfl,rfl⟩
  · exact ⟨_,rfl,rfl⟩

lemma one_le_of_depthOf (h : depthOf v = .ok n) : 1 ≤ n := by
  rw [depthOf_eq_bind] at h
  cases hnumber : depthNumber v with
  | error fault =>
    rw [hnumber] at h
    cases h
  | ok m =>
    rw [hnumber] at h
    change (if 1 ≤ m then _ else _) = _ at h
    split_ifs at h
    cases h
    assumption

end Depth

section Whole
variable {path : String} {depth typed missing : Option Value} {loaded : Loaded} {fault : Fault} {n : Int}

lemma ofSection_of_error (h : depthOf depth = .error fault) :
    ofSection depth typed missing = .inr ([], fault) := by
  simp only [ofSection, h]

lemma ofSection_of_writable (h : depthOf depth = .ok n) (ht : Writable typed) (hm : Writable missing) :
    ofSection depth typed missing = .inl {
      settings := {
        maxDecoratorDepth := n
        typedDefaultParameters := flagGiven ({} : Settings).typedDefaultParameters typed
        reportMissingNodes := flagGiven ({} : Settings).reportMissingNodes missing }
      warnings := flagWarnings "typed_default_parameters" typed ++
        flagWarnings "report_missing_nodes" missing } := by
  simp only [ofSection, h, flagOf_of_writable ht, flagOf_of_writable hm]

/-- A flag that cannot be written takes the section with it, after the warnings that came before. -/
lemma ofSection_of_not_writable (h : depthOf depth = .ok n)
    (hno : ¬ (Writable typed ∧ Writable missing)) :
    ∃ warnings, ofSection depth typed missing = .inr (warnings, .tooLongToWrite) := by
  by_cases ht : Writable typed
  · have hm : ¬ Writable missing := fun hm => hno ⟨ht,hm⟩
    refine ⟨flagWarnings "typed_default_parameters" typed,?_⟩
    simp only [ofSection, h, flagOf_of_writable ht, flagOf_of_not_writable hm]
  · refine ⟨[],?_⟩
    simp only [ofSection, h, flagOf_of_not_writable ht]

lemma settings_of_recover {warnings : List Warning} (h : recover path warnings fault = .ok loaded) :
    loaded.settings = {} := by
  cases hf : fault.isForeseen with
  | true =>
    rw [recover_of_isForeseen hf] at h
    cases h
    rfl
  | false =>
    rw [recover_of_not_isForeseen hf] at h
    cases h

/-- The settings that come of the three values of a section: all of them count or none does. -/
def settingsOf (depth typed missing : Option Value) : Settings :=
  match depthOf depth with
  | .error _ => {}
  | .ok n =>
    if Writable typed ∧ Writable missing then {
      maxDecoratorDepth := n
      typedDefaultParameters := flagGiven ({} : Settings).typedDefaultParameters typed
      reportMissingNodes := flagGiven ({} : Settings).reportMissingNodes missing }
    else {}

theorem settings_eq_settingsOf (h : settle path (ofSection depth typed missing) = .ok loaded) :
    loaded.settings = settingsOf depth typed missing := by
  unfold settingsOf
  cases hdepth : depthOf depth with
  | error fault =>
    rw [ofSection_of_error hdepth] at h
    exact settings_of_recover h
  | ok n =>
    by_cases hw : Writable typed ∧ Writable missing
    · rw [ofSection_of_writable hdepth hw.1 hw.2] at h
      cases h
      exact (if_pos hw).symm
    · obtain ⟨warnings,hsection⟩ := ofSection_of_not_writable hdepth hw
      rw [hsection] at h
      exact (settings_of_recover h).trans (if_neg hw).symm

lemma one_le_settingsOf (depth typed missing : Option Value) :
    1 ≤ (settingsOf depth typed missing).maxDecoratorDepth := by
  unfold settingsOf
  have husual : 1 ≤ ({} : Settings).maxDecoratorDepth := by decide
  cases hdepth : depthOf depth with
  | error fault => exact husual
  | ok n =>
    dsimp only
    split_ifs
    · exact one_le_of_depthOf hdepth
    · exact husual

/-- Another value under one flag leaves the depth and the other flag as they are. -/
lemma settingsOf_other_typed {typed' : Option Value} (h : Writable typed) (h' : Writable typed') :
    (settingsOf depth typed' missing).maxDecoratorDepth =
        (settingsOf depth typed missing).maxDecoratorDepth ∧
      (settingsOf depth typed' missing).reportMissingNodes =
        (settingsOf depth typed missing).reportMissingNodes := by
  unfold settingsOf
  cases depthOf depth with
  | error fault => exact ⟨rfl,rfl⟩
  | ok n =>
    simp only [h, h', true_and]
    split_ifs <;> exact ⟨rfl,rfl⟩

lemma settingsOf_other_missing {missing' : Option Value} (h : Writable missing) (h' : Writable missing') :
    (settingsOf depth typed missing').maxDecoratorDepth =
        (settingsOf depth typed missing).maxDecoratorDepth ∧
      (settingsOf depth typed missing').typedDefaultParameters =
        (settingsOf depth typed missing).typedDefaultParameters := by
  unfold settingsOf
  cases depthOf depth with
  | error fault => exact ⟨rfl,rfl⟩
  | ok n =>
    simp only [h, h', and_true]
    split_ifs <;> exact ⟨rfl,rfl⟩

end Whole

section Document
variable {path : String} {document : Value} {options : List (Atom × Value)}

lemma fromDocument_of_none (h : parserOptions? document = none) :
    fromDocument path document = .ok {} := by
  rw [fromDocument, ofDocument_eq, h]
  rfl

lemma fromDocument_of_some (h : parserOptions? document = some options) :
    fromDocument path document =
      settle path (ofSection (lookup options "max_decorator_depth")
        (lookup options "typed_default_parameters") (lookup options "report_missing_nodes")) := by
  rw [fromDocument, ofDocument_eq, h]

/-- An entry counts only for look-ups of its own key. -/
lemma lookup_insert {before after : List (Atom × Value)} {k : Atom} {v : Value} {key : String}
    (h : k.sameKey (.text (Text.symbols key)) = false) :
    lookup (before ++ (k, v) :: after) key = lookup (before ++ after) key := by
  rw [lookup, lookup, List.find?_append, List.find?_append, List.find?_cons_of_neg (by simp [h])]

/-- What comes of a document whose section holds these options. The depth counts for the whole section; a
flag counts only for itself, unless it cannot be written. -/
structure FieldByField (path : String) (document : Value) (options : List (Atom × Value)) : Prop where
  of_error : ∀ fault, depthNumber (lookup options "max_decorator_depth") = .error fault →
    fault.isForeseen = true → fromDocument path document = .ok { warnings := [.ignored path fault] }
  of_lt_one : ∀ n, depthNumber (lookup options "max_decorator_depth") = .ok n → n < 1 →
    ∃ fault, fromDocument path document = .ok { warnings := [.ignored path fault] }
  of_writable : ∀ n, depthNumber (lookup options "max_decorator_depth") = .ok n → 1 ≤ n →
    Writable (lookup options "typed_default_parameters") →
    Writable (lookup options "report_missing_nodes") →
    fromDocument path document = .ok {
      settings := {
        maxDecoratorDepth := n
        typedDefaultParameters := flagGiven ({} : Settings).typedDefaultParameters
          (lookup options "typed_default_parameters")
        reportMissingNodes := flagGiven ({} : Settings).reportMissingNodes
          (lookup options "report_missing_nodes") }
      warnings :=
        flagWarnings "typed_default_parameters" (lookup options "typed_default_parameters") ++
          flagWarnings "report_missing_nodes" (lookup options "report_missing_nodes") }
  of_not_writable : ∀ n, depthNumber (lookup options "max_decorator_depth") = .ok n → 1 ≤ n →
    ¬ (Writable (lookup options "typed_default_parameters") ∧
      Writable (lookup options "report_missing_nodes")) →
    ∃ warnings, fromDocument path document =
      .ok { warnings := warnings ++ [.ignored path .tooLongToWrite] }

theorem fieldByField (h : parserOptions? document = some options) :
    FieldByField path document options := by
  constructor
  case of_error =>
    intro fault hnumber hforeseen
    rw [fromDocument_of_some h, ofSection_of_error (depthOf_of_error hnumber)]
    exact recover_of_isForeseen hforeseen
  case of_lt_one =>
    intro n hnumber hn
    obtain ⟨fault,hdepth,hforeseen⟩ := depthOf_of_lt_one hnumber hn
    rw [fromDocument_of_some h, ofSection_of_error hdepth]
    exact ⟨fault,recover_of_isForeseen hforeseen⟩
  case of_writable =>
    intro n hnumber hn htyped hmissing
    rw [fromDocument_of_some h, ofSection_of_writable (depthOf_of_one_le hnumber hn) htyped hmissing]
    rfl
  case of_not_writable =>
    intro n hnumber hn hno
    obtain ⟨warnings,hsection⟩ := ofSection_of_not_writable (depthOf_of_one_le hnumber hn) hno
    rw [fromDocument_of_some h, hsection]
    exact ⟨warnings,recover_of_isForeseen rfl⟩

lemma settings_of_some {loaded : Loaded} (h : parserOptions? document = some options)
    (hloaded : fromDocument path document = .ok loaded) :
    loaded.settings = settingsOf (lookup options "max_decorator_depth")
      (lookup options "typed_default_parameters") (lookup options "report_missing_nodes") := by
  rw [fromDocument_of_some h] at hloaded
  exact settings_eq_settingsOf hloaded

lemma one_le_maxDecoratorDepth {loaded : Loaded} (h : fromDocument path document = .ok loaded) :
    1 ≤ loaded.settings.maxDecoratorDepth := by
  cases hoptions : parserOptions? document with
  | none =>
    rw [fromDocument_of_none hoptions] at h
    cases h
    decide
  | some options =>
    rw [settings_of_some hoptions h]
    exact one_le_settingsOf _ _ _

/-- Of two documents whose sections differ in one flag, the depths and the other flags are the same. -/
structure FlagsApart (path : String) (document other : Value) : Prop where
  typed : ∀ options others loaded loaded', parserOptions? document = some options →
    parserOptions? other = some others →
    lookup others "max_decorator_depth" = lookup options "max_decorator_depth" →
    lookup others "report_missing_nodes" = lookup options "report_missing_nodes" →
    Writable (lookup options "typed_default_parameters") →
    Writable (lookup others "typed_default_parameters") →
    fromDocument path document = .ok loaded → fromDocument path other = .ok loaded' →
    loaded'.settings.maxDecoratorDepth = loaded.settings.maxDecoratorDepth ∧
      loaded'.settings.reportMissingNodes = loaded.settings.reportMissingNodes
  missing : ∀ options others loaded loaded', parserOptions? document = some options →
    parserOptions? other = some others →
    lookup others "max_decorator_depth" = lookup options "max_decorator_depth" →
    lookup others "typed_default_parameters" = lookup options "typed_default_parameters" →
    Writable (lookup options "report_missing_nodes") →
    Writable (lookup others "report_missing_nodes") →
    fromDocument path document = .ok loaded → fromDocument path other = .ok loaded' →
    loaded'.settings.maxDecoratorDepth = loaded.settings.maxDecoratorDepth ∧
      loaded'.settings.typedDefaultParameters = loaded.settings.typedDefaultParameters

theorem flagsApart (path : String) (document other : Value) : FlagsApart path document other := by
  constructor
  case typed =>
    intro options others loaded loaded' h h' hdepth hmissing htyped htyped' hloaded hloaded'
    rw [settings_of_some h hloaded, settings_of_some h' hloaded', hdepth, hmissing]
    exact settingsOf_other_typed htyped htyped'
  case missing =>
    intro options others loaded loaded' h h' hdepth htyped hmissing hmissing' hloaded hloaded'
    rw [settings_of_some h hloaded, settings_of_some h' hloaded', hdepth, htyped]
    exact settingsOf_other_missing hmissing hmissing'

end Document

/-- The keys that a section may hold. -/
def sectionKeys : List String :=
  ["max_decorator_depth", "typed_default_parameters", "report_missing_nodes"]

/-- An entry has another key than any of these. -/
def IsUnknown (keys : List String) (k : Atom) : Prop :=
  ∀ key ∈ keys, k.sameKey (.text (Text.symbols key)) = false

section Unknown
variable {path : String} {before after : List (Atom × Value)} {k : Atom} {v : Value}

lemma parserOptions?_insert (h : IsUnknown ["parser"] k) :
    parserOptions? (.map (before ++ (k, v) :: after)) = parserOptions? (.map (before ++ after)) := by
  change Option.bind (some _) _ = Option.bind (some _) _
  rw [Option.bind_some, Option.bind_some, lookup_insert (h _ List.mem_cons_self)]

/-- An entry that is not for the parser changes nothing. -/
lemma fromDocument_insert (h : IsUnknown ["parser"] k) :
    fromDocument path (.map (before ++ (k, v) :: after)) =
      fromDocument path (.map (before ++ after)) := by
  rw [fromDocument, fromDocument, ofDocument_eq, ofDocument_eq, parserOptions?_insert h]

/-- An entry of the section whose key is not known changes nothing. -/
lemma fromDocument_eq_of_unknown {document other : Value}
    (h : parserOptions? document = some (before ++ (k, v) :: after))
    (h' : parserOptions? other = some (before ++ after)) (hk : IsUnknown sectionKeys k) :
    fromDocument path document = fromDocument path other := by
  rw [fromDocument_of_some h, fromDocument_of_some h', lookup_insert (hk _ (by simp [sectionKeys])),
    lookup_insert (hk _ (by simp [sectionKeys])), lookup_insert (hk _ (by simp [sectionKeys]))]

end Unknown

/-- A document gives a positive depth, the usual settings without a word if it has no section for the
parser, and otherwise the fields of its section, each of them by itself if the depth can be used; keys
that are not known make no difference. -/
theorem fromDocument_fieldByField (path : String) (document : Value) :
    (∀ content, readDocument content = .ok document →
      load path (.file content) = fromDocument path document) ∧
    (∀ loaded, fromDocument path document = .ok loaded → 1 ≤ loaded.settings.maxDecoratorDepth) ∧
    (parserOptions? document = none → fromDocument path document = .ok {}) ∧
    (∀ options, parserOptions? document = some options → FieldByField path document options) ∧
    (∀ other, FlagsApart path document other) ∧
    (∀ before k v after, document = .map (before ++ (k, v) :: after) → IsUnknown ["parser"] k →
      fromDocument path document = fromDocument path (.map (before ++ after))) ∧
    ∀ other before k v after, parserOptions? document = some (before ++ (k, v) :: after) →
      parserOptions? other = some (before ++ after) → IsUnknown sectionKeys k →
      fromDocument path document = fromDocument path other := by
  refine ⟨?_,?_,?_,?_,?_,?_,?_⟩
  · exact fun content h => load_of_readDocument path h
  · exact fun loaded h => one_le_maxDecoratorDepth h
  · exact fromDocument_of_none
  · exact fun options h => fieldByField h
  · exact flagsApart path document
  · rintro before k v after rfl hk
    exact fromDocument_insert hk
  · exact fun other before k v after h h' hk => fromDocument_eq_of_unknown h h' hk

/-- A document with a depth of 5 and, in place of a flag, a number of 4302 digits. -/
def unwritableFlag : Value := .map [(.text (Text.symbols "parser"), .map [
  (.text (Text.symbols "max_decorator_depth"), .atom (.int 5)),
  (.text (Text.symbols "typed_default_parameters"), .atom (.int (Nat.pow 16 3572)))])]

/-- A flag that cannot be written makes a depth fail that could be used. -/
theorem fromDocument_unwritableFlag :
    (∃ options, parserOptions? unwritableFlag = some options ∧
      depthNumber (lookup options "max_decorator_depth") = .ok 5) ∧
    ∃ loaded, fromDocument "/work/.arbor" unwritableFlag = .ok loaded ∧
      loaded.settings.maxDecoratorDepth = 32 ∧
      loaded.warnings = [.ignored "/work/.arbor" .tooLongToWrite] := by
  have hloaded : fromDocument "/work/.arbor" unwritableFlag =
      .ok { warnings := [.ignored "/work/.arbor" .tooLongToWrite] } := by
    decide +kernel
  exact ⟨⟨_,rfl,rfl⟩,_,hloaded,rfl,rfl⟩

end SourceOutline.Settings

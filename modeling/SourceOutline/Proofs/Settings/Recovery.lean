import Mathlib.Tactic.SplitIfs
import SourceOutline.Settings.Load

/-! When settings can be read from a file. Every file gives settings, the usual ones wherever it holds
nothing that can be used, but for a depth that is infinite and for the few faults of a YAML text that no
reader of settings provides for. -/
namespace SourceOutline.Settings

/-- The section for the parser that a document holds; it is empty if there is none. -/
def parserOptions? (document : Value) : Option (List (Atom × Value)) :=
  document.entries?.bind fun entries => ((lookup entries "parser").getD (.map [])).entries?

/-- The truth value that a flag is set to; anything else stands for the usual one. -/
def flagGiven (usual : Bool) : Option Value → Bool
  | some (.atom (.bool b)) => b
  | _ => usual

section Depth
variable {v : Value} {o : Option Value} {fault : Fault}

end Depth

section Parts
variable {depth typed missing : Option Value} {loaded : Loaded} {warnings : List Warning}
  {fault : Fault}

end Parts

/-- A document without a section gives the usual settings, and one with a section what that gives. -/
lemma ofDocument_eq (document : Value) : ofDocument document =
    match parserOptions? document with
    | none => .inl {}
    | some options =>
      ofSection (lookup options "max_decorator_depth") (lookup options "typed_default_parameters")
        (lookup options "report_missing_nodes") := by
  unfold ofDocument parserOptions?
  cases document.entries? with
  | none => rfl
  | some entries => rfl

lemma recover_of_isForeseen {path : String} {warnings : List Warning} {fault : Fault}
    (h : fault.isForeseen = true) :
    recover path warnings fault = .ok { warnings := warnings ++ [.ignored path fault] } := by
  rw [recover, if_pos h]

lemma recover_of_not_isForeseen {path : String} {warnings : List Warning} {fault : Fault}
    (h : fault.isForeseen = false) : recover path warnings fault = .error fault := by
  rw [recover, h]
  rfl

/-- What a section gives, once the faults that are warned of have been recovered from. -/
def settle (path : String) : Loaded ⊕ List Warning × Fault → Except Fault Loaded
  | .inl loaded => .ok loaded
  | .inr (warnings, fault) => recover path warnings fault

/-- The settings that a document gives, or the fault that keeps them from being read. -/
def fromDocument (path : String) (document : Value) : Except Fault Loaded :=
  settle path (ofDocument document)

section File
variable {content : Octets}

lemma load_of_readDocument {document : Value} (path : String) (h : readDocument content = .ok document) :
    load path (.file content) = fromDocument path document := by
  rw [load.eq_def, fromDocument]
  simp only [h]
  cases ofDocument document <;> rfl

end File

end SourceOutline.Settings

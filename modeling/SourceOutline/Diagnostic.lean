import SourceOutline.RawTree

/-!
What is wrong with a source text, as the grammar engine marked it. A loop goes through the marked part
of the engine's tree in source order: a node without the mark is left out together with all below it.
-/
namespace SourceOutline

inductive Severity where
  | error
  | warning
deriving DecidableEq, Repr, Inhabited

namespace Severity

def name : Severity → String
  | error => "error"
  | warning => "warning"

def ofName? (name : String) : Option Severity :=
  [error, warning].find? (·.name == name)

end Severity

/-- What the grammar could not make sense of. -/
inductive Fault where
  /-- A piece of text that fits nowhere. -/
  | misplaced
  /-- A node of this kind, which the text lacks and the engine put in. -/
  | missing (kind : String)
deriving DecidableEq, Repr, Inhabited

def Fault.severity : Fault → Severity
  | misplaced => .error
  | missing _ => .warning

/-- A fault and the place where it starts. -/
structure Diagnostic where
  fault : Fault
  position : Position
deriving DecidableEq, Repr, Inhabited

namespace Diagnostic

def severity (d : Diagnostic) : Severity := d.fault.severity

/-- The sentence that reports a diagnostic. -/
def message (d : Diagnostic) : String :=
  let place := Nat.repr d.position.row ++ ":" ++ Nat.repr d.position.column
  match d.fault with
  | .misplaced => "Syntax error at " ++ place
  | .missing kind => "Missing " ++ kind ++ " at " ++ place

end Diagnostic

/-- Whether one of the diagnostics is an error and no mere warning. -/
def hasErrors (ds : List Diagnostic) : Bool := ds.any (·.severity == .error)

namespace RawNode

/-- What a node on a marked path reports. Missing nodes are reported on request only. -/
def fault? (reportMissing : Bool) (n : RawNode) : Option Fault :=
  if n.kind == "ERROR" then some .misplaced
  else if reportMissing && n.isMissing then some (.missing n.kind)
  else none

def diagnostic? (reportMissing : Bool) (n : RawNode) : Option Diagnostic :=
  (n.fault? reportMissing).map fun fault => ⟨fault, n.span.start⟩

end RawNode

namespace RawTree

/--
Takes the first tree off a stack and, if it is marked, reports its root and puts its subtrees in its
place. The diagnostics are kept latest first.
-/
def collect (reportMissing : Bool) : List RawTree → List Diagnostic → List Diagnostic
  | [], found => found.reverse
  | .node label children :: stack, found =>
    if label.hasError then
      collect reportMissing (children ++ stack) ((label.diagnostic? reportMissing).toList ++ found)
    else
      collect reportMissing stack found
termination_by stack => sizeAll stack
decreasing_by
  · simp [size_eq, RawTree.children]
  · have := size_pos (.node label children)
    simp only [sizeAll_cons]
    omega

/-- All diagnostics of a tree in source order. -/
def diagnostics (t : RawTree) (reportMissing : Bool := false) : List Diagnostic :=
  collect reportMissing [t] []

theorem collect_nil (r : Bool) (found : List Diagnostic) : collect r [] found = found.reverse := by
  rw [collect]

theorem collect_cons (r : Bool) (l : RawNode) (cs stack : List RawTree) (found : List Diagnostic) :
    collect r (.node l cs :: stack) found =
      if l.hasError then collect r (cs ++ stack) ((l.diagnostic? r).toList ++ found)
      else collect r stack found := by
  rw [collect]

/-- A tree without the mark has no diagnostics. -/
theorem diagnostics_of_not_hasError {t : RawTree} (r : Bool) (h : t.label.hasError = false) :
    t.diagnostics r = [] := by
  obtain ⟨l, cs⟩ := t
  simp only [label] at h
  simp [diagnostics, collect_cons, collect_nil, h]

end RawTree

end SourceOutline

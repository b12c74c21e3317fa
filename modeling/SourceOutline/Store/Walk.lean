import SourceOutline.Store.Basic

/-!
Ways through a store: down along the lists of children and up along the parent links. Both are loops
with a bound taken from the store, which is enough wherever the links have no cycle.
-/
namespace SourceOutline.Store

/-- How many nodes a walk from `n` visits when it goes at most `depth` lists deep. -/
def visits (s : Store) : Nat → NodeId → Nat
  | 0, _ => 1
  | depth + 1, n => ((s.children n).map (visits s depth)).foldr (· + ·) 1

/--
Visits the first node of a stack, puts its children in its place and goes on, for at most `fuel`
visits. The nodes visited are kept latest first; a stack that is not empty at the end gives nothing.
-/
def walkLoop (s : Store) : Nat → List NodeId → List NodeId → Option (List NodeId)
  | _, [], visited => some visited.reverse
  | 0, _ :: _, _ => none
  | fuel + 1, n :: stack, visited => walkLoop s fuel (s.children n ++ stack) (n :: visited)

/-- A node and all nodes below it, each before its children. -/
def walk (s : Store) (n : NodeId) : List NodeId :=
  (s.walkLoop (s.visits s.size n) [n] []).getD []

/-- How many nodes a walk visits. -/
def countFrom (s : Store) (n : NodeId) : Nat := (s.walk n).length

/-- The nodes of one kind in the order of the walk. -/
def findByKind (s : Store) (n : NodeId) (kind : String) : List NodeId :=
  (s.walk n).filter fun m => s.kind m == kind

/-- The nodes met on the way up from a link, for at most `fuel` of them. -/
def climb (s : Store) : Nat → Option NodeId → List NodeId
  | _, none => []
  | 0, some _ => []
  | fuel + 1, some n => n :: climb s fuel (s.parent n)

/-- The parents of a node, from the closest one up. -/
def ancestors (s : Store) (n : NodeId) : List NodeId := s.climb s.size (s.parent n)

/-- The first child whose kind is one of `kinds`. -/
def childOfKind (s : Store) (n : NodeId) (kinds : List String) : Option NodeId :=
  (s.children n).find? fun c => kinds.contains (s.kind c)

/-- The node that a path leads to from `n`, each step of it being the index of a child. -/
def descendant? (s : Store) : NodeId → List Nat → Option NodeId
  | n, [] => some n
  | n, i :: path => (s.children n)[i]?.bind fun c => descendant? s c path

/-- Whether `n` has no parent and every node listed below it has the one that lists it as its parent. -/
def linksOk (s : Store) (n : NodeId) : Bool :=
  s.parent n == none && (s.walk n).all fun m => (s.children m).all fun c => s.parent c == some m

@[simp] theorem descendant?_nil (s : Store) (n : NodeId) : s.descendant? n [] = some n := by
  simp [descendant?]

theorem descendant?_append (s : Store) (n : NodeId) (path more : List Nat) :
    s.descendant? n (path ++ more) = (s.descendant? n path).bind fun m => s.descendant? m more := by
  induction path generalizing n with
  | nil => simp
  | cons i path ih =>
    simp only [List.cons_append, descendant?]
    cases (s.children n)[i]? with
    | none => simp
    | some c => simp [ih]

theorem childOfKind_eq_none_iff (s : Store) {n : NodeId} {kinds : List String} :
    s.childOfKind n kinds = none ↔ ∀ c ∈ s.children n, s.kind c ∉ kinds := by
  simp [childOfKind]

/-- The first child of some kinds is the one before which there is none of these kinds. -/
theorem childOfKind_of_append (s : Store) {n c : NodeId} {before after : List NodeId}
    {kinds : List String} (h : s.children n = before ++ c :: after)
    (hbefore : ∀ b ∈ before, s.kind b ∉ kinds) (hc : s.kind c ∈ kinds) :
    s.childOfKind n kinds = some c := by
  have hnone : before.find? (fun b => kinds.contains (s.kind b)) = none := by
    simpa using hbefore
  rw [childOfKind, h, List.find?_append, hnone, Option.none_or, List.find?_cons_of_pos]
  simpa using hc

@[simp] theorem walkLoop_nil (s : Store) (fuel : Nat) (visited : List NodeId) :
    s.walkLoop fuel [] visited = some visited.reverse := by
  cases fuel <;> rfl

/-- A longer bound gives the same walk. -/
theorem walkLoop_mono (s : Store) {fuel more : Nat} {stack visited found : List NodeId}
    (h : s.walkLoop fuel stack visited = some found) (hle : fuel ≤ more) :
    s.walkLoop more stack visited = some found := by
  induction fuel generalizing more stack visited with
  | zero => cases stack <;> simp_all [walkLoop]
  | succ fuel ih =>
    cases stack with
    | nil => simpa using h
    | cons n stack =>
      obtain ⟨more, rfl⟩ : ∃ k, more = k + 1 := ⟨more - 1, by omega⟩
      rw [walkLoop] at h ⊢
      exact ih h (by omega)

end SourceOutline.Store

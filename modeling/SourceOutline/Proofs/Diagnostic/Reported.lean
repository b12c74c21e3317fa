import Mathlib.Data.List.Lex
import SourceOutline.Proofs.Diagnostic.Parse

/-! Which nodes of the engine's tree are reported, and what is said of each. A node is reported if it and
all nodes above it are marked and it is an error or, on request, a missing node, whatever the marks of the
other nodes. The request adds warnings between the errors and changes nothing else. -/
namespace SourceOutline

namespace RawTree

/-- A node and all nodes above it are marked. -/
def MarkedDownTo (t : RawTree) (path : List ℕ) : Prop :=
  ∀ above, above <+: path → ∃ u, t.subtree? above = some u ∧ u.label.hasError = true

/-- The node at a path is to be reported: an error always, a missing node on request. -/
structure IsReported (t : RawTree) (reportMissing : Bool) (path : List ℕ) : Prop where
  marked : t.MarkedDownTo path
  faulty : ∃ u, t.subtree? path = some u ∧
    (u.label.kind = "ERROR" ∨ reportMissing = true ∧ u.label.isMissing = true)

/-- What is said of the node at a path: where it starts, and what is wrong with it. -/
inductive Reports (t : RawTree) (path : List ℕ) (d : Diagnostic) : Prop
  | error {u : RawTree} (hu : t.subtree? path = some u) (position_eq : d.position = u.label.span.start)
      (hkind : u.label.kind = "ERROR") (severity_eq : d.severity = .error)
      (message_eq : d.message = "Syntax error at " ++
        (Nat.repr u.label.span.start.row ++ ":" ++ Nat.repr u.label.span.start.column))
  | missing {u : RawTree} (hu : t.subtree? path = some u) (position_eq : d.position = u.label.span.start)
      (hkind : u.label.kind ≠ "ERROR") (hmissing : u.label.isMissing = true)
      (severity_eq : d.severity = .warning)
      (message_eq : d.message = "Missing " ++ u.label.kind ++ " at " ++
        (Nat.repr u.label.span.start.row ++ ":" ++ Nat.repr u.label.span.start.column))

mutual

/-- The nodes that are marked together with all nodes above them, each as its path and its label, in
pre-order. -/
def markedPlaces : RawTree → List (List ℕ × RawNode)
  | node l cs => if l.hasError then ([], l) :: markedPlacesFrom 0 cs else []

/-- The same for some children of a node, the first of which has the index `i`. -/
def markedPlacesFrom : ℕ → List RawTree → List (List ℕ × RawNode)
  | _, [] => []
  | i, t :: ts => t.markedPlaces.map (Prod.map (i :: ·) id) ++ markedPlacesFrom (i + 1) ts

end

lemma subtree?_cons (l : RawNode) (cs : List RawTree) (i : ℕ) (path : List ℕ) :
    (node l cs).subtree? (i :: path) = cs[i]?.bind fun c => c.subtree? path := by
  rw [subtree?, children]

lemma markedDownTo_nil {t : RawTree} : t.MarkedDownTo [] ↔ t.label.hasError = true := by
  simp [MarkedDownTo]

lemma markedDownTo_cons {l : RawNode} {cs : List RawTree} {i : ℕ} {path : List ℕ} :
    (node l cs).MarkedDownTo (i :: path) ↔
      l.hasError = true ∧ ∃ c, cs[i]? = some c ∧ c.MarkedDownTo path := by
  constructor
  · intro h
    have hroot : (node l cs).MarkedDownTo [] := fun above habove => h above (habove.trans List.nil_prefix)
    obtain ⟨u,hu,-⟩ := h [i] (by simp)
    rw [subtree?_cons] at hu
    obtain ⟨c,hc,-⟩ := Option.bind_eq_some_iff.mp hu
    refine ⟨markedDownTo_nil.mp hroot,c,hc,?_⟩
    intro above habove
    obtain ⟨u,hu,hmark⟩ := h (i :: above) (List.cons_prefix_cons.mpr ⟨rfl,habove⟩)
    rw [subtree?_cons, hc, Option.bind_some] at hu
    exact ⟨u,hu,hmark⟩
  · rintro ⟨hroot,c,hc,h⟩ above habove
    cases above with
    | nil => exact ⟨node l cs,subtree?_nil _,hroot⟩
    | cons j above =>
      obtain ⟨rfl,hbelow⟩ := List.cons_prefix_cons.mp habove
      obtain ⟨u,hu,hmark⟩ := h above hbelow
      exact ⟨u,by rw [subtree?_cons, hc, Option.bind_some, hu],hmark⟩

lemma mem_markedPlacesFrom {i : ℕ} {ts : List RawTree} {place : List ℕ × RawNode} :
    place ∈ markedPlacesFrom i ts ↔
      ∃ j t, ts[j]? = some t ∧ ∃ path l, (path, l) ∈ t.markedPlaces ∧ place = ((i + j) :: path, l) := by
  induction ts generalizing i with
  | nil => simp [markedPlacesFrom]
  | cons t ts ih =>
    rw [markedPlacesFrom, List.mem_append, List.mem_map, ih]
    constructor
    · rintro (⟨⟨path,l⟩,hpath,rfl⟩ | ⟨j,u,hu,path,l,hpath,rfl⟩)
      · exact ⟨0,t,rfl,path,l,hpath,rfl⟩
      · exact ⟨j + 1,u,hu,path,l,hpath,by rw [Nat.add_right_comm, Nat.add_assoc]⟩
    · rintro ⟨j,u,hu,path,l,hpath,rfl⟩
      cases j with
      | zero =>
        cases hu
        exact Or.inl ⟨(path,l),hpath,rfl⟩
      | succ j => exact Or.inr ⟨j,u,hu,path,l,hpath,by rw [Nat.add_right_comm, Nat.add_assoc]⟩

theorem mem_markedPlaces {t : RawTree} {path : List ℕ} {l : RawNode} :
    (path, l) ∈ t.markedPlaces ↔ t.MarkedDownTo path ∧ ∃ u, t.subtree? path = some u ∧ u.label = l := by
  induction path generalizing t with
  | nil =>
    obtain ⟨root,cs⟩ := t
    rw [markedDownTo_nil, markedPlaces]
    split_ifs with hroot <;> simp [label, hroot, mem_markedPlacesFrom, eq_comm]
  | cons i path ih =>
    obtain ⟨root,cs⟩ := t
    rw [markedDownTo_cons, markedPlaces, subtree?_cons]
    split_ifs with hroot
    · rw [List.mem_cons, mem_markedPlacesFrom]
      constructor
      · rintro (hplace | ⟨j,c,hc,below,k,hbelow,hplace⟩)
        · cases hplace
        · rw [Nat.zero_add] at hplace
          cases hplace
          obtain ⟨hmarked,hu⟩ := ih.mp hbelow
          exact ⟨⟨hroot,c,hc,hmarked⟩,by rw [hc, Option.bind_some]; exact hu⟩
      · rintro ⟨⟨-,c,hc,hmarked⟩,hu⟩
        rw [hc, Option.bind_some] at hu
        exact Or.inr ⟨i,c,hc,path,l,ih.mpr ⟨hmarked,hu⟩,by rw [Nat.zero_add]⟩
    · simp [hroot]

mutual

/-- A node comes before those below it, and of two children the earlier one comes first. -/
theorem pairwise_markedPlaces : ∀ t : RawTree, t.markedPlaces.Pairwise (·.1 < ·.1)
  | .node l cs => by
    rw [markedPlaces]
    split_ifs
    · refine List.pairwise_cons.mpr ⟨?_,pairwise_markedPlacesFrom 0 cs⟩
      intro place hplace
      obtain ⟨j,t,-,path,l,-,rfl⟩ := mem_markedPlacesFrom.mp hplace
      exact List.nil_lt_cons _ _
    · exact List.Pairwise.nil

theorem pairwise_markedPlacesFrom : ∀ (i : ℕ) (ts : List RawTree),
    (markedPlacesFrom i ts).Pairwise (·.1 < ·.1)
  | _, [] => List.Pairwise.nil
  | i, t :: ts => by
    rw [markedPlacesFrom, List.pairwise_append, List.pairwise_map]
    refine ⟨?_,pairwise_markedPlacesFrom (i + 1) ts,?_⟩
    · exact (pairwise_markedPlaces t).imp fun h => List.cons_lt_cons_iff.mpr (Or.inr ⟨rfl,h⟩)
    · intro place hplace other hother
      obtain ⟨⟨path,l⟩,-,rfl⟩ := List.mem_map.mp hplace
      obtain ⟨j,u,-,rest,k,-,rfl⟩ := mem_markedPlacesFrom.mp hother
      exact List.cons_lt_cons_iff.mpr (Or.inl (by omega))

end

mutual

/-- These are the labels that the search looks at. -/
theorem map_markedPlaces : ∀ t : RawTree, t.markedPlaces.map (·.2) = t.marked
  | .node l cs => by
    rw [markedPlaces, marked]
    split_ifs
    · rw [List.map_cons, map_markedPlacesFrom 0 cs]
    · rfl

theorem map_markedPlacesFrom : ∀ (i : ℕ) (ts : List RawTree),
    (markedPlacesFrom i ts).map (·.2) = markedAll ts
  | _, [] => rfl
  | i, t :: ts => by
    rw [markedPlacesFrom, markedAll, List.map_append, List.map_map, map_markedPlacesFrom (i + 1) ts,
      ← map_markedPlaces t]
    rfl

end

/-- What gives a diagnostic. -/
lemma isSome_diagnostic?_iff {l : RawNode} {r : Bool} :
    (l.diagnostic? r).isSome = true ↔ l.kind = "ERROR" ∨ r = true ∧ l.isMissing = true := by
  by_cases hkind : l.kind = "ERROR"
  · simp [RawNode.diagnostic?, RawNode.fault?, hkind]
  · cases r <;> cases hmissing : l.isMissing <;>
      simp [RawNode.diagnostic?, RawNode.fault?, hkind, hmissing]

lemma reports_of_diagnostic? {t u : RawTree} {r : Bool} {path : List ℕ} {d : Diagnostic}
    (hu : t.subtree? path = some u) (hd : u.label.diagnostic? r = some d) : t.Reports path d := by
  by_cases hkind : u.label.kind = "ERROR"
  · rw [RawNode.diagnostic?_of_isError (by simpa [RawNode.isError] using hkind)] at hd
    cases hd
    exact .error hu rfl hkind rfl rfl
  · have hsome := isSome_diagnostic?_iff.mp (Option.isSome_iff_exists.mpr ⟨d,hd⟩)
    obtain ⟨rfl,hmissing⟩ := hsome.resolve_left hkind
    rw [RawNode.diagnostic?_of_isMissing (by simpa [RawNode.isError] using hkind) hmissing] at hd
    cases hd
    exact .missing hu rfl hkind hmissing rfl rfl

/-- The entries of a list that a function keeps, and what it makes of them. -/
lemma forall₂_filterMap {α β : Type} (f : α → Option β) (xs : List α) :
    List.Forall₂ (fun x y => x ∈ xs ∧ f x = some y) (xs.filter fun x => (f x).isSome)
      (xs.filterMap f) := by
  induction xs with
  | nil => exact .nil
  | cons x xs ih =>
    have hmore : List.Forall₂ (fun a b => a ∈ x :: xs ∧ f a = some b)
        (xs.filter fun x => (f x).isSome) (xs.filterMap f) :=
      ih.imp fun a b h => ⟨List.mem_cons_of_mem x h.1,h.2⟩
    cases hx : f x with
    | none => simpa [hx] using hmore
    | some y => simpa [hx] using hmore

/-- The search ends, and it reports the nodes that are to be reported, each once and in pre-order: there is
a strictly increasing list of just their paths, and one diagnostic for each path of the list. -/
theorem diagnostics_reported (t : RawTree) (r : Bool) :
    ∃ paths : List (List ℕ), paths.Pairwise (· < ·) ∧ (∀ path, path ∈ paths ↔ t.IsReported r path) ∧
      List.Forall₂ t.Reports paths (t.diagnostics r) := by
  refine ⟨(t.markedPlaces.filter fun place => (place.2.diagnostic? r).isSome).map (·.1),?_,?_,?_⟩
  · exact List.pairwise_map.mpr (t.pairwise_markedPlaces.filter _)
  · intro path
    rw [List.mem_map]
    constructor
    · rintro ⟨⟨_,l⟩,hplace,rfl⟩
      rw [List.mem_filter, mem_markedPlaces] at hplace
      obtain ⟨⟨hmarked,u,hu,rfl⟩,hfaulty⟩ := hplace
      exact ⟨hmarked,u,hu,isSome_diagnostic?_iff.mp hfaulty⟩
    · rintro ⟨hmarked,u,hu,hfaulty⟩
      refine ⟨(path, u.label),?_,rfl⟩
      rw [List.mem_filter, mem_markedPlaces]
      exact ⟨⟨hmarked,u,hu,rfl⟩,isSome_diagnostic?_iff.mpr hfaulty⟩
  · have hdiagnostics : t.diagnostics r = t.markedPlaces.filterMap fun place => place.2.diagnostic? r := by
      rw [diagnostics_eq, ← map_markedPlaces, List.filterMap_map]
      rfl
    rw [hdiagnostics, List.forall₂_map_left_iff]
    apply (forall₂_filterMap _ _).imp
    rintro ⟨path,l⟩ d ⟨hplace,hd⟩
    obtain ⟨-,u,hu,rfl⟩ := mem_markedPlaces.mp hplace
    exact reports_of_diagnostic? hu hd

/-- Without the request just the warnings are left out of what a node gives. -/
lemma toList_diagnostic?_false (l : RawNode) : (l.diagnostic? false).toList =
    (l.diagnostic? true).toList.filter (·.severity != .warning) := by
  by_cases herror : l.isError = true
  · rw [RawNode.diagnostic?_of_isError herror, RawNode.diagnostic?_of_isError herror]
    rfl
  · rw [Bool.not_eq_true] at herror
    rw [RawNode.diagnostic?_false_of_not_isError herror]
    cases hd : l.diagnostic? true with
    | none => rfl
    | some d =>
      have hwarning := RawNode.severity_of_diagnostic? herror hd
      simp [hwarning]

/-- Whatever is on the stack, a search without the request goes on like one with it and finds all of that
but the warnings. -/
theorem collect_false (stack : List RawTree) (found : List Diagnostic) :
    collect false stack (found.filter (·.severity != .warning)) =
      (collect true stack found).filter (·.severity != .warning) := by
  induction stack, found using collect.induct true with
  | case1 found => rw [collect_nil, collect_nil, List.filter_reverse]
  | case2 l cs stack found hl ih =>
    rw [collect_cons, collect_cons, if_pos hl, if_pos hl, ← ih, List.filter_append,
      toList_diagnostic?_false]
  | case3 l cs stack found hl ih => rw [collect_cons, collect_cons, if_neg hl, if_neg hl, ih]

theorem diagnostics_false (t : RawTree) :
    t.diagnostics false = (t.diagnostics true).filter (·.severity != .warning) :=
  collect_false [t] []

/-- All errors are found without the request. -/
theorem errors_diagnostics (t : RawTree) (r : Bool) :
    (t.diagnostics r).filter (·.severity == .error) = t.diagnostics false := by
  have hseverity : (fun d : Diagnostic => d.severity != .warning) = fun d => d.severity == .error := by
    funext d
    cases d.severity <;> rfl
  rw [diagnostics_false, hseverity]
  cases r with
  | true => rfl
  | false => rw [diagnostics_false, hseverity, List.filter_filter]; simp only [Bool.and_self]

end RawTree

/-- The request for missing nodes only adds warnings. So whatever the settings are, parsing a text gives a
result with the same errors in the same order. -/
theorem Parser.same_errors_parse :
    (∀ t : RawTree, t.diagnostics false = (t.diagnostics true).filter (·.severity != .warning)) ∧
    ∀ (grammar : Grammar) (source : String) (c₁ c₂ : Settings), ∃ a b,
      ((⟨grammar, c₁⟩ : Parser).parse source).result = .ok a ∧
      ((⟨grammar, c₂⟩ : Parser).parse source).result = .ok b ∧
      a.diagnostics.filter (·.severity == .error) = b.diagnostics.filter (·.severity == .error) ∧
      a.hasErrors = b.hasErrors := by
  refine ⟨RawTree.diagnostics_false,?_⟩
  intro grammar source c₁ c₂
  let a := (⟨grammar, c₁⟩ : Parser).parsed source
  let b := (⟨grammar, c₂⟩ : Parser).parsed source
  have herrors : a.diagnostics.filter (·.severity == .error) =
      b.diagnostics.filter (·.severity == .error) := by
    simp only [a, b, parsed, RawTree.errors_diagnostics]
    rfl
  refine ⟨a,b,result_parse _ source,result_parse _ source,herrors,?_⟩
  rw [Parsed.hasErrors, Parsed.hasErrors, hasErrors_eq_isEmpty, hasErrors_eq_isEmpty, herrors]

end SourceOutline

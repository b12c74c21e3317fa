import SourceOutline.Entity.Definition
import SourceOutline.Proofs.Store.Ancestry

/-! The decorators of a definition. They are those of the wrappers right around it, closest first, as far as
the depth allows; a greater depth adds more at the end, until all wrappers have been climbed. -/
namespace SourceOutline.Store

/-- Whether a node holds a definition together with its decorators. -/
def isWrapper (s : Store) (n : NodeId) : Bool := s.kind n == "decorated_definition"

/-- The wrappers around a node, closest first: as many of its ancestors as are wrappers without a break. -/
def wrappers (s : Store) (n : NodeId) : List NodeId := (s.ancestors n).takeWhile s.isWrapper

/-- A climb from a link, after `depth` wrappers, gathers texts until there is no node left, or the depth
is used up, or a node is no wrapper. -/
inductive Gathers (s : Store) (maxDepth : ℤ) : ℕ → Option NodeId → List String → Prop
  | top {depth : ℕ} : Gathers s maxDepth depth none []
  | bound {depth : ℕ} {n : NodeId} (hdepth : maxDepth ≤ depth) : Gathers s maxDepth depth (some n) []
  | other {depth : ℕ} {n : NodeId} (hkind : s.kind n ≠ "decorated_definition") :
      Gathers s maxDepth depth (some n) []
  | wrapper {depth : ℕ} {n : NodeId} {texts : List String} (hkind : s.kind n = "decorated_definition")
      (hdepth : depth < maxDepth) (rest : Gathers s maxDepth (depth + 1) (s.parent n) texts) :
      Gathers s maxDepth depth (some n) (s.ownDecorators n ++ texts)

variable {s : Store} {link : Option NodeId}

lemma wrapperDecorators_some (s : Store) (depth : ℕ) (n : NodeId) :
    s.wrapperDecorators (depth + 1) (some n) =
      if s.isWrapper n then s.ownDecorators n ++ s.wrapperDecorators depth (s.parent n) else [] := rfl

/-- There is one outcome of a climb. -/
theorem Gathers.unique {maxDepth : ℤ} {depth : ℕ} {texts others : List String}
    (h : s.Gathers maxDepth depth link texts) (h' : s.Gathers maxDepth depth link others) :
    texts = others := by
  induction h generalizing others with
  | top => cases h'; rfl
  | bound hdepth =>
    cases h' with
    | bound | other => rfl
    | wrapper _ hless => omega
  | other hkind =>
    cases h' with
    | bound | other => rfl
    | wrapper hkind' => exact absurd hkind' hkind
  | wrapper hkind hless _ ih =>
    cases h' with
    | bound hdepth => omega
    | other hkind' => exact absurd hkind hkind'
    | wrapper _ _ rest' => rw [ih rest']

/-- The climb ends, however large the depth is, with the decorators of the wrappers met on the way up; after
`depth` wrappers there may be `left` more. -/
theorem gathers_wrapperDecorators (s : Store) (maxDepth : ℤ) (left depth : ℕ) (link : Option NodeId)
    (hleft : left = (maxDepth - depth).toNat) :
    s.Gathers maxDepth depth link (s.wrapperDecorators left link) := by
  induction left generalizing depth link with
  | zero =>
    cases link with
    | none => exact .top
    | some n => exact .bound (by omega)
  | succ left ih =>
    cases link with
    | none => exact .top
    | some n =>
      rw [wrapperDecorators_some]
      split_ifs with hkind
      · exact .wrapper (beq_iff_eq.mp hkind) (by omega) (ih (depth + 1) _ (by omega))
      · exact .other (mt beq_iff_eq.mpr hkind)

theorem gathers_iff (s : Store) (maxDepth : ℤ) (n : NodeId) (texts : List String) :
    s.Gathers maxDepth 0 (s.parent n) texts ↔ texts = s.decorators n maxDepth := by
  have h := s.gathers_wrapperDecorators maxDepth maxDepth.toNat 0 (s.parent n) (by simp)
  constructor
  · exact fun htexts => htexts.unique h
  · rintro rfl
    exact h

/-- A greater depth only goes on where a smaller one stops. -/
theorem wrapperDecorators_prefix (s : Store) {d e : ℕ} (hde : d ≤ e) (n : Option NodeId) :
    s.wrapperDecorators d n <+: s.wrapperDecorators e n := by
  induction d generalizing e n with
  | zero => exact List.nil_prefix
  | succ d ih =>
    obtain ⟨e,rfl⟩ : ∃ k, e = k + 1 := ⟨e - 1, by omega⟩
    cases n with
    | none => exact List.prefix_rfl
    | some n =>
      rw [wrapperDecorators_some, wrapperDecorators_some]
      split_ifs
      · exact (List.prefix_append_right_inj _).mpr (ih (by omega) _)
      · exact List.prefix_rfl

lemma decorators_prefix (s : Store) {d e : ℤ} (h : d ≤ e) (n : NodeId) :
    s.decorators n d <+: s.decorators n e :=
  s.wrapperDecorators_prefix (Int.toNat_le_toNat h) _

/-- Where a link leads up through some nodes, the climb takes the decorators of the first of them, as many
as the depth allows, up to the first that is no wrapper. -/
theorem Ascends.wrapperDecorators_eq {above : List NodeId} (h : s.Ascends link above) (depth : ℕ) :
    s.wrapperDecorators depth link =
      ((above.takeWhile s.isWrapper).take depth).flatMap s.ownDecorators := by
  induction h generalizing depth with
  | top => simp
  | @up n above _ ih =>
    cases depth with
    | zero => rw [List.take_zero]; rfl
    | succ depth =>
      by_cases hn : s.isWrapper n
      · rw [wrapperDecorators_some, if_pos hn, ih, List.takeWhile_cons_of_pos hn, List.take_succ_cons,
          List.flatMap_cons]
      · rw [wrapperDecorators_some, if_neg hn, List.takeWhile_cons_of_neg hn]
        rfl

theorem AcyclicAbove.decorators_eq (hs : s.AcyclicAbove) (n : NodeId) (d : ℤ) :
    s.decorators n d = ((s.wrappers n).take d.toNat).flatMap s.ownDecorators :=
  (hs.ascends_ancestors n).wrapperDecorators_eq d.toNat

/-- Where no node lies above itself, the climb for decorators ends for a depth of any size and sign, with
the decorators of as many of the wrappers right around the node as the depth allows. So a smaller depth
gives the beginning of what a greater one gives, and from the number of wrappers on nothing changes. -/
theorem decorators_climb (hs : s.AcyclicAbove) (n : NodeId) :
    (∀ above, s.Ascends (s.parent n) above ↔ above = s.ancestors n) ∧
    (∀ (d : ℤ) (texts : List String),
      s.Gathers d 0 (s.parent n) texts ↔ texts = s.decorators n d) ∧
    (∀ d : ℤ, s.decorators n d = ((s.wrappers n).take d.toNat).flatMap s.ownDecorators) ∧
    (∀ d e : ℤ, d ≤ e → s.decorators n d <+: s.decorators n e) ∧
    ∀ d : ℤ, (s.wrappers n).length ≤ d →
      s.decorators n d = (s.wrappers n).flatMap s.ownDecorators := by
  refine ⟨fun _ => hs.ascends_iff,fun d texts => s.gathers_iff d n texts,hs.decorators_eq n,
    fun d e h => s.decorators_prefix h n,?_⟩
  intro d hd
  rw [hs.decorators_eq, List.take_of_length_le (by omega)]

/-- A function with two wrappers around it and a third one beyond a block. The inner wrapper lists the
outer one among its children. -/
def stackedWrappers : Store where
  nodes := #[
    ⟨"function_definition", ⟨⟨3, 0⟩, ⟨3, 11⟩⟩, "def f(): 0", [], some 3⟩,
    ⟨"decorator", ⟨⟨1, 0⟩, ⟨1, 2⟩⟩, "@b", [], some 3⟩,
    ⟨"decorator", ⟨⟨2, 0⟩, ⟨2, 2⟩⟩, "@c", [], some 3⟩,
    ⟨"decorated_definition", ⟨⟨1, 0⟩, ⟨3, 11⟩⟩, "@b\n@c\ndef f(): 0", [1, 5, 2, 0], some 5⟩,
    ⟨"decorator", ⟨⟨0, 0⟩, ⟨0, 2⟩⟩, "@a", [], some 5⟩,
    ⟨"decorated_definition", ⟨⟨0, 0⟩, ⟨3, 11⟩⟩, "@a\n@b\n@c\ndef f(): 0", [4, 3], some 6⟩,
    ⟨"block", ⟨⟨0, 0⟩, ⟨3, 11⟩⟩, "@a\n@b\n@c\ndef f(): 0", [5], some 7⟩,
    ⟨"decorated_definition", ⟨⟨0, 0⟩, ⟨3, 11⟩⟩, "@a\n@b\n@c\ndef f(): 0", [4, 6], none⟩]

theorem decorators_climb_stackedWrappers :
    stackedWrappers.AcyclicAbove ∧
    stackedWrappers.Ascends (some 3) [3, 5, 6, 7] ∧
    stackedWrappers.Gathers 1 0 (some 3) ["@b", "@c"] ∧
    stackedWrappers.decorators 0 (-1) = [] ∧
    stackedWrappers.decorators 0 1 <+: stackedWrappers.decorators 0 2 ∧
    stackedWrappers.decorators 0 1000000000000 = ["@b", "@c", "@a"] := by
  have hs : stackedWrappers.AcyclicAbove := acyclicAbove_of_lt (by decide)
  obtain ⟨hascends,hgathers,htake,hbegins,hall⟩ := decorators_climb hs 0
  exact ⟨hs,(hascends _).mpr (by decide),(hgathers 1 _).mpr (by decide),(htake (-1)).trans (by decide),
    hbegins 1 2 (by decide),(hall 1000000000000 (by decide)).trans (by decide)⟩

end SourceOutline.Store

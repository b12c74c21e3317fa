import SourceOutline.Store.Basic

/-! Lists of nodes in which items stand among other nodes. A reading that goes through such a list node by
node and finds nothing at the other nodes gives what the items stand for, in their order. -/
namespace SourceOutline

/-- Nodes that stand for these values, one node for each value and in their order, with any number of
other nodes before, between and after them. -/
inductive Interleaved {α : Type} (Means : NodeId → α → Prop) (Other : NodeId → Prop) :
    List NodeId → List α → Prop
  | nil : Interleaved Means Other [] []
  | item {n : NodeId} {x : α} {ns : List NodeId} {xs : List α} (head : Means n x)
      (tail : Interleaved Means Other ns xs) : Interleaved Means Other (n :: ns) (x :: xs)
  | other {n : NodeId} {ns : List NodeId} {xs : List α} (head : Other n)
      (tail : Interleaved Means Other ns xs) : Interleaved Means Other (n :: ns) xs

namespace Interleaved
variable {α β : Type} {Means : NodeId → α → Prop} {Other : NodeId → Prop} {ns : List NodeId}
  {xs : List α}

/-- What holds of the items and of the other nodes holds of all nodes. -/
theorem forall_mem (h : Interleaved Means Other ns xs) {P : NodeId → Prop}
    (hitem : ∀ n x, Means n x → P n) (hother : ∀ n, Other n → P n) : ∀ n ∈ ns, P n := by
  induction h with
  | nil => exact List.forall_mem_nil P
  | item head _ ih => exact List.forall_mem_cons.mpr ⟨hitem _ _ head,ih⟩
  | other head _ ih => exact List.forall_mem_cons.mpr ⟨hother _ head,ih⟩

/-- A reading that keeps some of the values and finds nothing at other nodes. -/
theorem filterMap_eq (h : Interleaved Means Other ns xs) {read : NodeId → Option β} {keep : α → Option β}
    (hitem : ∀ n x, Means n x → read n = keep x) (hother : ∀ n, Other n → read n = none) :
    ns.filterMap read = xs.filterMap keep := by
  induction h with
  | nil => rfl
  | item head _ ih => rw [List.filterMap_cons, List.filterMap_cons, hitem _ _ head, ih]
  | other head _ ih => rw [List.filterMap_cons, hother _ head, ih]

end Interleaved

end SourceOutline

import Mathlib.Algebra.GroupWithZero.Nat
import SourceOutline.Proofs.Normalize.Tree

/-! What holds at every turn of the loop over a stack of frames. The frames stand for one way down the engine's
tree, each with copies of the children that it has read; the nodes made so far are trees whose roots the
frames hold. A parent link is set once, when all below the parent has been made. -/
namespace SourceOutline

/-- Sets parent links one after the other, each given as a child and its parent. -/
def Store.link (s : Store) (links : List (NodeId × NodeId)) : Store :=
  links.foldl (fun s l => s.setParent l.1 (some l.2)) s

/-- A frame has made copies of the first children of its node, in order. The child that is entered, if there is
one, comes next, and what is pending is the rest. -/
def Frame.Splits (f : Frame) (s : Store) (source : Octets) (entered : Option RawTree) : Prop :=
  ∃ done, f.raw.children = done ++ (entered.toList ++ f.pending) ∧
    s.MirrorsAll source done f.finished.reverse

/-- Frames that lead down to an entered node, latest first: each has entered the node above it in the list, and
the last one was entered as the root. -/
inductive Stacked (s : Store) (source : Octets) (root : RawTree) : Option RawTree → List Frame → Prop
  | root : Stacked s source root (some root) []
  | frame {entered : Option RawTree} {f : Frame} {below : List Frame} (splits : f.Splits s source entered)
      (rest : Stacked s source root (some f.raw) below) : Stacked s source root entered (f :: below)

namespace Build

/-- The frames of a build, latest first. -/
def frames (b : Build) : List Frame := b.top :: b.below

/-- The nodes that the frames hold as finished. -/
def finished (b : Build) : List NodeId := b.frames.flatMap Frame.finished

/-- The way down through some frames: each has finished as many children as come before the one it entered. -/
def place (frames : List Frame) : List ℕ := (frames.map fun f => f.finished.length).reverse

/-- The path from the root to the node of the latest frame. -/
def path (b : Build) : List ℕ := place b.below

/-- How many nodes of the engine's tree have not been entered: those below what is pending. -/
def unread (b : Build) : ℕ := (b.frames.map fun f => RawTree.sizeAll f.pending).sum

/-- The store in which a turn sets parent links. Where nothing is pending it has the new node already. -/
def made (source : Octets) (b : Build) : Store :=
  match b.top.pending with
  | _ :: _ => b.store
  | [] => (b.store.add (.ofRaw source b.top.raw.label b.top.finished.reverse)).2

/-- The parent links that a turn sets. -/
def links (b : Build) : List (NodeId × NodeId) :=
  match b.top.pending with
  | _ :: _ => []
  | [] => b.top.finished.reverse.map fun c => (c, b.store.size)

/-- The store after a turn, be it the last one or not. -/
def after (source : Octets) (b : Build) : Store := (b.step source).elim Prod.snd Build.store

/-- Some turns of the loop lead from one build to the other, and set these parent links in this order. -/
inductive Runs (source : Octets) (b : Build) : List (NodeId × NodeId) → Build → Prop
  | refl : Runs source b [] b
  | tail {b' b'' : Build} {links : List (NodeId × NodeId)} (h : Runs source b links b')
      (turn : Turns source b' b'') : Runs source b (links ++ b'.links) b''

/-- What carries over from turn to turn. -/
structure Standing (source : Octets) (raw : RawTree) (b : Build) : Prop where
  forest : b.store.Forest b.finished
  stacked : Stacked b.store source raw none b.frames
  size_eq : b.store.size + b.frames.length + b.unread = raw.size

variable {source : Octets} {raw : RawTree} {b b' : Build}

/-- A turn enters the next child, or makes a node and hands it down, if there is a frame below. -/
theorem Turns.cases (h : Turns source b b') :
    (∃ child pending, b.top.pending = child :: pending ∧
      b' = ⟨b.store, .start child, { b.top with pending } :: b.below⟩) ∨
    b.top.pending = [] ∧ ∃ parent below, b.below = parent :: below ∧
      b' = ⟨(b.store.make source b.top.raw.label b.top.finished.reverse).2,
        { parent with finished := b.store.size :: parent.finished }, below⟩ := by
  obtain ⟨s,⟨raw,pending,finished⟩,below⟩ := b
  cases pending with
  | cons child pending => exact Or.inl ⟨child,pending,rfl,(Sum.inr.inj h).symm⟩
  | nil =>
    cases below with
    | nil => cases h
    | cons parent below => exact Or.inr ⟨rfl,parent,below,rfl,(Sum.inr.inj h).symm⟩

end Build

section Stacks
variable {s s' : Store} {source : Octets} {roots : List NodeId} {raw u : RawTree} {entered : Option RawTree}
  {f : Frame} {frames : List Frame}

lemma Frame.splits_start (s : Store) (source : Octets) (t : RawTree) :
    (Frame.start t).Splits s source none := ⟨[],rfl,by simp [start, Store.MirrorsAll]⟩

lemma Frame.Splits.keeps (hf : s.Forest roots) (hk : s.Keeps s') (hroots : ∀ n ∈ f.finished, n ∈ roots)
    (h : f.Splits s source entered) : f.Splits s' source entered := by
  obtain ⟨done,hchildren,hdone⟩ := h
  refine ⟨done,hchildren,Store.MirrorsAll.keeps hf hk done _ ?_ hdone⟩
  exact fun n hn => hf.lt_size n (hroots n (List.mem_reverse.mp hn))

lemma Stacked.keeps (hf : s.Forest roots) (hk : s.Keeps s')
    (hroots : ∀ f ∈ frames, ∀ n ∈ f.finished, n ∈ roots) (h : Stacked s source raw entered frames) :
    Stacked s' source raw entered frames := by
  induction h with
  | root => exact .root
  | frame splits _ ih =>
    exact .frame (splits.keeps hf hk (hroots _ List.mem_cons_self))
      (ih fun g hg => hroots g (List.mem_cons_of_mem _ hg))

/-- A frame has finished as many children as come before the one it entered. -/
lemma Frame.Splits.getElem?_children (h : f.Splits s source (some u)) :
    f.raw.children[f.finished.length]? = some u := by
  obtain ⟨done,hchildren,hdone⟩ := h
  have hlength : done.length = f.finished.length := by
    simpa using (Store.mirrorsAll_iff_forall₂.mp hdone).length_eq
  rw [hchildren, ← hlength, List.getElem?_append_right (Nat.le_refl _), Nat.sub_self]
  rfl

lemma Build.place_cons (f : Frame) (frames : List Frame) :
    place (f :: frames) = place frames ++ [f.finished.length] := by
  simp [place]

@[simp] lemma Build.length_place (frames : List Frame) : (place frames).length = frames.length := by
  simp [place]

/-- The frames below an entered node follow the path to it. -/
theorem Stacked.subtree?_place (h : Stacked s source raw (some u) frames) :
    raw.subtree? (Build.place frames) = some u := by
  generalize hentered : some u = entered at h
  induction h generalizing u with
  | root =>
    obtain rfl := Option.some.inj hentered
    exact RawTree.subtree?_nil u
  | frame splits _ ih =>
    subst hentered
    rw [Build.place_cons, RawTree.subtree?_append, ih rfl]
    simp [RawTree.subtree?, splits.getElem?_children]

/-- One way leads from the root through the nodes of the frames to the entered one. -/
theorem Stacked.map_subtree?_take (h : Stacked s source raw (some u) frames) :
    frames.reverse.map (fun f => some f.raw) ++ [some u] =
      (List.range (frames.length + 1)).map fun k => raw.subtree? ((Build.place frames).take k) := by
  induction frames generalizing u with
  | nil => simpa [Build.place] using h.subtree?_place.symm
  | cons f frames ih =>
    have hlast := h.subtree?_place
    cases h with
    | frame _ rest =>
      have htake : ∀ k ∈ List.range (frames.length + 1),
          raw.subtree? ((Build.place (f :: frames)).take k) =
            raw.subtree? ((Build.place frames).take k) := by
        intro k hk
        rw [Build.place_cons, List.take_append_of_le_length]
        rw [Build.length_place]
        exact Nat.lt_succ_iff.mp (List.mem_range.mp hk)
      rw [List.length_cons, List.range_succ, List.map_append, List.map_congr_left htake, ← ih rest]
      simp [List.take_of_length_le, hlast]

end Stacks

namespace Build
variable {source : Octets} {raw : RawTree} {b b' : Build} {links : List (NodeId × NodeId)} {c p : NodeId}

section Turn

lemma Standing.lt_size_of_mem (hb : b.Standing source raw) : ∀ c ∈ b.top.finished.reverse, c < b.store.size :=
  fun c hc => hb.forest.lt_size c (List.mem_append_left _ (List.mem_reverse.mp hc))

/-- The trees of the latest frame come first among the roots. -/
lemma Standing.forest_append (hb : b.Standing source raw) :
    b.store.Forest (b.top.finished.reverse ++ b.below.flatMap Frame.finished) :=
  hb.forest.perm ((List.reverse_perm _).symm.append_right _)

lemma Standing.splits (hb : b.Standing source raw) : b.top.Splits b.store source none := by
  cases hb.stacked with
  | frame splits _ => exact splits

lemma Standing.stacked_below (hb : b.Standing source raw) :
    Stacked b.store source raw (some b.top.raw) b.below := by
  cases hb.stacked with
  | frame _ rest => exact rest

/-- Where nothing is pending, the latest frame holds copies of all children of its node. -/
lemma Standing.mirrorsAll (hb : b.Standing source raw) (hpending : b.top.pending = []) :
    b.store.MirrorsAll source b.top.raw.children b.top.finished.reverse := by
  obtain ⟨done,hchildren,hdone⟩ := hb.splits
  rw [hchildren, hpending]
  simpa using hdone

/-- The new node of a turn is the root of a copy, be it linked to its children yet or not. -/
lemma Standing.mirrors_new (hb : b.Standing source raw) (hpending : b.top.pending = []) {s : Store}
    (hk : b.store.Keeps s)
    (hnode : s.node b.store.size = .ofRaw source b.top.raw.label b.top.finished.reverse) :
    s.Mirrors source b.top.raw b.store.size :=
  hb.forest.mirrors_new hk hb.lt_size_of_mem hnode (hb.mirrorsAll hpending)

/-- A turn that enters a child. -/
lemma Standing.enter (hb : b.Standing source raw) {child : RawTree} {pending : List RawTree}
    (hpending : b.top.pending = child :: pending) :
    Standing source raw ⟨b.store, .start child, { b.top with pending } :: b.below⟩ := by
  obtain ⟨done,hchildren,hdone⟩ := hb.splits
  have hsplits : Frame.Splits { b.top with pending } b.store source (some child) :=
    ⟨done,by rw [hchildren, hpending]; rfl,hdone⟩
  constructor
  case forest => exact hb.forest
  case stacked => exact .frame (Frame.splits_start _ _ child) (.frame hsplits hb.stacked_below)
  case size_eq =>
    have hsize := hb.size_eq
    simp only [frames, unread, List.length_cons, List.map_cons, List.sum_cons, hpending,
      RawTree.sizeAll_cons, RawTree.size_eq child] at hsize
    simp only [frames, unread, List.length_cons, List.map_cons, List.sum_cons, Frame.start]
    omega

/-- A turn that makes a node and hands it to the frame below. -/
lemma Standing.leave (hb : b.Standing source raw) (hpending : b.top.pending = []) {parent : Frame}
    {below : List Frame} (hbelow : b.below = parent :: below) :
    Standing source raw ⟨(b.store.make source b.top.raw.label b.top.finished.reverse).2,
      { parent with finished := b.store.size :: parent.finished }, below⟩ := by
  have hk := Store.keeps_make source b.top.raw.label hb.lt_size_of_mem
  have hnode := (Store.node_make source b.top.raw.label hb.lt_size_of_mem b.store.size).trans (if_pos rfl)
  have hforest := hb.forest_append.make source b.top.raw.label
  have hroots : ∀ f ∈ parent :: below, ∀ n ∈ f.finished, n ∈ b.finished := by
    intro f hf n hn
    rw [← hbelow] at hf
    exact List.mem_flatMap.mpr ⟨f,List.mem_cons_of_mem _ hf,hn⟩
  have hstacked := hb.stacked_below.keeps hb.forest hk (hbelow ▸ hroots)
  rw [hbelow] at hforest hstacked
  constructor
  case forest => exact hforest
  case stacked =>
    cases hstacked with
    | frame splits rest =>
      obtain ⟨done,hchildren,hdone⟩ := splits
      refine .frame ⟨done ++ [b.top.raw],by simp [hchildren],?_⟩ rest
      rw [Store.mirrorsAll_iff_forall₂] at hdone ⊢
      rw [List.reverse_cons]
      exact List.rel_append hdone (.cons (hb.mirrors_new hpending hk hnode) .nil)
  case size_eq =>
    have hsize := hb.size_eq
    simp only [frames, unread, List.length_cons, List.map_cons, List.sum_cons, hpending, hbelow,
      RawTree.sizeAll_nil] at hsize
    simp only [frames, unread, List.length_cons, List.map_cons, List.sum_cons, Store.size_make]
    omega

theorem Standing.turn (hb : b.Standing source raw) (h : Turns source b b') : b'.Standing source raw := by
  rcases h.cases with ⟨child,pending,hpending,rfl⟩ | ⟨hpending,parent,below,hbelow,rfl⟩
  · exact hb.enter hpending
  · exact hb.leave hpending hbelow

theorem standing_start (source : Octets) (raw : RawTree) : (start raw).Standing source raw := by
  constructor
  case forest => exact Store.forest_empty
  case stacked => exact .frame (Frame.splits_start _ _ raw) .root
  case size_eq =>
    rw [RawTree.size_eq]
    simp [start, frames, unread, Frame.start, Store.size]

theorem Runs.standing (h : Runs source (.start raw) links b) : b.Standing source raw := by
  induction h with
  | refl => exact standing_start source raw
  | tail _ turn ih => exact ih.turn turn

lemma exists_runs_of_reaches (h : Reaches source b b') : ∃ links, Runs source b links b' := by
  induction h with
  | refl => exact ⟨[],.refl⟩
  | tail _ turn ih =>
    obtain ⟨links,hlinks⟩ := ih
    exact ⟨_,hlinks.tail turn⟩

end Turn

section Links

lemma after_of_turns (h : Turns source b b') : b.after source = b'.store := by
  rw [after, show b.step source = .inr b' from h]
  rfl

/-- A turn that enters a child leaves the store as it is. -/
lemma after_of_cons (source : Octets) {child : RawTree} {pending : List RawTree}
    (h : b.top.pending = child :: pending) :
    b.after source = b.store ∧ b.made source = b.store ∧ b.links = [] := by
  simp only [after, step, made, links, h, and_true]
  rfl

lemma after_of_nil (source : Octets) (h : b.top.pending = []) :
    b.after source = (b.store.make source b.top.raw.label b.top.finished.reverse).2 ∧
    b.made source = (b.store.add (.ofRaw source b.top.raw.label b.top.finished.reverse)).2 ∧
    b.links = b.top.finished.reverse.map fun c => (c, b.store.size) := by
  simp only [after, step, made, links, h, and_true]
  cases b.below <;> rfl

/-- What a turn does to the store is to add a node, if it makes one, and then to set parent links. -/
theorem after_eq_link (source : Octets) (b : Build) : b.after source = (b.made source).link b.links := by
  cases hpending : b.top.pending with
  | cons child pending =>
    obtain ⟨hafter,hmade,hlinks⟩ := after_of_cons source hpending
    rw [hafter, hmade, hlinks]
    rfl
  | nil =>
    obtain ⟨hafter,hmade,hlinks⟩ := after_of_nil source hpending
    rw [hafter, hmade, hlinks, Store.make_snd, Store.adopt, Store.link, List.foldl_map]

/-- The links of a turn lead from all that the latest frame has finished to the new node. -/
lemma mem_links_iff : (c, p) ∈ b.links ↔ b.top.pending = [] ∧ c ∈ b.top.finished ∧ p = b.store.size := by
  unfold links
  cases b.top.pending with
  | cons child pending => simp
  | nil => simp [eq_comm]

/-- A parent link is set when all below the parent has been made, and leads to the node that lists the
child. -/
theorem Standing.mirrors_of_mem_links (hb : b.Standing source raw) (h : (c, p) ∈ b.links) :
    (b.made source).Mirrors source b.top.raw p ∧ c ∈ (b.made source).children p := by
  obtain ⟨hpending,hc,rfl⟩ := mem_links_iff.mp h
  have hnode := Store.node_add_self b.store (.ofRaw source b.top.raw.label b.top.finished.reverse)
  rw [(after_of_nil source hpending).2.1, Store.children, hnode]
  exact ⟨hb.mirrors_new hpending (Store.keeps_add _ _) hnode,List.mem_reverse.mpr hc⟩

/-- No child that a turn links had a parent before. -/
lemma Standing.parent_eq_none (hb : b.Standing source raw) (h : (c, p) ∈ b.links) :
    b.store.parent c = none := by
  obtain ⟨-,hc,-⟩ := mem_links_iff.mp h
  have hroot : c ∈ b.finished := List.mem_append_left _ hc
  exact (hb.forest.parent_eq_none_iff c (hb.forest.lt_size c hroot)).mpr hroot

lemma Standing.parent_after_iff (hb : b.Standing source raw) :
    (b.after source).parent c = some p ↔ b.store.parent c = some p ∨ (c, p) ∈ b.links := by
  rw [mem_links_iff]
  cases hpending : b.top.pending with
  | cons child pending => simp [(after_of_cons source hpending).1]
  | nil =>
    rw [(after_of_nil source hpending).1, Store.parent_make source _ hb.lt_size_of_mem]
    simp only [List.mem_reverse]
    by_cases hc : c ∈ b.top.finished
    · rw [if_pos hc, hb.parent_eq_none (mem_links_iff.mpr ⟨hpending,hc,rfl⟩)]
      simp [hc, eq_comm]
    · simp [hc]

lemma Standing.nodup_links (hb : b.Standing source raw) : (b.links.map Prod.fst).Nodup := by
  cases hpending : b.top.pending with
  | cons child pending =>
    rw [(after_of_cons source hpending).2.2]
    exact List.nodup_nil
  | nil =>
    rw [(after_of_nil source hpending).2.2, List.map_map]
    have hnodup := (List.nodup_append.mp hb.forest_append.nodup).1
    simpa [Function.comp_def] using hnodup

/-- If the links that were set so far are those that the store has, one for each child, the same is true
after the next turn. -/
lemma Standing.links_append (hb : b.Standing source raw) (hnodup : (links.map Prod.fst).Nodup)
    (hlinks : ∀ c p, (c, p) ∈ links ↔ b.store.parent c = some p) :
    ((links ++ b.links).map Prod.fst).Nodup ∧
    ∀ c p, (c, p) ∈ links ++ b.links ↔ (b.after source).parent c = some p := by
  constructor
  · rw [List.map_append, List.nodup_append]
    refine ⟨hnodup,hb.nodup_links,?_⟩
    intro old hold new hnew heq
    obtain ⟨⟨c,p⟩,hmem,rfl⟩ := List.mem_map.mp hold
    obtain ⟨⟨d,q⟩,hmem',rfl⟩ := List.mem_map.mp hnew
    obtain rfl : c = d := heq
    have hparent := (hlinks c p).mp hmem
    rw [hb.parent_eq_none hmem'] at hparent
    cases hparent
  · intro c p
    rw [List.mem_append, hlinks, hb.parent_after_iff]

theorem Runs.linked_once (h : Runs source (.start raw) links b) : (links.map Prod.fst).Nodup ∧
    ∀ c p, (c, p) ∈ links ↔ b.store.parent c = some p := by
  induction h with
  | refl =>
    refine ⟨List.nodup_nil,?_⟩
    intro c p
    rw [start, Store.parent_of_size_le _ (Nat.zero_le c)]
    simp
  | tail h turn ih =>
    rw [← after_of_turns turn]
    exact h.standing.links_append ih.1 ih.2

end Links

section Measure

/-- What is still to be done is to enter what has not been entered and to make what has not been made. -/
lemma Standing.work_eq (hb : b.Standing source raw) : b.work = b.unread + (raw.size - b.store.size) := by
  have hwork : ∀ below : List Frame, (below.map Frame.work).foldr (· + ·) 0 =
      2 * (below.map fun f => RawTree.sizeAll f.pending).sum + below.length := by
    intro below
    induction below with
    | nil => rfl
    | cons f below ih =>
      simp only [List.map_cons, List.foldr_cons, ih, Frame.work, List.sum_cons, List.length_cons]
      omega
  have hsize := hb.size_eq
  simp only [frames, unread, List.length_cons, List.map_cons, List.sum_cons] at hsize ⊢
  rw [work, hwork, Frame.work]
  omega

theorem Standing.work_lt (hb : b.Standing source raw) (h : Turns source b b') :
    b'.unread + (raw.size - b'.store.size) < b.unread + (raw.size - b.store.size) := by
  rw [← hb.work_eq, ← (hb.turn h).work_eq]
  exact work_step h

lemma Standing.work_lt_of_last (hb : b.Standing source raw) {made : NodeId × Store}
    (h : b.step source = .inl made) : raw.size - made.2.size < b.unread + (raw.size - b.store.size) := by
  have hsize := hb.size_eq
  have hafter : b.after source = made.2 := by rw [after, h]; rfl
  cases hpending : b.top.pending with
  | cons child pending => simp [step, hpending] at h
  | nil =>
    rw [← hafter, (after_of_nil source hpending).1, Store.size_make]
    rw [frames, List.length_cons] at hsize
    omega

end Measure

/-- What can be seen of a build at every turn. -/
structure Ordered (source : Octets) (raw : RawTree) (b : Build) : Prop where
  stacked : Stacked b.store source raw none b.frames
  map_subtree?_take : b.frames.reverse.map (fun f => some f.raw) =
    (List.range (b.path.length + 1)).map fun k => raw.subtree? (b.path.take k)
  lt_size : ∀ n ∈ b.finished, n < b.store.size
  held_or_owned : ∀ n < b.store.size,
    b.store.parent n = none ∧ b.finished.count n = 1 ∧ (∀ p, n ∉ b.store.children p) ∨
    ∃ p < b.store.size, b.store.parent n = some p ∧ n ∉ b.finished ∧ (b.store.children p).count n = 1 ∧
      ∀ q, q ≠ p → n ∉ b.store.children q
  size_eq : b.store.size + b.frames.length + b.unread = raw.size

/-- What a turn does. The last turn leaves a result; there nothing is left to be entered. -/
structure Advances (source : Octets) (raw : RawTree) (b : Build) : Prop where
  after_eq : b.after source = (b.made source).link b.links
  complete : ∀ c p, (c, p) ∈ b.links →
    (b.made source).Mirrors source b.top.raw p ∧ c ∈ (b.made source).children p
  less : ∀ next, b.step source = .inr next →
    next.unread + (raw.size - next.store.size) < b.unread + (raw.size - b.store.size)
  less_last : ∀ made, b.step source = .inl made →
    raw.size - made.2.size < b.unread + (raw.size - b.store.size)

theorem Standing.ordered (hb : b.Standing source raw) : b.Ordered source raw := by
  constructor
  case stacked => exact hb.stacked
  case map_subtree?_take =>
    rw [frames, List.reverse_cons, List.map_append, path, length_place]
    exact hb.stacked_below.map_subtree?_take
  case lt_size => exact hb.forest.lt_size
  case held_or_owned =>
    intro n hn
    by_cases hroot : n ∈ b.finished
    · have hparent := (hb.forest.parent_eq_none_iff n hn).mpr hroot
      refine Or.inl ⟨hparent,List.count_eq_one_of_mem hb.forest.nodup hroot,?_⟩
      intro p hp
      rw [(hb.forest.mem_children_iff p n).mp hp] at hparent
      cases hparent
    · obtain ⟨p,hp,hparent,hcount,hother⟩ := hb.forest.owned hn hroot
      exact Or.inr ⟨p,hp,hparent,hroot,hcount,hother⟩
  case size_eq => exact hb.size_eq

theorem Standing.advances (hb : b.Standing source raw) : b.Advances source raw where
  after_eq := after_eq_link source b
  complete _ _ h := hb.mirrors_of_mem_links h
  less _ h := hb.work_lt h
  less_last _ h := hb.work_lt_of_last h

end Build

/-- The loop ends. At each of its turns the frames lie on one way down from the root, each with the copies of
the children that it has read; every node made so far either is held by one frame and has no parent, or is
listed once, by its parent. A turn leaves less to be entered and made, and it sets parent links only once all
below the parent has been made. The links set up to a turn, and in it, are those that the store has then, and
no child is linked twice. -/
theorem RawTree.normalize_turns (raw : RawTree) (source : Octets) :
    (∃ links last, Build.Runs source (.start raw) links last ∧
      last.step source = .inl (raw.normalize source)) ∧
    ∀ links b, Build.Runs source (.start raw) links b →
      b.Ordered source raw ∧ b.Advances source raw ∧ ((links ++ b.links).map Prod.fst).Nodup ∧
      ∀ c p, (c, p) ∈ links ++ b.links ↔ (b.after source).parent c = some p := by
  constructor
  · obtain ⟨last,hlast,hstep⟩ := Build.exists_last source (.start raw)
    obtain ⟨links,hlinks⟩ := Build.exists_runs_of_reaches hlast
    exact ⟨links,last,hlinks,hstep⟩
  · intro links b h
    obtain ⟨hnodup,hlinks⟩ := h.linked_once
    exact ⟨h.standing.ordered,h.standing.advances,h.standing.links_append hnodup hlinks⟩

/-- The tree of `a,b`, without the comma. -/
def RawTree.pairOfNames : RawTree :=
  .node ⟨"module", 0, 3, ⟨⟨0, 0⟩, ⟨0, 3⟩⟩, false, false⟩ [
    .node ⟨"tuple", 0, 3, ⟨⟨0, 0⟩, ⟨0, 3⟩⟩, false, false⟩ [
      .node ⟨"identifier", 0, 1, ⟨⟨0, 0⟩, ⟨0, 1⟩⟩, false, false⟩ [],
      .node ⟨"identifier", 2, 3, ⟨⟨0, 2⟩, ⟨0, 3⟩⟩, false, false⟩ []]]

theorem RawTree.normalize_turns_pairOfNames : ∃ b,
    Build.Runs (Text.Utf8.octets "a,b") (.start pairOfNames) [] b ∧ b.frames.length = 2 ∧
    b.path = [0] ∧ b.finished = [1, 0] ∧ b.links = [(0, 2), (1, 2)] ∧
    b.Ordered (Text.Utf8.octets "a,b") pairOfNames ∧ b.Advances (Text.Utf8.octets "a,b") pairOfNames ∧
    [0, 1].Nodup ∧ (b.after (Text.Utf8.octets "a,b")).parent 1 = some 2 := by
  -- the two names are entered and made one after the other, and the node above them is made next
  have hstart : Build.Runs (Text.Utf8.octets "a,b") (.start pairOfNames) [] (.start pairOfNames) := .refl
  have hrun := hstart
    |>.tail rfl |>.tail rfl |>.tail rfl |>.tail rfl |>.tail rfl
  obtain ⟨hordered,hadvances,hnodup,hlinks⟩ := (pairOfNames.normalize_turns _).2 _ _ hrun
  exact ⟨_,hrun,rfl,rfl,rfl,rfl,hordered,hadvances,hnodup,(hlinks 1 2).mp (by decide)⟩

end SourceOutline

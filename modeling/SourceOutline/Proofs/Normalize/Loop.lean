import Mathlib.Logic.Relation
import SourceOutline.Proofs.Normalize.Growth

/-! The loop over a stack of frames against the recursion on the tree. A stack stands for what is left to
be done; doing that by recursion gives a result which no turn of the loop changes, so the loop ends
with what the recursion on the whole tree gives. -/
namespace SourceOutline

/-- Finishes a frame by recursion: makes the subtrees still to be read and then the node itself. -/
def Frame.finish (source : Octets) (f : Frame) (s : Store) : NodeId × Store :=
  (s.growAll source f.pending).2.make source f.raw.label
    (f.finished.reverse ++ (s.growAll source f.pending).1)

lemma Frame.finish_start (source : Octets) (raw : RawTree) (s : Store) :
    (Frame.start raw).finish source s = s.grow source raw := by
  cases raw
  simp [finish, start, RawTree.children, RawTree.label]

namespace Build

/-- The build of a tree before the first turn of the loop. -/
def start (raw : RawTree) : Build := ⟨{}, .start raw, []⟩

/-- Hands a node to the frame it belongs to, finishes that frame and goes on with the frames below. -/
def finishBelow (source : Octets) : List Frame → NodeId × Store → NodeId × Store
  | [], made => made
  | f :: below, made =>
    finishBelow source below ({ f with finished := made.1 :: f.finished }.finish source made.2)

/-- What a build comes to when all that is left is done by recursion. -/
def outcome (source : Octets) (b : Build) : NodeId × Store :=
  finishBelow source b.below (b.top.finish source b.store)

/-- One turn of the loop leads from a build to the next. -/
def Turns (source : Octets) (b b' : Build) : Prop := b.step source = .inr b'

/-- Some turns of the loop lead from one build to the other. -/
def Reaches (source : Octets) : Build → Build → Prop := Relation.ReflTransGen (Turns source)

variable {source : Octets} {b b' : Build}

/-- A turn of the loop either enters a child or makes a node, and both are next in the recursion. -/
theorem outcome_of_turns (h : Turns source b b') : b'.outcome source = b.outcome source := by
  obtain ⟨s,⟨raw,pending,finished⟩,below⟩ := b
  cases pending with
  | cons child pending =>
    simp only [Turns, step, Sum.inr.injEq] at h
    subst h
    rw [outcome, finishBelow, Frame.finish_start]
    simp [outcome, Frame.finish]
  | nil =>
    cases below with
    | nil => simp [Turns, step] at h
    | cons parent below =>
      simp only [Turns, step, Sum.inr.injEq] at h
      subst h
      simp [outcome, finishBelow, Frame.finish]

theorem outcome_of_step_inl {made : NodeId × Store} (h : b.step source = .inl made) :
    b.outcome source = made := by
  obtain ⟨s,⟨raw,pending,finished⟩,below⟩ := b
  cases pending with
  | cons child pending => simp [step] at h
  | nil =>
    cases below with
    | nil =>
      simp only [step, Sum.inl.injEq] at h
      rw [← h]
      simp [outcome, finishBelow, Frame.finish]
    | cons parent below => simp [step] at h

/-- The loop ends after finitely many turns, with what the rest comes to by recursion. -/
theorem exists_last (source : Octets) (b : Build) :
    ∃ last, Reaches source b last ∧ last.step source = .inl (b.run source) := by
  induction b using run.induct source with
  | case1 b made h =>
    refine ⟨b,.refl,?_⟩
    rw [run, h]
  | case2 b next h ih =>
    obtain ⟨last,hlast,hstep⟩ := ih
    refine ⟨last,.head h hlast,?_⟩
    rw [hstep, run.eq_1 source b, h]

theorem outcome_of_reaches (h : Reaches source b b') : b'.outcome source = b.outcome source := by
  induction h with
  | refl => rfl
  | tail _ h ih => rw [outcome_of_turns h, ih]

theorem run_eq_outcome (source : Octets) (b : Build) : b.run source = b.outcome source := by
  obtain ⟨last,hlast,hstep⟩ := exists_last source b
  rw [← outcome_of_reaches hlast, outcome_of_step_inl hstep]

end Build

/-- The loop makes the same nodes in the same order as the recursion on the tree. -/
theorem RawTree.normalize_eq_grow (raw : RawTree) (source : Octets) :
    raw.normalize source = ({} : Store).grow source raw := by
  change (Build.start raw).run source = _
  rw [Build.run_eq_outcome, Build.outcome, Build.start, Build.finishBelow, Frame.finish_start]

end SourceOutline

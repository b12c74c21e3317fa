import Mathlib.Data.List.TakeWhile
import SourceOutline.Proofs.Text.Blocks
import SourceOutline.Yaml.Cursor

/-! The text of a YAML file. A file of a text with no character that may not stand in a YAML text gives the
whole of it, and a text that is not cut off can be looked at and gone through without a fault. -/
namespace SourceOutline.Yaml

namespace Source
variable {text : List Char} {cut : Option Fault} {pieces : List (List Char)}

lemma addPieces_of_allowed (h : ∀ c ∈ pieces.flatten, isAllowed c = true) :
    addPieces text cut pieces = ⟨text ++ pieces.flatten, cut⟩ := by
  induction pieces generalizing text with
  | nil => rw [addPieces, List.flatten_nil, List.append_nil]
  | cons piece pieces ih =>
    rw [List.flatten_cons, List.forall_mem_append] at h
    rw [addPieces, List.dropWhile_eq_nil_iff.mpr h.1, ih h.2, List.flatten_cons, List.append_assoc]

lemma flatten_joinFirst (pieces : List (List Char)) : (joinFirst true pieces).flatten = pieces.flatten := by
  cases pieces with
  | nil => rfl
  | cons first others =>
    simp only [joinFirst, Bool.not_true, Bool.false_and, Bool.false_eq_true, if_false]
    rw [List.flatten_cons, List.append_assoc, ← List.flatten_append, List.take_append_drop, List.flatten_cons]

/-- A file of a text is taken as that text if all of it may stand in a YAML text. -/
theorem ofFile_encode (h : ∀ c ∈ Text.unifyBreaks text, isAllowed c = true) :
    ofFile (Text.Utf8.encode text).toArray = ⟨Text.unifyBreaks text, none⟩ := by
  obtain ⟨pieces,hpieces,hflatten⟩ := Text.piecesOfFile_encode (show 0 < 4096 by decide) text
  have hjoin : (joinFirst true pieces).flatten = Text.unifyBreaks text := by rw [flatten_joinFirst, hflatten]
  have hallowed : ∀ c ∈ (joinFirst true pieces).flatten, isAllowed c = true := by rwa [hjoin]
  simp only [ofFile, hpieces, Option.map_none, Option.isNone_none]
  rw [addPieces_of_allowed hallowed, hjoin, List.nil_append]

end Source

namespace Cursor
variable {c : Cursor}

@[simp] lemma past_cut (c : Cursor) : c.past.cut = c.cut := by
  unfold past
  split
  · rfl
  · split <;> rfl

@[simp] lemma pastAll_cut (c : Cursor) (n : ℕ) : (c.pastAll n).cut = c.cut := by
  induction n generalizing c with
  | zero => rfl
  | succ n ih => rw [pastAll, ih, past_cut]

lemma look_of_cut (h : c.cut = none) (ahead : ℕ) : c.look ahead = .ok () := by
  unfold look
  rw [h]
  split
  · rename_i hcut
    cases hcut
  · rfl

lemma skip_of_cut (h : c.cut = none) (n : ℕ) : c.skip n = .ok (c.pastAll n) := by
  simp only [skip, look_of_cut ((pastAll_cut c n).trans h)]
  rfl

lemma next_of_cut (h : c.cut = none) : c.next = .ok c.past := skip_of_cut h 1

lemma run_of_cut (h : c.cut = none) (p : Char → Bool) :
    c.run p = .ok (c.rest.takeWhile p, c.pastAll (c.rest.takeWhile p).length) := by
  simp only [run, skip_of_cut h]
  rfl

lemma atMarker_of_cut (h : c.cut = none) : c.atMarker = .ok (startsWithMarker c.rest) := by
  simp only [atMarker, look_of_cut h]
  rfl

end Cursor

end SourceOutline.Yaml

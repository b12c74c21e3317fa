import Mathlib.Data.List.Infix
import Mathlib.Data.Nat.Find
import Mathlib.Order.Monotone.Basic
import SourceOutline.Proofs.Diagnostic.Parse
import SourceOutline.Proofs.Text.Utf8

/-! What text a node has, for octets that start and stop anywhere. A text is encoded, its octets are cut, and
what is left is decoded; so characters that are cut through become replacement characters and the others
stay. -/
namespace SourceOutline

namespace Text.Utf8

/-- An octet that continues a sequence and starts none. -/
def isFurther (b : UInt8) : Bool := 0x80 ≤ b.toNat && b.toNat < 0xC0

/-- The offset at which the character of an index starts. -/
def offset (text : List Char) (k : ℕ) : ℕ := (encode (text.take k)).length

lemma offset_of_length_le {text : List Char} {k : ℕ} (h : text.length ≤ k) :
    offset text k = (encode text).length := by
  rw [offset, List.take_of_length_le h]

lemma encode_take_append (text : List Char) {j k : ℕ} (h : j ≤ k) :
    encode (text.take j) ++ encode ((text.take k).drop j) = encode (text.take k) := by
  have htake : text.take j = (text.take k).take j := by rw [List.take_take, Nat.min_eq_left h]
  rw [← encode_append, htake, List.take_append_drop]

lemma offset_mono (text : List Char) : Monotone (offset text) := by
  intro j k h
  rw [offset, offset, ← encode_take_append text h, List.length_append]
  exact Nat.le_add_right _ _

lemma encode_take_succ {text : List Char} {k : ℕ} {c : Char} (h : text[k]? = some c) :
    encode (text.take (k + 1)) = encode (text.take k) ++ String.utf8EncodeChar c := by
  rw [List.take_add_one, h, encode_append]
  simp

/-- Where the characters begin that start at an offset or behind it. -/
lemma exists_first {text : List Char} {start : ℕ} (h : start ≤ (encode text).length) :
    ∃ first, ∀ k, first ≤ k ↔ start ≤ offset text k := by
  have hexists : ∃ k, start ≤ offset text k := ⟨text.length,by rwa [offset_of_length_le le_rfl]⟩
  refine ⟨Nat.find hexists,fun k => ⟨?_,Nat.find_min' hexists⟩⟩
  intro hk
  exact (Nat.find_spec hexists).trans (offset_mono text hk)

/-- Where the characters end that stop at an offset or before it. -/
lemma exists_last (text : List Char) (stop : ℕ) :
    ∃ last ≤ text.length, ∀ k ≤ text.length, k ≤ last ↔ offset text k ≤ stop := by
  refine ⟨Nat.findGreatest (fun k => offset text k ≤ stop) text.length,Nat.findGreatest_le _,?_⟩
  intro k hk
  constructor
  · intro hle
    have hspec : offset text (Nat.findGreatest (fun k => offset text k ≤ stop) text.length) ≤ stop :=
      Nat.findGreatest_spec (P := fun k => offset text k ≤ stop) (Nat.zero_le _) (Nat.zero_le _)
    exact (offset_mono text hle).trans hspec
  · exact fun hstop => Nat.le_findGreatest hk hstop

lemma lt_length_of_offset_lt {text : List Char} {k stop : ℕ} (h : offset text k < stop)
    (hstop : stop ≤ (encode text).length) : k < text.length := by
  by_contra hk
  rw [offset_of_length_le (Nat.le_of_not_lt hk)] at h
  omega

/-- The character behind the last whole one does not end in time. -/
lemma lt_offset_succ {text : List Char} {last stop : ℕ}
    (hlast : ∀ k ≤ text.length, k ≤ last ↔ offset text k ≤ stop) (hlt : last < text.length) :
    stop < offset text (last + 1) := by
  by_contra h
  have := (hlast (last + 1) hlt).mpr (Nat.le_of_not_lt h)
  omega

lemma isFurther_ofNat_of_lt {n : ℕ} (hn : n < 256) (h : n < 0x80 ∨ 0xC0 ≤ n) :
    isFurther (UInt8.ofNat n) = false := by
  rw [isFurther, toNat_ofNat hn]
  simp
  omega

lemma isFurther_ofNat (m : ℕ) : isFurther (UInt8.ofNat (m % 64 + 128)) = true := by
  rw [isFurther, toNat_ofNat (by omega)]
  simp
  omega

lemma encodeChar_eq (c : Char) : ∃ b bs, String.utf8EncodeChar c = b :: bs ∧ isFurther b = false ∧
    (∀ d ∈ bs, isFurther d = true) ∧ bs.length ≤ 3 := by
  have hvalid : c.toNat < 0x110000 := by
    have : c.toNat < 0xD800 ∨ 0xDFFF < c.toNat ∧ c.toNat < 0x110000 := c.valid
    omega
  generalize hv : c.toNat = v at hvalid
  have hcode : c.val.toNat = v := hv
  simp only [String.utf8EncodeChar, hcode]
  split_ifs with h1 h2 h3
  · exact ⟨_,_,rfl,isFurther_ofNat_of_lt (by omega) (by omega),by simp,by simp⟩
  all_goals
    refine ⟨_,_,rfl,isFurther_ofNat_of_lt (by omega) (by omega),?_,by simp⟩
    simp only [List.forall_mem_cons, isFurther_ofNat, List.not_mem_nil, false_implies, implies_true,
      and_self]

lemma step_further_start {ps : List Piece} {b : UInt8} (h : isFurther b = true) :
    Reading.step ⟨ps, none⟩ b = ⟨.malformed [b] .start :: ps, none⟩ := by
  simp only [isFurther, Bool.and_eq_true, decide_eq_true_eq] at h
  rw [step_start, begin, if_neg, if_pos]
  · rw [UInt8.lt_iff_toNat_lt]
    simp
    omega
  · rw [UInt8.lt_iff_toNat_lt]
    simp
    omega

/-- Octets that continue nothing are one malformed piece each. -/
lemma foldl_step_strays {ps : List Piece} {bs : List UInt8} (h : ∀ b ∈ bs, isFurther b = true) :
    bs.foldl Reading.step ⟨ps, none⟩ =
      ⟨(bs.map fun b => .malformed [b] .start).reverse ++ ps, none⟩ := by
  induction bs generalizing ps with
  | nil => rfl
  | cons b bs ih =>
    rw [List.foldl_cons, step_further_start (h b List.mem_cons_self),
      ih fun d hd => h d (List.mem_cons_of_mem b hd)]
    simp

/-- The beginning of a character's octets leaves a sequence open. -/
lemma foldl_step_take (c : Char) {q : ℕ} (hpos : 0 < q) (hlt : q < (String.utf8EncodeChar c).length)
    (ps : List Piece) : ∃ pending,
      ((String.utf8EncodeChar c).take q).foldl Reading.step ⟨ps, none⟩ = ⟨ps, some pending⟩ := by
  have hparts : String.utf8EncodeChar c =
      (String.utf8EncodeChar c).take q ++ (String.utf8EncodeChar c).drop q := (List.take_append_drop q _).symm
  have hdrop : (String.utf8EncodeChar c).drop q ≠ [] := by
    simpa using hlt
  obtain ⟨hpieces,hleft⟩ := foldl_step_of_encodeChar ps hparts hdrop
  generalize ((String.utf8EncodeChar c).take q).foldl Reading.step ⟨ps, none⟩ = r at hpieces hleft
  obtain ⟨rs,pending⟩ := r
  obtain rfl : rs = ps := hpieces
  cases pending with
  | some p => exact ⟨p,rfl⟩
  | none =>
    have hlength : ([] : List UInt8).length = q := by
      rw [show [] = (String.utf8EncodeChar c).take q from hleft, List.length_take_of_le hlt.le]
    exact absurd hlength hpos.ne

/-- The last octets of a character, which hold at least its first one not. -/
structure IsTail (octets : List UInt8) : Prop where
  further : ∀ b ∈ octets, isFurther b = true
  length_le : octets.length ≤ 3

/-- Some octets of a character from its first one on, but not all. -/
def IsHead (octets : List UInt8) : Prop :=
  ∃ c q, q < (String.utf8EncodeChar c).length ∧ octets = (String.utf8EncodeChar c).take q

lemma isTail_nil : IsTail [] := ⟨by simp,by simp⟩

lemma isHead_nil : IsHead [] := ⟨'a',0,by decide,rfl⟩

lemma IsTail.sublist {xs ys : List UInt8} (h : IsTail ys) (hsub : xs.Sublist ys) : IsTail xs :=
  ⟨fun b hb => h.further b (hsub.subset hb),hsub.length_le.trans h.length_le⟩

lemma isTail_drop (c : Char) {p : ℕ} (hp : 0 < p) : IsTail ((String.utf8EncodeChar c).drop p) := by
  obtain ⟨b,bs,heq,-,hfurther,hlength⟩ := encodeChar_eq c
  obtain ⟨p,rfl⟩ : ∃ k, p = k + 1 := ⟨p - 1,by omega⟩
  rw [heq, List.drop_succ_cons]
  exact IsTail.sublist ⟨hfurther,hlength⟩ (List.drop_sublist p bs)

lemma IsHead.isTail_drop {head : List UInt8} (h : IsHead head) {p : ℕ} (hp : 0 < p) :
    IsTail (head.drop p) := by
  obtain ⟨c,q,-,rfl⟩ := h
  rw [List.drop_take]
  exact (Utf8.isTail_drop c hp).sublist (List.take_sublist _ _)

section Parts
variable {tail head : List UInt8} (inside : List Char) (htail : IsTail tail) (hhead : IsHead head)
include htail hhead

/-- Such octets are shown as a replacement character for each octet of the tail, the characters that are
whole, and one replacement character for the head. -/
theorem decodeLossy_parts : decodeLossy (tail ++ encode inside ++ head) =
    List.replicate tail.length '\uFFFD' ++ inside ++ List.replicate (if head = [] then 0 else 1) '\uFFFD' := by
  let whole : List Piece := tail.map (fun b => .malformed [b] .start) ++ inside.map .char
  have hwhole : (tail ++ encode inside).foldl Reading.step {} = ⟨whole.reverse, none⟩ := by
    rw [List.foldl_append, foldl_step_strays htail.further, foldl_step_encode]
    simp [whole]
  have hlossy : whole.map Piece.lossy = List.replicate tail.length '\uFFFD' ++ inside := by
    simp [whole, Function.comp_def, Piece.lossy]
  obtain ⟨c,q,hq,rfl⟩ := hhead
  rcases Nat.eq_zero_or_pos q with rfl | hpos
  · rw [List.take_zero, List.append_nil, decodeLossy, pieces, hwhole, Reading.finish, List.reverse_reverse,
      hlossy, if_pos rfl, List.replicate_zero, List.append_nil]
  · obtain ⟨pending,hpending⟩ := foldl_step_take c hpos hq whole.reverse
    have hne : (String.utf8EncodeChar c).take q ≠ [] := by
      simp [List.take_eq_nil_iff, Nat.pos_iff_ne_zero.mp hpos]
    simp only [decodeLossy, pieces, List.foldl_append, hwhole, hpending, Reading.finish, List.reverse_cons,
      List.reverse_reverse, List.map_append, hlossy, if_neg hne]
    rfl

lemma takeWhile_parts : (tail ++ encode inside ++ head).takeWhile isFurther = tail := by
  have hrest : (encode inside ++ head).takeWhile isFurther = [] := by
    cases inside with
    | nil =>
      obtain ⟨c,q,-,rfl⟩ := hhead
      obtain ⟨b,bs,heq,hlead,-⟩ := encodeChar_eq c
      cases q <;> simp [heq, hlead]
    | cons c inside =>
      obtain ⟨b,bs,heq,hlead,-⟩ := encodeChar_eq c
      simp [heq, hlead]
  rw [List.append_assoc, List.takeWhile_append_of_pos htail.further, hrest, List.append_nil]

end Parts

/-- A slice ends inside a character of the text whose first octet it holds. -/
def Cuts (text : List Char) (start stop : ℕ) : Prop :=
  ∃ k < text.length, start ≤ offset text k ∧ offset text k < stop ∧ stop < offset text (k + 1)

instance (text : List Char) (start stop : ℕ) : Decidable (Cuts text start stop) := by
  unfold Cuts
  infer_instance

lemma offset_succ {text : List Char} {k : ℕ} {c : Char} (h : text[k]? = some c) :
    offset text (k + 1) = offset text k + (String.utf8EncodeChar c).length := by
  rw [offset, encode_take_succ h, List.length_append, offset]

lemma encode_take_prefix (text : List Char) (k : ℕ) : encode (text.take k) <+: encode text := by
  refine ⟨encode (text.drop k),?_⟩
  rw [← encode_append, List.take_append_drop]

/-- What comes before an offset: whole characters, and the beginning of the next one. -/
lemma take_encode {text : List Char} {stop last : ℕ} (hlength : last ≤ text.length)
    (hlast : ∀ k ≤ text.length, k ≤ last ↔ offset text k ≤ stop) :
    ∃ head, IsHead head ∧ (encode text).take stop = encode (text.take last) ++ head := by
  have hle : offset text last ≤ stop := (hlast last hlength).mp le_rfl
  rcases Nat.lt_or_ge last text.length with hlt | hge
  · have hnext := lt_offset_succ hlast hlt
    have hc := List.getElem?_eq_getElem hlt
    have hoffset := offset_succ hc
    refine ⟨_,⟨text[last],stop - offset text last,by omega,rfl⟩,?_⟩
    obtain ⟨more,hmore⟩ := encode_take_prefix text (last + 1)
    rw [← hmore, List.take_append_of_le_length (Nat.le_of_lt hnext), encode_take_succ hc, List.take_append,
      List.take_of_length_le hle]
    rfl
  · have hall : (encode text).length ≤ stop := by rwa [← offset_of_length_le hge]
    exact ⟨[],isHead_nil,by rw [List.append_nil, List.take_of_length_le hge, List.take_of_length_le hall]⟩

/-- What is left, behind an offset, of the characters that start before it. -/
lemma isTail_encode_take {text : List Char} {start first : ℕ} (hstart : start ≤ (encode text).length)
    (hfirst : ∀ k, first ≤ k ↔ start ≤ offset text k) : IsTail ((encode (text.take first)).drop start) := by
  cases first with
  | zero => simpa using isTail_nil
  | succ f =>
    have hbefore : offset text f < start := by
      by_contra h
      have := (hfirst f).mpr (Nat.le_of_not_lt h)
      omega
    have hlt := lt_length_of_offset_lt hbefore hstart
    rw [encode_take_succ (List.getElem?_eq_getElem hlt), List.drop_append,
      List.drop_of_length_le (Nat.le_of_lt hbefore), List.nil_append]
    exact isTail_drop _ (Nat.sub_pos_of_lt hbefore)

section Ends
variable {text : List Char} {start stop first last : ℕ}

lemma cuts_iff (hstop : stop ≤ (encode text).length) (hlength : last ≤ text.length)
    (hlast : ∀ k ≤ text.length, k ≤ last ↔ offset text k ≤ stop) :
    Cuts text start stop ↔ start ≤ offset text last ∧ offset text last < stop := by
  constructor
  · rintro ⟨k,hk,hstart,hbefore,hafter⟩
    have hle := (hlast k (Nat.le_of_lt hk)).mpr (Nat.le_of_lt hbefore)
    have hnot : ¬ k + 1 ≤ last := fun h => Nat.not_lt_of_le ((hlast (k + 1) hk).mp h) hafter
    obtain rfl : k = last := by omega
    exact ⟨hstart,hbefore⟩
  · rintro ⟨hstart,hbefore⟩
    have hlt := lt_length_of_offset_lt hbefore hstop
    exact ⟨last,hlt,hstart,hbefore,lt_offset_succ hlast hlt⟩

end Ends

/-- The octets of a text from one offset up to another. -/
def between (text : List Char) (start stop : ℕ) : List UInt8 := ((encode text).take stop).drop start

/-- The octets between two offsets are the tail of a character, whole characters, and the head of one. -/
theorem exists_parts {text : List Char} {start stop : ℕ} (hlt : start < stop)
    (hstop : stop ≤ (encode text).length) : ∃ first last tail head,
      (∀ k < text.length, first ≤ k ∧ k < last ↔ start ≤ offset text k ∧ offset text (k + 1) ≤ stop) ∧
      IsTail tail ∧ IsHead head ∧ (head = [] ↔ ¬ Cuts text start stop) ∧
      between text start stop = tail ++ encode ((text.take last).drop first) ++ head := by
  have hstart : start ≤ (encode text).length := Nat.le_trans (Nat.le_of_lt hlt) hstop
  obtain ⟨first,hfirst⟩ := exists_first hstart
  obtain ⟨last,hlength,hlast⟩ := exists_last text stop
  obtain ⟨head,hhead,htake⟩ := take_encode hlength hlast
  have hinside : ∀ k < text.length,
      first ≤ k ∧ k < last ↔ start ≤ offset text k ∧ offset text (k + 1) ≤ stop :=
    fun k hk => and_congr (hfirst k) (hlast (k + 1) hk)
  have hsum : stop = offset text last + head.length := by
    have := congrArg List.length htake
    rwa [List.length_take, Nat.min_eq_left hstop, List.length_append] at this
  rcases Nat.lt_or_ge last first with hout | hin
  · -- both ends lie in one character, and the first one not at its start
    have hbefore : offset text last < start := by
      by_contra h
      have := (hfirst last).mpr (Nat.le_of_not_lt h)
      omega
    have hnone : (text.take last).drop first = [] := by
      rw [List.drop_eq_nil_iff, List.length_take]
      omega
    refine ⟨first,last,head.drop (start - offset text last),[],hinside,?_,isHead_nil,?_,?_⟩
    · exact hhead.isTail_drop (Nat.sub_pos_of_lt hbefore)
    · rw [cuts_iff hstop hlength hlast]
      simp [Nat.not_le_of_lt hbefore]
    · rw [between, htake, hnone, List.drop_append, List.drop_of_length_le (Nat.le_of_lt hbefore)]
      simp [offset]
  · have hafter : start ≤ offset text last := (hfirst last).mp hin
    refine ⟨first,last,(encode (text.take first)).drop start,head,hinside,?_,hhead,?_,?_⟩
    · exact isTail_encode_take hstart hfirst
    · rw [cuts_iff hstop hlength hlast, ← List.length_eq_zero_iff]
      omega
    · rw [between, htake, ← encode_take_append text hin, List.append_assoc,
        List.drop_append_of_le_length ((hfirst first).mp le_rfl), List.append_assoc]

/-- How many octets at the start of some octets continue what has started before them. -/
def furtherCount (octets : List UInt8) : ℕ := (octets.takeWhile isFurther).length

/-- What is shown of the octets of a text between two offsets. Each octet that continues a character which
starts before them is shown as a replacement character, and so is a character that is cut off at the end;
the characters whose octets all lie between the offsets are shown as they are. -/
structure ShownAs (text : List Char) (start stop : ℕ) (shown : List Char) : Prop where
  empty : stop ≤ start → shown = []
  parts : start < stop → ∃ first last,
    (∀ k < text.length, first ≤ k ∧ k < last ↔ start ≤ offset text k ∧ offset text (k + 1) ≤ stop) ∧
    shown = List.replicate (furtherCount (between text start stop)) '\uFFFD' ++
      (text.take last).drop first ++ List.replicate (if Cuts text start stop then 1 else 0) '\uFFFD'
  furtherCount_le : furtherCount (between text start stop) ≤ 3
  exact_of_boundaries : IsBoundary text start → IsBoundary text stop →
    furtherCount (between text start stop) = 0 ∧ ¬ Cuts text start stop ∧
      encode shown = between text start stop

lemma between_of_le {text : List Char} {start stop : ℕ} (h : stop ≤ start) :
    between text start stop = [] := by
  rw [between, List.drop_eq_nil_iff]
  exact (List.length_take_le stop _).trans h

lemma IsBoundary.not_cuts {text : List Char} {start stop : ℕ} (h : IsBoundary text stop) :
    ¬ Cuts text start stop := by
  rintro ⟨k,-,-,hbefore,hafter⟩
  obtain ⟨upTo,hstarts,rfl⟩ := h
  rw [List.prefix_iff_eq_take.mp hstarts] at hbefore hafter
  rcases Nat.lt_or_ge k upTo.length with hk | hk
  · exact Nat.not_lt_of_le (offset_mono text hk) hafter
  · exact Nat.not_lt_of_le (offset_mono text hk) hbefore

lemma furtherCount_encode (text : List Char) : furtherCount (encode text) = 0 := by
  have hnone := takeWhile_parts text isTail_nil isHead_nil
  rw [List.nil_append, List.append_nil] at hnone
  rw [furtherCount, hnone, List.length_nil]

theorem shownAs_decodeLossy {text : List Char} {start stop : ℕ} (hstop : stop ≤ (encode text).length) :
    ShownAs text start stop (decodeLossy (between text start stop)) := by
  rcases Nat.lt_or_ge start stop with hlt | hge
  · obtain ⟨first,last,tail,head,hinside,htail,hhead,hcuts,hbetween⟩ := exists_parts hlt hstop
    have hcount : furtherCount (between text start stop) = tail.length := by
      rw [furtherCount, hbetween, takeWhile_parts _ htail hhead]
    constructor
    case empty => exact fun h => absurd hlt (Nat.not_lt_of_le h)
    case parts =>
      refine fun _ => ⟨first,last,hinside,?_⟩
      rw [hcount, hbetween, decodeLossy_parts _ htail hhead]
      congr 2
      simp only [hcuts, ite_not]
    case furtherCount_le =>
      rw [hcount]
      exact htail.length_le
    case exact_of_boundaries =>
      intro hstart hend
      obtain ⟨piece,-,hpiece⟩ := slice_of_boundaries (Nat.le_of_lt hlt) hstart hend
      have hexact : between text start stop = encode piece := by rw [← hpiece, slice_eq]; rfl
      rw [hexact, decodeLossy_encode]
      exact ⟨furtherCount_encode piece,hend.not_cuts,rfl⟩
  · have hnil : between text start stop = [] := between_of_le hge
    constructor
    case empty =>
      intro _
      rw [hnil]
      rfl
    case parts => exact fun h => absurd h (Nat.not_lt_of_le hge)
    case furtherCount_le =>
      rw [hnil]
      exact Nat.zero_le 3
    case exact_of_boundaries =>
      intro _ hend
      rw [hnil]
      exact ⟨rfl,hend.not_cuts,rfl⟩

example : decodeLossy (between ['é', '😀', 'a'] 1 5) = ['\uFFFD', '\uFFFD'] := by decide

/-- An offset past the end of a text is its end. -/
lemma between_min (text : List Char) (start stop : ℕ) :
    between text start (min stop (encode text).length) = between text start stop := by
  rw [between, between, ← List.take_eq_take_min]

end Text.Utf8

namespace Parser

/-- Wherever the engine says that its nodes start and stop, each node of the tree shows the octets of the
text between these two offsets, an offset past the end being the end. A root that covers the text has the
text. -/
theorem text_shownAs (p : Parser) (source : String) :
    ∃ result, (p.parse source).result = .ok result ∧
      (∀ path, Option.Rel
        (fun t n => Text.Utf8.ShownAs source.toList t.label.startByte
          (min t.label.stopByte (Text.Utf8.encode source.toList).length) (result.store.text n).toList)
        ((p.tree source).subtree? path) (result.store.descendant? result.root path)) ∧
      ((p.tree source).label.startByte = 0 →
        (Text.Utf8.encode source.toList).length ≤ (p.tree source).label.stopByte →
        result.store.text result.root = source) := by
  have hmirrors := (p.tree source).mirrors_normalize (Text.Utf8.octets source)
  have htext : ∀ {t n}, (p.parsed source).store.Mirrors (Text.Utf8.octets source) t n →
      (p.parsed source).store.text n = String.ofList (Text.Utf8.decodeLossy
        (Text.Utf8.between source.toList t.label.startByte t.label.stopByte)) :=
    fun h => h.standsFor.text_eq
  refine ⟨p.parsed source,p.result_parse source,?_,?_⟩
  · intro path
    apply rel_imp (hmirrors.rel_path path)
    intro t n h
    rw [htext h, String.toList_ofList, ← Text.Utf8.between_min]
    exact Text.Utf8.shownAs_decodeLossy (Nat.min_le_right _ _)
  · intro hstart hstop
    have hall : Text.Utf8.between source.toList (p.tree source).label.startByte
        (p.tree source).label.stopByte = Text.Utf8.encode source.toList := by
      rw [Text.Utf8.between, hstart, List.take_of_length_le hstop, List.drop_zero]
    have hroot := htext hmirrors
    rw [hall, Text.Utf8.decodeLossy_encode, String.ofList_toList] at hroot
    exact hroot

end Parser

end SourceOutline

import SourceOutline.Proofs.Text.Utf8
import SourceOutline.Text.File

/-! Reading a file as a stream. A block may end inside of a character or between the two characters of a line
break; what is left over is put in front of the next block, so a text is read as it was written, its line
breaks unified, wherever the blocks end and however many characters are wanted at a time. -/
namespace SourceOutline.Text

namespace Utf8

/-- Octets from the start of a text are the characters that are complete and the start of the next one. -/
lemma foldl_step_of_prefix (text : List Char) (ps : List Piece) {bs : List UInt8}
    (h : bs <+: encode text) : ∃ done ahead, text = done ++ ahead ∧
      bs = encode done ++ leftover (bs.foldl Reading.step ⟨ps, none⟩) ∧
      (bs.foldl Reading.step ⟨ps, none⟩).pieces = (done.map .char).reverse ++ ps ∧
      (leftover (bs.foldl Reading.step ⟨ps, none⟩) = encode ahead → ahead = []) := by
  induction text generalizing ps bs with
  | nil =>
    obtain rfl : bs = [] := List.prefix_nil.mp h
    exact ⟨[],[],rfl,rfl,rfl,fun _ => rfl⟩
  | cons c text ih =>
    have hcases : (∃ bs', bs' ≠ [] ∧ String.utf8EncodeChar c = bs ++ bs') ∨
        ∃ more, more <+: encode text ∧ bs = String.utf8EncodeChar c ++ more := by
      obtain ⟨rest,hrest⟩ := h
      rcases List.append_eq_append_iff.mp hrest with ⟨bs',hc,hbs'⟩ | ⟨more,hbs,hmore⟩
      · by_cases hnil : bs' = []
        · subst hnil
          exact Or.inr ⟨[],List.nil_prefix,by simpa using hc.symm⟩
        · exact Or.inl ⟨bs',hnil,hc⟩
      · exact Or.inr ⟨more,⟨rest,hmore.symm⟩,hbs⟩
    rcases hcases with ⟨bs',hne,hc⟩ | ⟨more,hmore,rfl⟩
    · obtain ⟨hpieces,hleft⟩ := foldl_step_of_encodeChar ps hc hne
      refine ⟨[],c :: text,rfl,hleft.symm,hpieces,?_⟩
      rw [hleft, encode_cons, hc, List.append_assoc]
      intro hbs
      exact absurd (List.append_eq_nil_iff.mp (List.self_eq_append_right.mp hbs)).1 hne
    · obtain ⟨done,ahead,rfl,hbs,hpieces,hahead⟩ := ih (.char c :: ps) hmore
      rw [List.foldl_append, foldl_step_encodeChar]
      refine ⟨c :: done,ahead,rfl,?_,?_,hahead⟩
      · rw [encode_cons, List.append_assoc, ← hbs]
      · rw [hpieces]
        simp

lemma chars_map_char (offset : ℕ) (text found : List Char) :
    chars offset (text.map .char) found = .ok (found.reverse ++ text) := by
  induction text generalizing offset found with
  | nil => simp [chars]
  | cons c text ih =>
    rw [List.map_cons, chars, ih]
    simp

end Utf8

/-- Two parts of a text have their line breaks unified apart, unless one line break stands in both. -/
lemma unifyBreaks_append (before after : List Char)
    (h : before.getLast? = some '\r' → after.head? ≠ some '\n') :
    unifyBreaks (before ++ after) = unifyBreaks before ++ unifyBreaks after := by
  fun_induction unifyBreaks before with
  | case1 => rfl
  | case2 rest ih =>
    cases rest with
    | nil => rfl
    | cons c rest =>
      rw [List.cons_append, List.cons_append, unifyBreaks, ih (by simpa using h), List.cons_append]
  | case3 c rest hno ih =>
    cases rest with
    | nil =>
      have hno' : ∀ rest', c = '\r' → after = '\n' :: rest' → False := by
        rintro rest' rfl rfl
        exact h rfl rfl
      rw [List.singleton_append, unifyBreaks.eq_3 c after hno']
      rfl
    | cons d rest =>
      have hno' : ∀ rest', c = '\r' → d :: rest ++ after = '\n' :: rest' → False := by
        rintro rest' rfl hrest
        exact hno rest rfl (congrArg (· :: rest) (List.cons.inj hrest).1)
      rw [List.cons_append, unifyBreaks.eq_3 c _ hno', ih (by simpa using h)]
      rfl

namespace FileStream
variable {s : FileStream} {text : List Char} {size : ℕ}

lemma blockSize_pos (s : FileStream) (wanted : ℕ) : 0 < s.blockSize wanted := by
  simp only [blockSize]
  split_ifs
  · decide
  · exact Nat.lt_of_lt_of_le (by decide) (Nat.le_max_left _ _)

/-- A stream has a text before it, apart from the characters that are ready: a carriage return, if one is held
back, and what the octets encode. -/
def Holds (s : FileStream) (text : List Char) : Prop :=
  ∃ ahead, text = (if s.holdsReturn then '\r' :: ahead else ahead) ∧
    s.pending ++ s.octets = Utf8.encode ahead ∧ (s.pending = Utf8.encode ahead → ahead = [])

/-- The characters that a block completes, and what is left over of it. -/
lemma chars_of_block {ahead : List Char} (hsize : 0 < size) (h : s.pending ++ s.octets = Utf8.encode ahead)
    (hpending : s.pending = Utf8.encode ahead → ahead = []) : ∃ done ahead' r, ahead = done ++ ahead' ∧
      (s.pending ++ s.octets.take size).foldl Utf8.Reading.step {} = r ∧
      Utf8.chars 0 (if (s.octets.take size).isEmpty then r.finish else r.pieces.reverse) [] = .ok done ∧
      Utf8.leftover r ++ s.octets.drop size = Utf8.encode ahead' ∧
      (Utf8.leftover r = Utf8.encode ahead' → ahead' = []) ∧ (s.octets = [] → ahead' = []) := by
  by_cases hoctets : s.octets = []
  · rw [hoctets, List.append_nil] at h
    obtain rfl := hpending h
    refine ⟨[],[],{},rfl,?_,?_,?_,fun _ => rfl,fun _ => rfl⟩
    · rw [hoctets, List.take_nil, List.append_nil, h]
      rfl
    · rw [hoctets, List.take_nil]
      rfl
    · rw [hoctets, List.drop_nil]
      rfl
  · have hprefix : s.pending ++ s.octets.take size <+: Utf8.encode ahead := by
      rw [← h]
      exact (List.prefix_append_right_inj s.pending).mpr (List.take_prefix _ _)
    obtain ⟨done,ahead',rfl,hblock,hpieces,hahead⟩ := Utf8.foldl_step_of_prefix ahead [] hprefix
    have hne : (s.octets.take size).isEmpty = false := by
      rw [List.isEmpty_eq_false_iff]
      exact fun hnil => (List.take_eq_nil_iff.mp hnil).elim (Nat.ne_of_gt hsize) hoctets
    refine ⟨done,ahead',_,rfl,rfl,?_,?_,hahead,fun hnil => absurd hnil hoctets⟩
    · rw [hne, if_neg Bool.false_ne_true, hpieces, List.append_nil, List.reverse_reverse,
        Utf8.chars_map_char]
      rfl
    · refine List.append_cancel_left (?_ : Utf8.encode done ++ _ = Utf8.encode done ++ _)
      rw [← List.append_assoc, ← hblock, List.append_assoc, List.take_append_drop, h, Utf8.encode_append]

lemma readBlock_of_chars {r : Utf8.Reading} {done raw : List Char} {held : Bool}
    (hr : (s.pending ++ s.octets.take size).foldl Utf8.Reading.step {} = r)
    (hdone : Utf8.chars 0 (if (s.octets.take size).isEmpty then r.finish else r.pieces.reverse) [] = .ok done)
    (hraw : (if s.holdsReturn then '\r' :: done else done) = raw)
    (hheld : (!(s.octets.take size).isEmpty && raw.getLast? == some '\r') = held) :
    ∃ lastBlock, s.readBlock size = .ok {
      octets := s.octets.drop size
      pending := Utf8.leftover r
      holdsReturn := held
      ready := unifyBreaks (if held then raw.dropLast else raw)
      lastBlock } := by
  subst hraw hheld
  simp only [readBlock, hr, hdone, bind, Except.bind]
  exact ⟨_,rfl⟩

/-- A block makes the next characters of a text ready, with their line breaks unified. -/
lemma readBlock_of_holds (hsize : 0 < size) (h : s.Holds text) : ∃ s' text', s.readBlock size = .ok s' ∧
    s'.ready ++ unifyBreaks text' = unifyBreaks text ∧ s'.Holds text' ∧
    s'.octets = s.octets.drop size ∧ (s.octets = [] → text' = [] ∧ s'.holdsReturn = false) := by
  obtain ⟨ahead,rfl,hencode,hpending⟩ := h
  obtain ⟨done,ahead',r,rfl,hr,hdone,hencode',hpending',hend⟩ := chars_of_block hsize hencode hpending
  generalize hraw : (if s.holdsReturn then '\r' :: done else done) = raw
  generalize hheld : (!(s.octets.take size).isEmpty && raw.getLast? == some '\r') = held
  obtain ⟨lastBlock,hread⟩ := readBlock_of_chars hr hdone hraw hheld
  have htext : (if s.holdsReturn then '\r' :: (done ++ ahead') else done ++ ahead') = raw ++ ahead' := by
    rw [← hraw]
    split_ifs <;> rfl
  rw [htext]
  cases held with
  | true =>
    obtain ⟨hblock,hlast⟩ := Bool.and_eq_true_iff.mp hheld
    have hdrop : raw.dropLast ++ ['\r'] = raw := List.dropLast_append_getLast? _ (beq_iff_eq.mp hlast)
    refine ⟨_,'\r' :: ahead',hread,?_,⟨ahead',rfl,hencode',hpending'⟩,rfl,?_⟩
    · have hsplit := unifyBreaks_append raw.dropLast ('\r' :: ahead') fun _ => by simp
      rw [← hdrop, List.append_assoc, List.singleton_append]
      simpa using hsplit.symm
    · intro hnil
      rw [hnil, List.take_nil] at hblock
      cases hblock
  | false =>
    refine ⟨_,ahead',hread,?_,⟨ahead',rfl,hencode',hpending'⟩,rfl,fun hnil => ⟨hend hnil,rfl⟩⟩
    refine (unifyBreaks_append raw ahead' fun hreturn => ?_).symm
    have hnil : s.octets.take size = [] := by
      cases hblock : s.octets.take size with
      | nil => rfl
      | cons b bs => simp [hblock, hreturn] at hheld
    rw [hend ((List.take_eq_nil_iff.mp hnil).resolve_left (Nat.ne_of_gt hsize))]
    exact Option.some_ne_none _ ∘ Eq.symm

/-- At the end of the octets only a carriage return can be left. -/
lemma Holds.holdsReturn_of_ne_nil (h : s.Holds text) (hoctets : s.octets = []) (htext : text ≠ []) :
    s.holdsReturn = true := by
  obtain ⟨ahead,rfl,hencode,hpending⟩ := h
  rw [hoctets, List.append_nil] at hencode
  rw [hpending hencode] at htext
  by_contra hno
  exact htext (if_neg hno)

/-- The blocks that may still have to be read: for the octets, and for a carriage return that is held back. -/
def work (s : FileStream) : ℕ := 2 * s.octets.length + s.holdsReturn.toNat

/-- A block is read for nothing only where neither octets nor characters are left. -/
lemma Holds.work_lt {s' : FileStream} (h : s.Holds text) (hsize : 0 < size)
    (hoctets : s'.octets = s.octets.drop size) (hend : s.octets = [] → s'.holdsReturn = false)
    (htext : s.octets = [] → text ≠ []) : s'.work < s.work := by
  rw [work, work, hoctets]
  by_cases hnil : s.octets = []
  · rw [hnil, List.drop_nil, hend hnil, h.holdsReturn_of_ne_nil hnil (htext hnil)]
    decide
  · have hpos := List.length_pos_iff.mpr hnil
    have hheld := Bool.toNat_le s'.holdsReturn
    rw [List.length_drop]
    omega

section Take
variable {wanted fuel : ℕ} {found : List Char}

lemma take_of_le (h : wanted - found.length ≤ s.ready.length) : take wanted (fuel + 1) s found =
    .ok (found ++ s.ready.take (wanted - found.length),
      { s with ready := s.ready.drop (wanted - found.length) }) := by
  have hlength : wanted ≤ (found ++ s.ready.take (wanted - found.length)).length := by
    rw [List.length_append, List.length_take, Nat.min_eq_left h]
    omega
  simp only [take, if_pos hlength]
  rfl

lemma take_of_lt (fuel : ℕ) (h : s.ready.length < wanted - found.length) : ∃ size, 0 < size ∧
    take wanted (fuel + 1) s found = (({ s with ready := [] } : FileStream).readBlock size).bind fun s' =>
      if s.octets.isEmpty && s'.ready.isEmpty then .ok (found ++ s.ready, s')
      else take wanted fuel s' (found ++ s.ready) := by
  have htake : s.ready.take (wanted - found.length) = s.ready := List.take_of_length_le (by omega)
  have hdrop : s.ready.drop (wanted - found.length) = [] := List.drop_of_length_le (by omega)
  have hlength : ¬ wanted ≤ (found ++ s.ready).length := by
    rw [List.length_append]
    omega
  refine ⟨_,blockSize_pos { s with ready := [] } (wanted - (found ++ s.ready).length),?_⟩
  simp only [take, htake, hdrop, if_neg hlength]
  rfl

/-- So many characters are handed out of those that are ready and those of a text before the stream. -/
lemma take_of_holds (found : List Char) (h : s.Holds text) (hfuel : s.work < fuel) : ∃ s' text',
      take wanted fuel s found =
        .ok (found ++ (s.ready ++ unifyBreaks text).take (wanted - found.length), s') ∧
      s'.Holds text' ∧
      s'.ready ++ unifyBreaks text' = (s.ready ++ unifyBreaks text).drop (wanted - found.length) := by
  induction fuel generalizing s text found with
  | zero => omega
  | succ fuel ih =>
    by_cases hready : wanted - found.length ≤ s.ready.length
    · refine ⟨{ s with ready := s.ready.drop (wanted - found.length) },text,?_,h,?_⟩
      · rw [take_of_le hready, List.take_append_of_le_length hready]
      · exact (List.drop_append_of_le_length hready).symm
    · rw [Nat.not_le] at hready
      -- what is ready is handed out, and a block takes its place
      obtain ⟨size,hsize,htake⟩ := take_of_lt fuel hready
      have hempty : ({ s with ready := [] } : FileStream).Holds text := h
      obtain ⟨s',text',hread,hnext,hholds,hoctets,hend⟩ := readBlock_of_holds hsize hempty
      replace hoctets : s'.octets = s.octets.drop size := hoctets
      have hmissing : wanted - found.length - s.ready.length = wanted - (found ++ s.ready).length := by
        rw [List.length_append, Nat.sub_sub]
      rw [htake, hread, List.take_append, List.drop_append, List.take_of_length_le (Nat.le_of_lt hready),
        List.drop_of_length_le (Nat.le_of_lt hready), List.nil_append, hmissing, ← hnext, ← List.append_assoc]
      by_cases hstop : s.octets.isEmpty && s'.ready.isEmpty
      · obtain ⟨hnil,hnone⟩ := Bool.and_eq_true_iff.mp hstop
        obtain ⟨rfl,-⟩ := hend (List.isEmpty_iff.mp hnil)
        refine ⟨s',[],?_,hholds,?_⟩
        · rw [Except.bind, if_pos hstop, List.isEmpty_iff.mp hnone]
          simp [unifyBreaks]
        · rw [List.isEmpty_iff.mp hnone]
          simp [unifyBreaks]
      · rw [Except.bind, if_neg hstop]
        refine ih _ hholds (Nat.lt_of_lt_of_le (h.work_lt hsize hoctets (fun hnil => (hend hnil).2) ?_)
          (Nat.le_of_lt_succ hfuel))
        rintro hnil rfl
        have hnone : s'.ready = [] := (List.append_eq_nil_iff.mp hnext).1
        rw [hnil, hnone] at hstop
        exact hstop rfl

lemma takeAll_of_holds (pieces : List (List Char)) (hwanted : 0 < wanted) (h : s.Holds text)
    (hfuel : (s.ready ++ unifyBreaks text).length < fuel) : ∃ more,
      takeAll wanted fuel s pieces = (pieces.reverse ++ more, none) ∧
        more.flatten = s.ready ++ unifyBreaks text := by
  induction fuel generalizing s text pieces with
  | zero => omega
  | succ fuel ih =>
    have hwork : s.work < 2 * s.octets.length + 2 :=
      Nat.add_lt_add_left (Nat.lt_succ_of_le (Bool.toNat_le s.holdsReturn)) _
    obtain ⟨s',text',htake,hholds,hrest⟩ := take_of_holds [] h hwork
    rw [List.length_nil, Nat.sub_zero, List.nil_append] at htake
    rw [List.length_nil, Nat.sub_zero] at hrest
    cases hpiece : (s.ready ++ unifyBreaks text).take wanted with
    | nil =>
      have hnil := (List.take_eq_nil_iff.mp hpiece).resolve_left (Nat.ne_of_gt hwanted)
      refine ⟨[],?_,hnil.symm⟩
      rw [hpiece] at htake
      simp only [takeAll, htake, List.append_nil]
    | cons c piece =>
      have hlength : (s'.ready ++ unifyBreaks text').length < fuel := by
        have hpos := congrArg List.length hpiece
        rw [List.length_take, List.length_cons] at hpos
        rw [hrest, List.length_drop]
        omega
      obtain ⟨more,hmore,hflatten⟩ := ih ((c :: piece) :: pieces) hholds hlength
      refine ⟨(c :: piece) :: more,?_,?_⟩
      · rw [hpiece] at htake
        simp only [takeAll, htake, hmore, List.reverse_cons, List.append_assoc, List.singleton_append]
      · rw [List.flatten_cons, hflatten, hrest, ← hpiece, List.take_append_drop]

end Take

end FileStream

lemma length_le_encode (text : List Char) : text.length ≤ (Utf8.encode text).length := by
  induction text with
  | nil => exact Nat.le_refl _
  | cons c text ih =>
    have hpos : 0 < (String.utf8EncodeChar c).length := by
      rw [String.length_utf8EncodeChar]
      exact c.utf8Size_pos
    rw [Utf8.encode_cons, List.length_append, List.length_cons]
    omega

lemma length_unifyBreaks_le (text : List Char) : (unifyBreaks text).length ≤ text.length := by
  fun_induction unifyBreaks text with
  | case1 => exact Nat.le_refl _
  | case2 rest ih =>
    simp only [List.length_cons]
    omega
  | case3 c rest _ ih => exact Nat.succ_le_succ ih

/-- A file that holds the octets of a text comes in pieces that are that text, its line breaks unified. -/
theorem piecesOfFile_encode {wanted : ℕ} (hwanted : 0 < wanted) (text : List Char) : ∃ pieces,
    piecesOfFile wanted (Utf8.encode text).toArray = (pieces, none) ∧ pieces.flatten = unifyBreaks text := by
  have hholds : ({ octets := Utf8.encode text } : FileStream).Holds text :=
    ⟨text,rfl,rfl,fun h => Utf8.eq_nil_of_encode_eq_nil h.symm⟩
  have hlength := Nat.le_trans (length_unifyBreaks_le text) (length_le_encode text)
  obtain ⟨pieces,htake,hflatten⟩ := FileStream.takeAll_of_holds [] hwanted hholds
    (Nat.lt_succ_of_le (Nat.le_succ_of_le hlength))
  exact ⟨pieces,htake,hflatten⟩

end SourceOutline.Text

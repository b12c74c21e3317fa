import Mathlib.Data.List.Infix
import SourceOutline.Text.Utf8

/-! Reading back what was written. The octets of a character lead the reader through one sequence and back
to its start, so octets that lie between two characters of a text read as the characters between them; of a
character that is cut off the octets are kept until the others come. -/
namespace SourceOutline.Text.Utf8

section Step
variable {ps : List Piece} {n : ℕ}

lemma toNat_ofNat (hn : n < 256) : (UInt8.ofNat n).toNat = n :=
  UInt8.toNat_ofNat_of_lt' (by simpa using hn)

lemma begin_of_lt (hn : n < 0x80) : begin ps (UInt8.ofNat n) = ⟨.char (Char.ofNat n) :: ps, none⟩ := by
  have h := toNat_ofNat (n := n) (by omega)
  have hlt : UInt8.ofNat n < 0x80 := UInt8.lt_iff_toNat_lt.mpr (by rw [h]; exact hn)
  rw [begin, if_pos hlt, h]

/-- An octet that starts a sequence of two. -/
lemma begin_two (hlow : 0xC2 ≤ n) (hhigh : n < 0xE0) :
    begin ps (UInt8.ofNat n) = ⟨ps, some ⟨[UInt8.ofNat n], n % 32, 1, 0x80, 0xBF⟩⟩ := by
  have h := toNat_ofNat (n := n) (by omega)
  simp only [begin, UInt8.lt_iff_toNat_lt, h]
  rw [if_neg (by simp; omega), if_neg (by simp; omega), if_pos (by simpa using hhigh)]

/-- An octet that starts a sequence of three; two of these octets narrow the range of the next one. -/
lemma begin_three (ps : List Piece) (hlow : 0xE0 ≤ n) (hhigh : n < 0xF0) : ∃ low high,
    begin ps (UInt8.ofNat n) = ⟨ps, some ⟨[UInt8.ofNat n], n % 16, 2, low, high⟩⟩ ∧
    ∀ m, 0x80 ≤ m → m < 0xC0 → (n = 0xE0 → 0xA0 ≤ m) → (n = 0xED → m < 0xA0) →
      low.toNat ≤ m ∧ m ≤ high.toNat := by
  have h := toNat_ofNat (n := n) (by omega)
  simp only [begin, UInt8.lt_iff_toNat_lt, ← UInt8.toNat_inj, h]
  rw [if_neg (by simp; omega), if_neg (by simp; omega), if_neg (by simp; omega)]
  by_cases h0 : n = 0xE0
  · subst h0
    refine ⟨0xA0,0xBF,if_pos rfl,?_⟩
    intro m _ hm hnarrow _
    have := hnarrow rfl
    simp
    omega
  · by_cases hD : n = 0xED
    · subst hD
      refine ⟨0x80,0x9F,by simp,?_⟩
      intro m hm _ _ hnarrow
      have := hnarrow rfl
      simp
      omega
    · refine ⟨0x80,0xBF,?_,?_⟩
      · rw [if_neg (by simpa using h0), if_neg (by simpa using hD), if_pos (by simpa using hhigh)]
      · intro m hm hm' _ _
        simp
        omega

/-- An octet that starts a sequence of four; the first and the last of these octets narrow the range of the
next one. -/
lemma begin_four (ps : List Piece) (hlow : 0xF0 ≤ n) (hhigh : n ≤ 0xF4) : ∃ low high,
    begin ps (UInt8.ofNat n) = ⟨ps, some ⟨[UInt8.ofNat n], n % 8, 3, low, high⟩⟩ ∧
    ∀ m, 0x80 ≤ m → m < 0xC0 → (n = 0xF0 → 0x90 ≤ m) → (n = 0xF4 → m < 0x90) →
      low.toNat ≤ m ∧ m ≤ high.toNat := by
  have h := toNat_ofNat (n := n) (by omega)
  simp only [begin, UInt8.lt_iff_toNat_lt, ← UInt8.toNat_inj, h]
  rw [if_neg (by simp; omega), if_neg (by simp; omega), if_neg (by simp; omega),
    if_neg (by simp; omega), if_neg (by simp; omega), if_neg (by simp; omega)]
  by_cases h0 : n = 0xF0
  · subst h0
    refine ⟨0x90,0xBF,if_pos rfl,?_⟩
    intro m _ hm hnarrow _
    have := hnarrow rfl
    simp
    omega
  · by_cases h4 : n = 0xF4
    · subst h4
      refine ⟨0x80,0x8F,by simp,?_⟩
      intro m hm _ _ hnarrow
      have := hnarrow rfl
      simp
      omega
    · refine ⟨0x80,0xBF,?_,?_⟩
      · rw [if_neg (by simpa using h0), if_pos (by simp; omega)]
      · intro m hm hm' _ _
        simp
        omega

lemma in_range {low high : UInt8} (hn : n < 256) (h : low.toNat ≤ n ∧ n ≤ high.toNat) :
    low ≤ UInt8.ofNat n ∧ UInt8.ofNat n ≤ high := by
  rw [UInt8.le_iff_toNat_le, UInt8.le_iff_toNat_le, toNat_ofNat hn]
  exact h

/-- An octet within the range of an open sequence adds six bits to it. -/
lemma step_further {octets : List UInt8} {bits missing : ℕ} {low high : UInt8} (hn : n < 256)
    (h : low.toNat ≤ n ∧ n ≤ high.toNat) :
    Reading.step ⟨ps, some ⟨octets, bits, missing + 2, low, high⟩⟩ (UInt8.ofNat n) =
      ⟨ps, some ⟨octets ++ [UInt8.ofNat n], bits * 64 + n % 64, missing + 1, 0x80, 0xBF⟩⟩ := by
  simp only [Reading.step, if_pos (in_range hn h), toNat_ofNat hn]
  exact if_neg (by omega)

/-- The last octet of a sequence completes a character. -/
lemma step_last {octets : List UInt8} {bits : ℕ} {low high : UInt8} (hn : n < 256)
    (h : low.toNat ≤ n ∧ n ≤ high.toNat) :
    Reading.step ⟨ps, some ⟨octets, bits, 1, low, high⟩⟩ (UInt8.ofNat n) =
      ⟨.char (Char.ofNat (bits * 64 + n % 64)) :: ps, none⟩ := by
  simp only [Reading.step, if_pos (in_range hn h), toNat_ofNat hn]
  exact if_pos (Nat.le_refl 1)

/-- A further octet is one that the range of every octet but the second admits. -/
lemma further_in_range (m : ℕ) : (0x80 : UInt8).toNat ≤ m % 64 + 128 ∧
    m % 64 + 128 ≤ (0xBF : UInt8).toNat := by
  have : m % 64 < 64 := Nat.mod_lt _ (by decide)
  simp
  omega

end Step

lemma step_start (ps : List Piece) (b : UInt8) : Reading.step ⟨ps, none⟩ b = begin ps b := rfl

section Sequence
variable {ps : List Piece} {v : ℕ}

lemma foldl_step_two (hlow : 0x80 ≤ v) (hhigh : v < 0x800) :
    [UInt8.ofNat (v / 64 % 32 + 192), UInt8.ofNat (v % 64 + 128)].foldl Reading.step ⟨ps, none⟩ =
      ⟨.char (Char.ofNat v) :: ps, none⟩ := by
  rw [List.foldl_cons, step_start, begin_two (by omega) (by omega), List.foldl_cons, List.foldl_nil,
    step_last (by omega) (further_in_range _)]
  have hbits : (v / 64 % 32 + 192) % 32 * 64 + (v % 64 + 128) % 64 = v := by omega
  rw [hbits]

lemma foldl_step_three (hlow : 0x800 ≤ v) (hhigh : v < 0x10000) (hvalid : v < 0xD800 ∨ 0xDFFF < v) :
    [UInt8.ofNat (v / 4096 % 16 + 224), UInt8.ofNat (v / 64 % 64 + 128),
      UInt8.ofNat (v % 64 + 128)].foldl Reading.step ⟨ps, none⟩ =
      ⟨.char (Char.ofNat v) :: ps, none⟩ := by
  obtain ⟨low,high,hbegin,hrange⟩ :=
    begin_three ps (n := v / 4096 % 16 + 224) (by omega) (by omega)
  have hsecond := hrange (v / 64 % 64 + 128) (by omega) (by omega) (by omega) (by omega)
  rw [List.foldl_cons, step_start, hbegin, List.foldl_cons, step_further (by omega) hsecond,
    List.foldl_cons, List.foldl_nil,
    step_last (by omega) (further_in_range _)]
  have hbits : ((v / 4096 % 16 + 224) % 16 * 64 + (v / 64 % 64 + 128) % 64) * 64 +
      (v % 64 + 128) % 64 = v := by omega
  rw [hbits]

lemma foldl_step_four (hlow : 0x10000 ≤ v) (hhigh : v < 0x110000) :
    [UInt8.ofNat (v / 262144 % 8 + 240), UInt8.ofNat (v / 4096 % 64 + 128),
      UInt8.ofNat (v / 64 % 64 + 128), UInt8.ofNat (v % 64 + 128)].foldl Reading.step ⟨ps, none⟩ =
      ⟨.char (Char.ofNat v) :: ps, none⟩ := by
  obtain ⟨low,high,hbegin,hrange⟩ :=
    begin_four ps (n := v / 262144 % 8 + 240) (by omega) (by omega)
  have hsecond := hrange (v / 4096 % 64 + 128) (by omega) (by omega) (by omega) (by omega)
  rw [List.foldl_cons, step_start, hbegin, List.foldl_cons, step_further (by omega) hsecond,
    List.foldl_cons, step_further (by omega) (further_in_range _),
    List.foldl_cons, List.foldl_nil,
    step_last (by omega) (further_in_range _)]
  have hbits : (((v / 262144 % 8 + 240) % 8 * 64 + (v / 4096 % 64 + 128) % 64) * 64 +
      (v / 64 % 64 + 128) % 64) * 64 + (v % 64 + 128) % 64 = v := by omega
  rw [hbits]

end Sequence

/-- The octets of a character lead from the start of a sequence back to it. -/
theorem foldl_step_encodeChar (c : Char) (ps : List Piece) :
    (String.utf8EncodeChar c).foldl Reading.step ⟨ps, none⟩ = ⟨.char c :: ps, none⟩ := by
  have hvalid : c.toNat < 0xD800 ∨ 0xDFFF < c.toNat ∧ c.toNat < 0x110000 := c.valid
  have hchar : Char.ofNat c.toNat = c := Char.ofNat_toNat c
  generalize hv : c.toNat = v at hvalid hchar
  have hcode : c.val.toNat = v := hv
  simp only [String.utf8EncodeChar, hcode]
  split_ifs with h1 h2 h3
  · rw [List.foldl_cons, List.foldl_nil, step_start, begin_of_lt (by omega), hchar]
  · rw [foldl_step_two (by omega) (by omega), hchar]
  · rw [foldl_step_three (by omega) (by omega) (by omega), hchar]
  · rw [foldl_step_four (by omega) (by omega), hchar]

/-- The octets that a reading has taken behind its last piece. -/
def leftover (r : Reading) : List UInt8 := r.pending.elim [] (·.octets)

/-- A reading has got a piece from an octet at the start of a sequence, or the octet is left over. -/
def Began (ps : List Piece) (b : UInt8) (r : Reading) : Prop :=
  (∃ p, r = ⟨p :: ps, none⟩) ∨ ∃ p, r = ⟨ps, some p⟩ ∧ p.octets = [b]

lemma Began.ite {c : Prop} [Decidable c] {ps : List Piece} {b : UInt8} {r r' : Reading}
    (h : Began ps b r) (h' : Began ps b r') : Began ps b (if c then r else r') := by
  split
  · exact h
  · exact h'

lemma began_begin (ps : List Piece) (b : UInt8) : Began ps b (begin ps b) := by
  have hpiece : ∀ p, Began ps b ⟨p :: ps, none⟩ := fun p => Or.inl ⟨p,rfl⟩
  have hopen : ∀ bits missing low high, Began ps b ⟨ps, some ⟨[b], bits, missing, low, high⟩⟩ :=
    fun _ _ _ _ => Or.inr ⟨_,rfl,rfl⟩
  unfold begin
  exact .ite (hpiece _) <| .ite (hpiece _) <| .ite (hopen ..) <| .ite (hopen ..) <| .ite (hopen ..) <|
    .ite (hopen ..) <| .ite (hopen ..) <| .ite (hopen ..) <| .ite (hopen ..) (hpiece _)

/-- An octet completes a piece, or it is left over with those before it. -/
lemma step_or (r : Reading) (b : UInt8) : ∃ new, (r.step b).pieces = new ++ r.pieces ∧
    (new = [] → leftover (r.step b) = leftover r ++ [b]) := by
  obtain ⟨ps,pending⟩ := r
  cases pending with
  | none =>
    rw [step_start]
    rcases began_begin ps b with ⟨p,h⟩ | ⟨p,h,hp⟩
    · rw [h]
      exact ⟨[p],rfl,fun hnew => absurd hnew (List.cons_ne_nil _ _)⟩
    · rw [h]
      exact ⟨[],rfl,fun _ => hp⟩
  | some p =>
    simp only [Reading.step]
    split_ifs
    · exact ⟨[_],rfl,fun hnew => absurd hnew (List.cons_ne_nil _ _)⟩
    · exact ⟨[],rfl,fun _ => rfl⟩
    · rcases began_begin (.malformed p.octets .continuation :: ps) b with ⟨q,h⟩ | ⟨q,h,-⟩
      · rw [h]
        exact ⟨[q,_],rfl,fun hnew => absurd hnew (List.cons_ne_nil _ _)⟩
      · rw [h]
        exact ⟨[_],rfl,fun hnew => absurd hnew (List.cons_ne_nil _ _)⟩

/-- Octets complete pieces, or all of them are left over. -/
lemma foldl_step_or (r : Reading) (bs : List UInt8) :
    ∃ new, (bs.foldl Reading.step r).pieces = new ++ r.pieces ∧
      (new = [] → leftover (bs.foldl Reading.step r) = leftover r ++ bs) := by
  induction bs generalizing r with
  | nil => exact ⟨[],rfl,fun _ => (List.append_nil _).symm⟩
  | cons b bs ih =>
    obtain ⟨first,hfirst,hleft⟩ := step_or r b
    obtain ⟨more,hmore,hleft'⟩ := ih (r.step b)
    refine ⟨more ++ first,?_,?_⟩
    · rw [List.foldl_cons, hmore, hfirst, List.append_assoc]
    · intro hnew
      obtain ⟨hm,hf⟩ := List.append_eq_nil_iff.mp hnew
      rw [List.foldl_cons, hleft' hm, hleft hf, List.append_assoc, List.singleton_append]

/-- Of a character that is not complete all octets are left over: its one piece comes with its last octet. -/
lemma foldl_step_of_encodeChar {c : Char} {bs bs' : List UInt8} (ps : List Piece)
    (h : String.utf8EncodeChar c = bs ++ bs') (hbs' : bs' ≠ []) :
    (bs.foldl Reading.step ⟨ps, none⟩).pieces = ps ∧
      leftover (bs.foldl Reading.step ⟨ps, none⟩) = bs := by
  obtain ⟨new,hnew,hleft⟩ := foldl_step_or ⟨ps, none⟩ bs
  obtain ⟨later,hlater,hleft'⟩ := foldl_step_or (bs.foldl Reading.step ⟨ps, none⟩) bs'
  have hwhole := foldl_step_encodeChar c ps
  rw [h, List.foldl_append] at hwhole
  rw [hwhole] at hlater hleft'
  have hlength : (later ++ (new ++ ps)).length = ps.length + 1 := by
    rw [← hnew, ← hlater]
    rfl
  simp only [List.length_append] at hlength
  have hlaterne : later ≠ [] := by
    intro hnil
    have hoctets : [] = leftover (bs.foldl Reading.step ⟨ps, none⟩) ++ bs' := hleft' hnil
    exact hbs' (List.append_eq_nil_iff.mp hoctets.symm).2
  have hpos := List.length_pos_iff.mpr hlaterne
  obtain rfl : new = [] := List.length_eq_zero_iff.mp (by omega)
  exact ⟨hnew,hleft rfl⟩

theorem foldl_step_encode (text : List Char) (ps : List Piece) :
    (encode text).foldl Reading.step ⟨ps, none⟩ = ⟨(text.map .char).reverse ++ ps, none⟩ := by
  induction text generalizing ps with
  | nil => rfl
  | cons c text ih =>
    rw [encode_cons, List.foldl_append, foldl_step_encodeChar, ih]
    simp

/-- The octets of a text fall into the characters of the text. -/
theorem pieces_encode (text : List Char) : pieces (encode text) = text.map .char := by
  rw [pieces, foldl_step_encode]
  simp [Reading.finish]

theorem decodeLossy_encode (text : List Char) : decodeLossy (encode text) = text := by
  rw [decodeLossy, pieces_encode, List.map_map]
  exact List.map_id text

/-- An offset into the octets of a text at which a character ends or the text starts. -/
def IsBoundary (text : List Char) (offset : ℕ) : Prop :=
  ∃ before, before <+: text ∧ (encode before).length = offset

instance (text : List Char) (offset : ℕ) : Decidable (IsBoundary text offset) :=
  decidable_of_iff (∃ before ∈ text.inits, (encode before).length = offset) (by simp [IsBoundary])

lemma eq_nil_of_encode_eq_nil {text : List Char} (h : encode text = []) : text = [] := by
  cases text with
  | nil => rfl
  | cons c text =>
    rw [encode_cons, List.append_eq_nil_iff] at h
    exact absurd h.1 String.utf8EncodeChar_ne_nil

/-- Of two beginnings of a text the one with fewer octets is the shorter one. -/
lemma prefix_of_length_encode_le {text xs ys : List Char} (hx : xs <+: text) (hy : ys <+: text)
    (hle : (encode xs).length ≤ (encode ys).length) : xs <+: ys := by
  rcases List.prefix_or_prefix_of_prefix hx hy with h | ⟨more,rfl⟩
  · exact h
  · rw [encode_append, List.length_append] at hle
    have hnil : (encode more).length = 0 := by omega
    rw [eq_nil_of_encode_eq_nil (List.length_eq_zero_iff.mp hnil), List.append_nil]

/-- What lies between two boundaries of a text is a piece of the text. -/
theorem slice_of_boundaries {text : List Char} {start stop : ℕ} (hle : start ≤ stop)
    (hstart : IsBoundary text start) (hstop : IsBoundary text stop) :
    ∃ piece, piece <:+: text ∧ slice (encode text).toArray start stop = encode piece := by
  obtain ⟨before,hbefore,rfl⟩ := hstart
  obtain ⟨upTo,hupTo,rfl⟩ := hstop
  obtain ⟨piece,rfl⟩ := prefix_of_length_encode_le hbefore hupTo hle
  obtain ⟨after,rfl⟩ := hupTo
  refine ⟨piece,⟨before,after,rfl⟩,?_⟩
  simp [slice, List.extract_eq_take_drop]

end SourceOutline.Text.Utf8

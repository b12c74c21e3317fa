import SourceOutline.Proofs.Decimal.Integer
import SourceOutline.Proofs.Yaml.PlainSection

/-! Whole numbers in a YAML text. Decimal digits have the form of a whole number and of nothing else, so a
number that is not too long denotes itself where it stands as a plain scalar. -/
namespace SourceOutline.Yaml

section Digits
variable {c : Char} {text : List Char} {n : ℕ}

lemma isWord_toDigits (n : ℕ) : IsWord (Nat.toDigits 10 n) := by
  have hdigits := Decimal.forall_isDigit_toDigits n
  refine ⟨Nat.toDigits_ne_nil,?_,?_⟩
  · intro c hc
    exact Decimal.of_isDigit (p := fun c => isWordChar c = true) (by decide) (hdigits c hc)
  · intro hhead
    exact absurd (hdigits '-' (List.mem_of_head? hhead)) (by decide)

lemma isDigit_of_isDigit (h : c.isDigit = true) : isDigit c = true :=
  Decimal.of_isDigit (p := fun c => isDigit c = true) (by decide) h

lemma ne_of_isDigit {d : Char} (h : c.isDigit = true) (hd : d.isDigit = false) : c ≠ d := by
  rintro rfl
  rw [h] at hd
  cases hd

lemma splitAt_of_not_mem {mark : Char} (h : mark ∉ text) : splitAt mark text = [text] := by
  induction text with
  | nil => rfl
  | cons c text ih =>
    rw [List.mem_cons, not_or] at h
    rw [splitAt, ih h.2]
    exact if_neg (Ne.symm h.1)

lemma dropSign_of_digits (h : ∀ c ∈ text, c.isDigit = true) : dropSign text = text := by
  unfold dropSign
  split
  · exact absurd (h '-' List.mem_cons_self) (by decide)
  · exact absurd (h '+' List.mem_cons_self) (by decide)
  · rfl

/-- A word with a character that is no digit is not a run of digits. -/
lemma beq_digits (h : ∀ c ∈ text, c.isDigit = true) {w : List Char} (hw : w.all Char.isDigit = false) :
    (w == text) = false := by
  refine beq_eq_false_iff_ne.mpr ?_
  rintro rfl
  rw [List.all_eq_true.mpr h] at hw
  cases hw

lemma hasFloatForm_of_digits (h : ∀ c ∈ text, c.isDigit = true) : hasFloatForm text = false := by
  have hwords : ∀ words : List String, (∀ w ∈ words, w.toList.all Char.isDigit = false) →
      words.any (·.toList == text) = false := by
    intro words hno
    exact List.any_eq_false.mpr fun w hw => by simp [beq_digits h (hno w hw)]
  cases text with
  | nil => rfl
  | cons c rest =>
    obtain ⟨hc,hrest⟩ := List.forall_mem_cons.mp h
    have hpoint : c ≠ '.' := ne_of_isDigit hc (by decide)
    have hbars : rest.dropWhile isDigitOrBar = [] :=
      List.dropWhile_eq_nil_iff.mpr fun d hd => by rw [isDigitOrBar, isDigit_of_isDigit (hrest d hd)]; rfl
    simp only [hasFloatForm, dropSign_of_digits h, hbars, hwords [".inf", ".Inf", ".INF"] (by decide),
      hwords [".nan", ".NaN", ".NAN"] (by decide), Bool.and_false, Bool.or_false]
    split
    · rename_i heq
      exact absurd (List.cons.inj heq).1 hpoint
    · rfl

lemma hasIntForm_toDigits (n : ℕ) : hasIntForm (Nat.toDigits 10 n) = true := by
  have hdigits := Decimal.forall_isDigit_toDigits n
  rcases Nat.eq_zero_or_pos n with rfl | hn
  · rfl
  · have hnought := Decimal.head?_toDigits hn
    rw [hasIntForm, dropSign_of_digits hdigits]
    split
    · rename_i heq
      exact absurd (congrArg List.head? heq) hnought
    · rename_i heq
      exact absurd (congrArg List.head? heq) hnought
    · rename_i heq
      exact absurd (congrArg List.head? heq) hnought
    · rename_i c rest _ _ _ heq
      rw [heq] at hdigits
      obtain ⟨hc,hrest⟩ := List.forall_mem_cons.mp hdigits
      have hcolon : ':' ∉ rest := fun hmem => absurd (hrest ':' hmem) (by decide)
      have hbars : rest.all isDigitOrBar = true :=
        List.all_eq_true.mpr fun d hd => by rw [isDigitOrBar, isDigit_of_isDigit (hrest d hd)]; rfl
      rw [splitAt_of_not_mem hcolon, isDigit_of_isDigit hc]
      simp [hbars]
    · rename_i heq
      exact absurd heq Nat.toDigits_ne_nil

lemma ofForm_toDigits (n : ℕ) : Tag.ofForm (Nat.toDigits 10 n) = .int := by
  have hdigits := Decimal.forall_isDigit_toDigits n
  have hbody : dropLastBreak (Nat.toDigits 10 n) = Nat.toDigits 10 n := by
    rw [dropLastBreak, if_neg]
    exact fun hlast => absurd (hdigits '\n' (List.mem_of_getLast? hlast)) (by decide)
  have hbool : boolWords.any (·.1.toList == Nat.toDigits 10 n) = false := by
    have hno : ∀ w ∈ boolWords, w.1.toList.all Char.isDigit = false := by decide
    exact List.any_eq_false.mpr fun w hw => by simp [beq_digits hdigits (hno w hw)]
  have hne : (Nat.toDigits 10 n).isEmpty = false := List.isEmpty_eq_false_iff.mpr Nat.toDigits_ne_nil
  simp only [Tag.ofForm, hbody, hbool, hne, hasFloatForm_of_digits hdigits, hasIntForm_toDigits]
  rfl

lemma not_mem_map_char (h : ∀ c ∈ text, c.isDigit = true) (hc : c.isDigit = false) :
    Text.Symbol.char c ∉ text.map .char := by
  intro hmem
  obtain ⟨d,hd,heq⟩ := List.mem_map.mp hmem
  exact ne_of_isDigit (h d hd) hc (Text.Symbol.char.inj heq)

lemma head?_of_map_char {rest : List Text.Symbol} (h : text.map .char = .char c :: rest) :
    text.head? = some c := by
  cases text with
  | nil => cases h
  | cons d text =>
    cases h
    rfl

lemma takeSign_of_digits (h : ∀ c ∈ text, c.isDigit = true) (hnil : text ≠ []) :
    takeSign (text.map .char) = .ok (false, text.map .char) := by
  unfold takeSign
  split
  · rename_i heq
    exact absurd (List.map_eq_nil_iff.mp heq) hnil
  · rename_i heq
    exact absurd (h '-' (List.mem_of_head? (head?_of_map_char heq))) (by decide)
  · rename_i heq
    exact absurd (h '+' (List.mem_of_head? (head?_of_map_char heq))) (by decide)
  · rfl

/-- Without a nought in front the digits are in base ten. -/
lemma unsignedInt_of_digits (h : ∀ c ∈ text, c.isDigit = true) (hnil : text ≠ [])
    (hnought : text.head? ≠ some '0') : unsignedInt (text.map .char) = intIn 10 (text.map .char) := by
  have hcolon : (text.map Text.Symbol.char).contains (.char ':') = false :=
    Bool.eq_false_iff.mpr fun hmem => not_mem_map_char h (by decide) (List.contains_iff_mem.mp hmem)
  unfold unsignedInt
  split
  · rename_i heq
    exact absurd (List.map_eq_nil_iff.mp heq) hnil
  · rename_i heq
    exact absurd (head?_of_map_char heq) hnought
  · rename_i heq
    exact absurd (head?_of_map_char heq) hnought
  · rename_i heq
    exact absurd (head?_of_map_char heq) hnought
  · rename_i heq
    exact absurd (head?_of_map_char heq) hnought
  · rw [hcolon, if_neg Bool.false_ne_true]

lemma intOf_toDigits (n : ℕ) (hlength : (Nat.toDigits 10 n).length ≤ Decimal.mostDigits) :
    intOf ((Nat.toDigits 10 n).map .char) = .ok n := by
  rcases Nat.eq_zero_or_pos n with rfl | hn
  · rfl
  · have hdigits := Decimal.forall_isDigit_toDigits n
    have hbars : withoutBars ((Nat.toDigits 10 n).map .char) = (Nat.toDigits 10 n).map .char :=
      List.filter_eq_self.mpr fun s hs => bne_iff_ne.mpr fun heq =>
        not_mem_map_char hdigits (by decide) (heq ▸ hs)
    have hread : intIn 10 ((Nat.toDigits 10 n).map .char) = .ok n := by
      simp only [intIn, chars?_map_char, Decimal.readInteger_toDigits n hlength]
    rw [intOf, hbars, takeSign_of_digits hdigits Nat.toDigits_ne_nil]
    change (unsignedInt ((Nat.toDigits 10 n).map .char) >>= _) = _
    rw [unsignedInt_of_digits hdigits Nat.toDigits_ne_nil (Decimal.head?_toDigits hn), hread]
    rfl

/-- Decimal digits mean the number that they were written for. -/
theorem means_toDigits (n : ℕ) (hlength : (Nat.toDigits 10 n).length ≤ Decimal.mostDigits) :
    Means (Nat.toDigits 10 n) (.int n) := by
  intro place
  rw [ofForm_toDigits]
  simp only [scalarAtom, intOf_toDigits n hlength]
  rfl

end Digits

end SourceOutline.Yaml

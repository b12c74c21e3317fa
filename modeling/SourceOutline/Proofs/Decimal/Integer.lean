import Mathlib.Data.List.Basic
import Mathlib.Data.List.TakeWhile
import SourceOutline.Decimal.Integer

/-! Whole numbers that are read as they were written: decimal digits, no nought in front, and not too many
of them. -/
namespace SourceOutline.Decimal

section Digits
variable {c : Char} {text : List Char} {n : ℕ}

/-- What holds of the ten digits holds of all digits. -/
lemma of_isDigit {p : Char → Prop} (h : ∀ d < 10, p (Char.ofNat (48 + d))) (hc : c.isDigit = true) :
    p c := by
  obtain ⟨hleast,hmost⟩ : 48 ≤ c.toNat ∧ c.toNat ≤ 57 := Char.isDigit_iff_toNat.mp hc
  have hdigit := h (c.toNat - 48) (by omega)
  rwa [Nat.add_sub_cancel' hleast, Char.ofNat_toNat] at hdigit

lemma digitChar_ne_nought : ∀ d, d < 10 → 0 < d → Nat.digitChar d ≠ '0' := by decide

/-- A number other than nought is written without a nought in front. -/
lemma head?_toDigits (hn : 0 < n) : (Nat.toDigits 10 n).head? ≠ some '0' := by
  induction n using Nat.strongRecOn with
  | ind n ih =>
    rcases Nat.lt_or_ge n 10 with hlt | hge
    · rw [Nat.toDigits_of_lt_base hlt, List.head?_cons]
      exact fun h => digitChar_ne_nought n hlt hn (Option.some.inj h)
    · have hrest := ih (n / 10) (by omega) (by omega)
      rw [Nat.toDigits_of_base_le (by decide) hge, List.head?_append]
      cases hhead : (Nat.toDigits 10 (n / 10)).head? with
      | none => exact absurd (List.head?_eq_none_iff.mp hhead) Nat.toDigits_ne_nil
      | some c => simpa [hhead] using hrest

lemma forall_isDigit_toDigits (n : ℕ) : ∀ c ∈ Nat.toDigits 10 n, c.isDigit = true :=
  fun _ hc => Nat.isDigit_of_mem_toDigits (by decide) (by decide) hc

/-- What holds of the ten digits holds of all characters of a number. -/
lemma forall_mem_repr {p : Char → Prop} (h : ∀ d < 10, p (Char.ofNat (48 + d))) (n : ℕ) :
    ∀ c ∈ (Nat.repr n).toList, p c := by
  rw [Nat.toList_repr]
  exact fun c hc => of_isDigit h (forall_isDigit_toDigits n c hc)

lemma digitsValue_eq (h : ∀ c ∈ text, c.isDigit = true) :
    digitsValue 10 text = Nat.ofDigitChars 10 text 0 := by
  rw [digitsValue, Nat.ofDigitChars]
  refine List.foldl_ext _ _ _ fun n c hc => ?_
  have hvalue : digitValue? c = some (c.toNat - '0'.toNat) :=
    of_isDigit (p := fun c => digitValue? c = some (c.toNat - '0'.toNat)) (by decide) (h c hc)
  rw [hvalue]
  rfl

lemma underscoresOk_of_not_mem (h : '_' ∉ text) : underscoresOk text = true := by
  have hhead : text.head? ≠ some '_' := fun heq => h (List.mem_of_head? heq)
  have hlast : text.getLast? ≠ some '_' := fun heq => h (List.mem_of_getLast? heq)
  have hpairs : ∀ ab ∈ text.zip text.tail, (ab.1 != '_' || ab.2 != '_') = true := by
    rintro ⟨a,b⟩ hab
    have ha : a ≠ '_' := fun heq => h (heq ▸ (List.of_mem_zip hab).1)
    rw [bne_iff_ne.mpr ha, Bool.true_or]
  rw [underscoresOk, bne_iff_ne.mpr hhead, bne_iff_ne.mpr hlast, List.all_eq_true.mpr hpairs]
  rfl

/-- A run of digits is read up to its end. -/
lemma readDigits_of_digits (h : ∀ c ∈ text, c.isDigit = true) (hnil : text ≠ [])
    (hlength : text.length ≤ mostDigits) : readDigits 10 text = .ok (Nat.ofDigitChars 10 text 0) := by
  have hbar : '_' ∉ text := fun hmem => absurd (h '_' hmem) (by decide)
  have hrun : ∀ c ∈ text, (isDigitIn 10 c || c == '_') = true := fun c hc =>
    of_isDigit (p := fun c => (isDigitIn 10 c || c == '_') = true) (by decide) (h c hc)
  have hdigits : text.filter (· != '_') = text :=
    List.filter_eq_self.mpr fun c hc => bne_iff_ne.mpr fun heq => hbar (heq ▸ hc)
  have hne : text.isEmpty = false := List.isEmpty_eq_false_iff.mpr hnil
  simp only [readDigits, List.takeWhile_eq_self_iff.mpr hrun, List.dropWhile_eq_nil_iff.mpr hrun, hdigits, hne,
    underscoresOk_of_not_mem hbar, digitsValue_eq h]
  rw [if_neg (by decide), if_neg (by omega)]
  rfl

lemma dropBaseMark_ten (text : List Char) : dropBaseMark 10 text = text := by
  unfold dropBaseMark
  split
  · exact if_neg (by simp)
  · rfl

/-- Decimal digits are read as the number that they were written for. -/
theorem readInteger_toDigits (n : ℕ) (hlength : (Nat.toDigits 10 n).length ≤ mostDigits) :
    readInteger 10 (Nat.toDigits 10 n) = .ok n := by
  have hdigits := forall_isDigit_toDigits n
  have hplain : (Nat.toDigits 10 n).map plain = Nat.toDigits 10 n := by
    refine (List.map_congr_left fun c hc => ?_).trans (List.map_id _)
    exact of_isDigit (p := fun c => plain c = id c) (by decide) (hdigits c hc)
  have hblank : (Nat.toDigits 10 n).dropWhile Text.isBlank = Nat.toDigits 10 n := by
    obtain ⟨c,rest,hcons⟩ := List.exists_cons_of_ne_nil (Nat.toDigits_ne_nil : Nat.toDigits 10 n ≠ [])
    have hc : Text.isBlank c = false :=
      of_isDigit (p := fun c => Text.isBlank c = false) (by decide)
        (hdigits c (hcons ▸ List.mem_cons_self))
    rw [hcons, List.dropWhile_cons_of_neg (by rw [hc]; decide)]
  rw [readInteger, hplain, hblank]
  split
  · rename_i rest hsign
    exact absurd (hdigits '-' (hsign ▸ List.mem_cons_self)) (by decide)
  · rename_i rest hsign
    exact absurd (hdigits '+' (hsign ▸ List.mem_cons_self)) (by decide)
  · rw [dropBaseMark_ten, readDigits_of_digits hdigits Nat.toDigits_ne_nil hlength,
      Nat.ofDigitChars_ten_toDigits]
    rfl

end Digits

end SourceOutline.Decimal

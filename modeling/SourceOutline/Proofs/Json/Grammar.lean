import Mathlib.Data.List.Basic
import Mathlib.Tactic.SplitIfs
import SourceOutline.Json.Reader
import SourceOutline.Json.Writer
import SourceOutline.Proofs.Decimal.Integer

/-! The grammar of JSON, which says of a text what value it denotes, in any layout. What is written for a
value is a text in ASCII that denotes the value. -/
namespace SourceOutline.Json

/-- What may stand around the parts of a text. -/
def IsBlanks (text : List Char) : Prop := ∀ c ∈ text, isBlank c = true

/-- The ways in which a character may stand in a quoted text. -/
inductive DenotesChar : List Char → Char → Prop
  | itself {c : Char} (hcontrol : 0x20 ≤ c.toNat) (hquote : c ≠ '"') (hbackslash : c ≠ '\\') :
      DenotesChar [c] c
  | short {letter c : Char} (h : simpleEscape? letter = some c) : DenotesChar ['\\', letter] c
  | unit {a b c d : Char} {n : ℕ} (h : hexUnit? a b c d = some n) (hn : n < 0xD800 ∨ 0xE000 ≤ n) :
      DenotesChar ['\\', 'u', a, b, c, d] (Char.ofNat n)
  | pair {a b c d a' b' c' d' : Char} {high low : ℕ} (hhigh : hexUnit? a b c d = some high)
      (hlow : hexUnit? a' b' c' d' = some low) (hhigh' : 0xD800 ≤ high ∧ high < 0xDC00)
      (hlow' : 0xDC00 ≤ low ∧ low < 0xE000) :
      DenotesChar ['\\', 'u', a, b, c, d, '\\', 'u', a', b', c', d']
        (Char.ofNat (0x10000 + (high - 0xD800) * 0x400 + (low - 0xDC00)))

/-- A text as it stands between quotes. -/
inductive DenotesText : List Char → List Char → Prop
  | nil : DenotesText [] []
  | cons {written rest text : List Char} {c : Char} (hc : DenotesChar written c)
      (h : DenotesText rest text) : DenotesText (written ++ rest) (c :: text)

structure IsDigits (digits : List Char) : Prop where
  ne_nil : digits ≠ []
  isDigit : ∀ c ∈ digits, c.isDigit = true

/-- Digits without a nought in front of others. -/
structure IsWhole (digits : List Char) : Prop extends IsDigits digits where
  length_of_nought : digits.head? = some '0' → digits.length = 1

/-- A fraction and its digits, none if there is no fraction. -/
inductive DenotesFraction : List Char → List Char → Prop
  | none : DenotesFraction [] []
  | some {digits : List Char} (h : IsDigits digits) : DenotesFraction ('.' :: digits) digits

/-- An exponent and its value, if there is one. -/
inductive DenotesExponent : List Char → Option Int → Prop
  | none : DenotesExponent [] none
  | unsigned {mark : Char} {digits : List Char} (hmark : mark = 'e' ∨ mark = 'E') (h : IsDigits digits) :
      DenotesExponent (mark :: digits) (some (Nat.ofDigitChars 10 digits 0))
  | positive {mark : Char} {digits : List Char} (hmark : mark = 'e' ∨ mark = 'E') (h : IsDigits digits) :
      DenotesExponent (mark :: '+' :: digits) (some (Nat.ofDigitChars 10 digits 0))
  | negative {mark : Char} {digits : List Char} (hmark : mark = 'e' ∨ mark = 'E') (h : IsDigits digits) :
      DenotesExponent (mark :: '-' :: digits) (some (-(Nat.ofDigitChars 10 digits 0 : Int)))

/-- The value of a number that is given by its parts. -/
def number (negative : Bool) (whole fraction : List Char) (exponent : Option Int) : Json :=
  if fraction = [] ∧ exponent = none then
    int (if negative then -(Nat.ofDigitChars 10 whole 0 : Int) else Nat.ofDigitChars 10 whole 0)
  else
    decimal negative (Nat.ofDigitChars 10 (whole ++ fraction) 0) (exponent.getD 0 - fraction.length)

/-- A number behind its sign. -/
inductive DenotesNumber (negative : Bool) : List Char → Json → Prop
  | parts {whole fraction exponent digits : List Char} {e : Option Int} (hwhole : IsWhole whole)
      (hfraction : DenotesFraction fraction digits) (hexponent : DenotesExponent exponent e) :
      DenotesNumber negative (whole ++ (fraction ++ exponent)) (number negative whole digits e)

mutual

/-- A text without blanks at its ends, and its value. -/
inductive Denotes : List Char → Json → Prop
  | null : Denotes ['n', 'u', 'l', 'l'] null
  | true : Denotes ['t', 'r', 'u', 'e'] (bool true)
  | false : Denotes ['f', 'a', 'l', 's', 'e'] (bool false)
  | positive {text : List Char} {v : Json} (h : DenotesNumber Bool.false text v) : Denotes text v
  | negative {text : List Char} {v : Json} (h : DenotesNumber Bool.true text v) : Denotes ('-' :: text) v
  | str {written text : List Char} (h : DenotesText written text) :
      Denotes ('"' :: written ++ ['"']) (str (String.ofList text))
  | emptyArr {blanks : List Char} (h : IsBlanks blanks) : Denotes ('[' :: blanks ++ [']']) (arr [])
  | arr {text : List Char} {vs : List Json} (h : DenotesItems text vs) :
      Denotes ('[' :: text ++ [']']) (arr vs)
  | emptyObj {blanks : List Char} (h : IsBlanks blanks) : Denotes ('{' :: blanks ++ ['}']) (obj [])
  | obj {text : List Char} {entries : List (String × Json)} (h : DenotesEntries text entries) :
      Denotes ('{' :: text ++ ['}']) (obj entries)

/-- The items of an array, at least one. -/
inductive DenotesItems : List Char → List Json → Prop
  | one {before text after : List Char} {v : Json} (hbefore : IsBlanks before) (h : Denotes text v)
      (hafter : IsBlanks after) : DenotesItems (before ++ (text ++ after)) [v]
  | cons {before text after rest : List Char} {v : Json} {vs : List Json} (hbefore : IsBlanks before)
      (h : Denotes text v) (hafter : IsBlanks after) (hrest : DenotesItems rest vs) :
      DenotesItems (before ++ (text ++ (after ++ ',' :: rest))) (v :: vs)

/-- An entry of an object. -/
inductive DenotesEntry : List Char → String × Json → Prop
  | mk {before written key between middle text after : List Char} {v : Json} (hbefore : IsBlanks before)
      (hkey : DenotesText written key) (hbetween : IsBlanks between) (hmiddle : IsBlanks middle)
      (h : Denotes text v) (hafter : IsBlanks after) :
      DenotesEntry (before ++ '"' :: (written ++ '"' :: (between ++ ':' :: (middle ++ (text ++ after)))))
        (String.ofList key, v)

/-- The entries of an object, at least one. -/
inductive DenotesEntries : List Char → List (String × Json) → Prop
  | one {text : List Char} {entry : String × Json} (h : DenotesEntry text entry) :
      DenotesEntries text [entry]
  | cons {text rest : List Char} {entry : String × Json} {entries : List (String × Json)}
      (h : DenotesEntry text entry) (hrest : DenotesEntries rest entries) :
      DenotesEntries (text ++ ',' :: rest) (entry :: entries)

end

/-- A whole text, with blanks at its ends. -/
def IsText (text : List Char) (v : Json) : Prop :=
  ∃ before inner after, text = before ++ (inner ++ after) ∧ IsBlanks before ∧ Denotes inner v ∧
    IsBlanks after

section Digits

lemma isDigits_toDigits (n : ℕ) : IsDigits (Nat.toDigits 10 n) :=
  ⟨Nat.toDigits_ne_nil,Decimal.forall_isDigit_toDigits n⟩

lemma isWhole_toDigits (n : ℕ) : IsWhole (Nat.toDigits 10 n) := by
  refine ⟨isDigits_toDigits n,?_⟩
  intro hnought
  rcases Nat.eq_zero_or_pos n with rfl | hpos
  · rfl
  · exact absurd hnought (Decimal.head?_toDigits hpos)

/-- A whole number, which has neither a fraction nor an exponent. -/
lemma denotesNumber_toDigits (negative : Bool) (n : ℕ) :
    DenotesNumber negative (Nat.toDigits 10 n) (int (if negative then -(n : Int) else n)) := by
  have h : DenotesNumber negative _ _ := .parts (isWhole_toDigits n) .none .none
  simpa [number, Nat.ofDigitChars_toDigits] using h

lemma denotes_writeInt (i : Int) : Denotes (writeInt i) (int i) := by
  cases i with
  | ofNat n => exact .positive (denotesNumber_toDigits false n)
  | negSucc n => exact .negative (denotesNumber_toDigits true (n + 1))

lemma denotesExponent_writeInt (i : Int) : DenotesExponent ('e' :: writeInt i) (some i) := by
  cases i with
  | ofNat n =>
    have h := DenotesExponent.unsigned (Or.inl rfl) (isDigits_toDigits n)
    rw [Nat.ofDigitChars_toDigits (by decide) (by decide)] at h
    exact h
  | negSucc n =>
    have h := DenotesExponent.negative (Or.inl rfl) (isDigits_toDigits (n + 1))
    rw [Nat.ofDigitChars_toDigits (by decide) (by decide)] at h
    exact h

lemma denotes_writeDecimal (negative : Bool) (digits : ℕ) (scale : Int) :
    Denotes (writeDecimal negative digits scale) (decimal negative digits scale) := by
  have h : DenotesNumber negative _ _ :=
    .parts (isWhole_toDigits digits) .none (denotesExponent_writeInt scale)
  rw [number, List.append_nil, Nat.ofDigitChars_toDigits (by decide) (by decide)] at h
  cases negative with
  | false => exact .positive (by simpa [writeDecimal] using h)
  | true => exact .negative (by simpa [writeDecimal] using h)

end Digits

section Quoted

lemma hexValue?_digitChar : ∀ n, n < 16 → hexValue? (Nat.digitChar n) = some n := by decide

/-- A UTF-16 unit is written as four digits that have its value. -/
lemma exists_hex4_eq {n : ℕ} (hn : n < 0x10000) : ∃ a b c d, hex4 n = [a, b, c, d] ∧
    hexUnit? a b c d = some n := by
  refine ⟨_,_,_,_,rfl,?_⟩
  have hsum : ((n / 4096 % 16 * 16 + n / 256 % 16) * 16 + n / 16 % 16) * 16 + n % 16 = n := by omega
  simp [hexUnit?, hexValue?_digitChar, Nat.mod_lt, hsum]

lemma denotesChar_escapeUnit {n : ℕ} (hn : n < 0x10000) (h : n < 0xD800 ∨ 0xE000 ≤ n) :
    DenotesChar (escapeUnit n) (Char.ofNat n) := by
  obtain ⟨a,b,c,d,hwritten,hvalue⟩ := exists_hex4_eq hn
  rw [escapeUnit, hwritten]
  exact .unit hvalue h

/-- A character behind the first 65536 ones is written as two units. -/
lemma denotesChar_escapePair {n : ℕ} (hn : n < 0x100000) :
    DenotesChar (escapeUnit (0xD800 + n / 0x400) ++ escapeUnit (0xDC00 + n % 0x400))
      (Char.ofNat (0x10000 + n)) := by
  obtain ⟨a,b,c,d,hwritten,hhigh⟩ := exists_hex4_eq (n := 0xD800 + n / 0x400) (by omega)
  obtain ⟨a',b',c',d',hwritten',hlow⟩ := exists_hex4_eq (n := 0xDC00 + n % 0x400) (by omega)
  have hsum : 0x10000 + (0xD800 + n / 0x400 - 0xD800) * 0x400 + (0xDC00 + n % 0x400 - 0xDC00) =
      0x10000 + n := by omega
  have h := DenotesChar.pair hhigh hlow (by omega) (by omega)
  rw [hsum] at h
  rw [escapeUnit, escapeUnit, hwritten, hwritten']
  exact h

lemma denotesChar_escape (c : Char) : DenotesChar (escape c) c := by
  have hvalid : c.toNat < 0xD800 ∨ 0xDFFF < c.toNat ∧ c.toNat < 0x110000 := c.valid
  rw [escape]
  split_ifs with hquote hbackslash h h h h h hplain hunit
  any_goals
    subst_vars
    exact .short rfl
  · exact .itself hplain.1 hquote hbackslash
  · have hchar := denotesChar_escapeUnit hunit (by omega)
    rwa [Char.ofNat_toNat] at hchar
  · have hchar := denotesChar_escapePair (n := c.toNat - 0x10000) (by omega)
    rwa [Nat.add_sub_cancel' (Nat.le_of_not_lt hunit), Char.ofNat_toNat] at hchar

theorem denotesText_escape (text : List Char) : DenotesText (text.flatMap escape) text := by
  induction text with
  | nil => exact .nil
  | cons c text ih => exact .cons (denotesChar_escape c) ih

lemma denotes_quote (text : String) : Denotes (quote text.toList) (str text) := by
  have h := Denotes.str (denotesText_escape text.toList)
  rwa [String.ofList_toList] at h

end Quoted

section Layout

lemma isBlanks_nil : IsBlanks [] := by simp [IsBlanks]

lemma isBlanks_space : IsBlanks [' '] := by simp [IsBlanks, isBlank]

lemma isBlanks_newline (indent : ℕ) : IsBlanks (newline indent) := by
  simp only [IsBlanks, newline, List.forall_mem_cons]
  exact ⟨by decide,fun c hc => by rw [List.eq_of_mem_replicate hc]; decide⟩

mutual

/-- What is written for a value denotes it. -/
theorem denotes_write : ∀ (indent : ℕ) (v : Json), Denotes (write indent v) v
  | _, null => by rw [write]; exact .null
  | _, bool true => by rw [write]; exact .true
  | _, bool false => by rw [write]; exact .false
  | _, int i => by rw [write]; exact denotes_writeInt i
  | _, decimal negative digits scale => by rw [write]; exact denotes_writeDecimal negative digits scale
  | _, str text => by rw [write]; exact denotes_quote text
  | _, arr [] => by rw [write]; exact .emptyArr isBlanks_nil
  | indent, arr (v :: vs) => by
    have hitems := denotes_writeItems (indent + 1) vs (denotes_write (indent + 1) v)
      (isBlanks_newline indent)
    rw [write]
    simpa only [List.append_assoc, List.cons_append, List.nil_append] using Denotes.arr hitems
  | _, obj [] => by rw [write]; exact .emptyObj isBlanks_nil
  | indent, obj ((k, v) :: entries) => by
    have hentries := denotes_writeEntries (indent + 1) entries k (denotes_write (indent + 1) v)
      (isBlanks_newline indent)
    rw [write]
    simpa only [List.append_assoc, List.cons_append, List.nil_append] using Denotes.obj hentries

/-- The items of an array, from a new line on: a first one and those that are written after it. -/
theorem denotes_writeItems : ∀ (indent : ℕ) (vs : List Json) {v : Json} {text after : List Char},
    Denotes text v → IsBlanks after →
    DenotesItems (newline indent ++ (text ++ (writeItems indent vs ++ after))) (v :: vs)
  | indent, [], _, _, _, h, hafter => by
    rw [writeItems]
    exact .one (isBlanks_newline indent) h hafter
  | indent, w :: vs, _, _, _, h, hafter => by
    have hrest := denotes_writeItems indent vs (denotes_write indent w) hafter
    rw [writeItems]
    simpa only [List.append_assoc, List.cons_append, List.nil_append] using
      DenotesItems.cons (isBlanks_newline indent) h isBlanks_nil hrest

/-- The entries of an object, likewise. -/
theorem denotes_writeEntries : ∀ (indent : ℕ) (entries : List (String × Json)) (k : String) {v : Json}
    {text after : List Char}, Denotes text v → IsBlanks after →
    DenotesEntries (newline indent ++ (quote k.toList ++ (':' :: ' ' :: (text ++
      (writeEntries indent entries ++ after))))) ((k, v) :: entries)
  | indent, [], k, v, text, after, h, hafter => by
    have hentry := DenotesEntry.mk (isBlanks_newline indent) (denotesText_escape k.toList) isBlanks_nil
      isBlanks_space h hafter
    rw [String.ofList_toList] at hentry
    rw [writeEntries, quote]
    simpa only [List.append_assoc, List.cons_append, List.nil_append] using DenotesEntries.one hentry
  | indent, (l, w) :: entries, k, v, text, after, h, hafter => by
    have hentry := DenotesEntry.mk (isBlanks_newline indent) (denotesText_escape k.toList) isBlanks_nil
      isBlanks_space h isBlanks_nil
    have hrest := denotes_writeEntries indent entries l (denotes_write indent w) hafter
    rw [String.ofList_toList] at hentry
    rw [writeEntries, quote]
    simpa only [List.append_assoc, List.cons_append, List.nil_append] using
      DenotesEntries.cons hentry hrest

end

end Layout

section Ascii

/-- All characters are among the first 128 ones. -/
def IsAscii (text : List Char) : Prop := ∀ c ∈ text, c.toNat < 0x80

@[simp] lemma isAscii_nil : IsAscii [] := by simp [IsAscii]

@[simp] lemma isAscii_cons {c : Char} {text : List Char} :
    IsAscii (c :: text) ↔ c.toNat < 0x80 ∧ IsAscii text := List.forall_mem_cons

@[simp] lemma isAscii_append {xs ys : List Char} : IsAscii (xs ++ ys) ↔ IsAscii xs ∧ IsAscii ys :=
  List.forall_mem_append

@[simp] lemma isAscii_newline (indent : ℕ) : IsAscii (newline indent) := by
  rw [newline, isAscii_cons]
  exact ⟨by decide,fun c hc => by rw [List.eq_of_mem_replicate hc]; decide⟩

@[simp] lemma isAscii_toDigits (n : ℕ) : IsAscii (Nat.toDigits 10 n) := by
  intro c hc
  have hdigit := Char.isDigit_iff_toNat.mp ((isDigits_toDigits n).isDigit c hc)
  exact Nat.lt_of_le_of_lt hdigit.2 (by decide)

@[simp] lemma isAscii_writeInt (i : Int) : IsAscii (writeInt i) := by
  cases i <;> simp [writeInt]

lemma digitChar_lt : ∀ n, n < 16 → (Nat.digitChar n).toNat < 0x80 := by decide

@[simp] lemma isAscii_escapeUnit (n : ℕ) : IsAscii (escapeUnit n) := by
  simp [escapeUnit, hex4, digitChar_lt, Nat.mod_lt]

/-- What is no ASCII is escaped. -/
lemma isAscii_escape (c : Char) : IsAscii (escape c) := by
  rw [escape]
  split_ifs with h h h h h h h hplain
  all_goals simp
  omega

@[simp] lemma isAscii_quote (text : List Char) : IsAscii (quote text) := by
  have hbody : IsAscii (text.flatMap escape) := by
    intro c hc
    obtain ⟨d,-,hd⟩ := List.mem_flatMap.mp hc
    exact isAscii_escape d c hd
  simp [quote, hbody]

mutual

theorem isAscii_write : ∀ (indent : ℕ) (v : Json), IsAscii (write indent v)
  | _, null => by simp [write]
  | _, bool true => by simp [write]
  | _, bool false => by simp [write]
  | _, int i => by simp [write]
  | _, decimal negative digits scale => by cases negative <;> simp [write, writeDecimal]
  | _, str text => by simp [write]
  | _, arr [] => by simp [write]
  | indent, arr (v :: vs) => by
    simp [write, isAscii_write (indent + 1) v, isAscii_writeItems (indent + 1) vs]
  | _, obj [] => by simp [write]
  | indent, obj ((k, v) :: entries) => by
    simp [write, isAscii_write (indent + 1) v, isAscii_writeEntries (indent + 1) entries]

theorem isAscii_writeItems : ∀ (indent : ℕ) (vs : List Json), IsAscii (writeItems indent vs)
  | _, [] => by simp [writeItems]
  | indent, v :: vs => by
    simp [writeItems, isAscii_write indent v, isAscii_writeItems indent vs]

theorem isAscii_writeEntries : ∀ (indent : ℕ) (entries : List (String × Json)),
    IsAscii (writeEntries indent entries)
  | _, [] => by simp [writeEntries]
  | indent, (k, v) :: entries => by
    simp [writeEntries, isAscii_write indent v, isAscii_writeEntries indent entries]

end

end Ascii

lemma isAscii_render (v : Json) : IsAscii (v.render ++ "\n").toList := by
  simp [render, isAscii_write]

/-- A value is written as a text that denotes it; a new line may follow. -/
theorem isText_render (v : Json) : IsText (v.render ++ "\n").toList v := by
  refine ⟨[],write 0 v,['\n'],?_,isBlanks_nil,denotes_write 0 v,by simp [IsBlanks, isBlank]⟩
  simp [render]

end SourceOutline.Json

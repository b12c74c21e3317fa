import SourceOutline.Proofs.Json.Grammar

/-! Reading JSON. Every text of the grammar is read as the value that it denotes, in whatever layout; so
what is written is read back. -/
namespace SourceOutline.Json

section Blanks

lemma skipBlanks_append {blanks : List Char} (h : IsBlanks blanks) (text : List Char) :
    skipBlanks (blanks ++ text) = skipBlanks text := List.dropWhile_append_of_pos h

lemma skipBlanks_cons {c : Char} (h : isBlank c = false) (text : List Char) :
    skipBlanks (c :: text) = c :: text := by
  rw [skipBlanks, List.dropWhile_cons_of_neg (by simp [h])]

lemma skipBlanks_append_cons {blanks : List Char} (h : IsBlanks blanks) {c : Char}
    (hc : isBlank c = false) (text : List Char) : skipBlanks (blanks ++ c :: text) = c :: text := by
  rw [skipBlanks_append h, skipBlanks_cons hc]

/-- Blanks in front of a value do not count. -/
lemma readValue_append {blanks : List Char} (h : IsBlanks blanks) (fuel : ℕ) (text : List Char) :
    readValue fuel (blanks ++ text) = readValue fuel text := by
  cases fuel with
  | zero => rw [readValue, readValue]
  | succ fuel => rw [readValue, readValue, skipBlanks_append h]

end Blanks

section Quoted

lemma readText_of_denotesChar {written : List Char} {c : Char} (h : DenotesChar written c)
    (rest found : List Char) : readText (written ++ rest) found = readText rest (c :: found) := by
  cases h with
  | itself hcontrol hquote hbackslash =>
    rw [List.singleton_append, readText, if_neg (by simp [hbackslash, hcontrol])]
    all_goals simp [hquote, hbackslash]
  | short h =>
    simp only [List.cons_append, List.nil_append]
    rw [readText, h]
    · rfl
    · -- there is no escape of two characters that starts like one of six
      rintro _ _ _ _ _ rfl
      cases h
  | unit h hn =>
    simp only [List.cons_append, List.nil_append]
    rw [readText, h]
    simp only [Option.bind_eq_bind, Option.bind_some]
    rw [if_neg (by omega), if_neg (by omega)]
  | pair hhigh hlow hhigh' hlow' =>
    simp only [List.cons_append, List.nil_append]
    rw [readText, hhigh]
    simp only [Option.bind_eq_bind, Option.bind_some]
    rw [if_pos hhigh', hlow, Option.bind_some, if_pos hlow']

/-- A text is read up to the quote that ends it. -/
theorem readText_of_denotesText {written text : List Char} (h : DenotesText written text)
    (rest found : List Char) :
    readText (written ++ '"' :: rest) found = some (found.reverse ++ text, rest) := by
  induction h generalizing found with
  | nil => rw [List.nil_append, readText, List.append_nil]
  | cons hc _ ih => rw [List.append_assoc, readText_of_denotesChar hc, ih]; simp

end Quoted

section Numbers

/-- No number goes on with this text. -/
def EndsNumber (text : List Char) : Prop :=
  ∀ c ∈ text.head?, c.isDigit = false ∧ c ≠ '.' ∧ c ≠ 'e' ∧ c ≠ 'E'

/-- Only the first character counts. -/
lemma endsNumber_cons {c : Char} (h : EndsNumber [c]) (text : List Char) : EndsNumber (c :: text) := h

/-- A number ends at a blank. -/
lemma endsNumber_append {blanks text : List Char} (hblanks : IsBlanks blanks) (h : EndsNumber text) :
    EndsNumber (blanks ++ text) := by
  cases blanks with
  | nil => exact h
  | cons c blanks =>
    have hblank := hblanks c List.mem_cons_self
    simp only [isBlank, Bool.or_eq_true, beq_iff_eq] at hblank
    refine endsNumber_cons ?_ _
    rcases hblank with ((rfl | rfl) | rfl) | rfl <;> simp [EndsNumber]

lemma splitDigits_append {digits rest : List Char} (h : IsDigits digits)
    (hrest : ∀ c ∈ rest.head?, c.isDigit = false) : splitDigits (digits ++ rest) = (digits, rest) := by
  rw [splitDigits, List.takeWhile_append_of_pos h.isDigit, List.dropWhile_append_of_pos h.isDigit]
  cases rest with
  | nil => simp
  | cons c rest => simp [hrest c rfl]

lemma readFraction_of_denotes {text digits rest : List Char} (h : DenotesFraction text digits)
    (hrest : ∀ c ∈ rest.head?, c.isDigit = false ∧ c ≠ '.') :
    readFraction (text ++ rest) = some (digits, rest) := by
  cases h with
  | none =>
    cases rest with
    | nil => rfl
    | cons c rest =>
      rw [List.nil_append, readFraction]
      simp [(hrest c rfl).2]
  | some h =>
    rw [List.cons_append, readFraction, splitDigits_append h fun c hc => (hrest c hc).1]
    simp [h.ne_nil]

lemma readExponent_of_denotes {text rest : List Char} {e : Option Int} (h : DenotesExponent text e)
    (hrest : EndsNumber rest) : readExponent (text ++ rest) = some (e, rest) := by
  have hdigit : ∀ c ∈ rest.head?, c.isDigit = false := fun c hc => (hrest c hc).1
  cases h with
  | none =>
    cases rest with
    | nil => rfl
    | cons c rest =>
      obtain ⟨-,-,hmark⟩ := hrest c rfl
      simp [readExponent, hmark]
  | @unsigned mark digits hmark h =>
    obtain ⟨d,ds,rfl⟩ := List.exists_cons_of_ne_nil h.ne_nil
    have hd := h.isDigit d List.mem_cons_self
    have hsplit := splitDigits_append h hdigit
    rw [List.cons_append] at hsplit
    rw [List.cons_append, List.cons_append, readExponent, if_pos hmark]
    · simp [hsplit]
    -- a digit is no sign
    all_goals
      rintro _ heq
      cases heq
      revert hd
      decide
  | positive hmark h =>
    rw [List.cons_append, List.cons_append, readExponent, if_pos hmark]
    simp [splitDigits_append h hdigit, h.ne_nil]
  | negative hmark h =>
    rw [List.cons_append, List.cons_append, readExponent, if_pos hmark]
    simp [splitDigits_append h hdigit, h.ne_nil]

lemma head?_exponent {text rest : List Char} {e : Option Int} (h : DenotesExponent text e)
    (hrest : EndsNumber rest) : ∀ c ∈ (text ++ rest).head?, c.isDigit = false ∧ c ≠ '.' := by
  intro c hc
  cases h with
  | none => exact ⟨(hrest c hc).1,(hrest c hc).2.1⟩
  | _ hmark h =>
    cases hc
    rcases hmark with rfl | rfl <;> decide

lemma head?_fraction {text digits rest : List Char} (h : DenotesFraction text digits)
    (hrest : ∀ c ∈ rest.head?, c.isDigit = false) : ∀ c ∈ (text ++ rest).head?, c.isDigit = false := by
  intro c hc
  cases h with
  | none => exact hrest c hc
  | some h =>
    cases hc
    rfl

/-- A number is read up to where it ends. -/
theorem readNumber_of_denotes {negative : Bool} {text rest : List Char} {v : Json}
    (h : DenotesNumber negative text v) (hrest : EndsNumber rest) :
    readNumber negative (text ++ rest) = some (v, rest) := by
  obtain @⟨whole,fraction,exponent,digits,e,hwhole,hfraction,hexponent⟩ := h
  have hexp := head?_exponent hexponent hrest
  have hsplit := splitDigits_append hwhole.toIsDigits
    (head?_fraction hfraction fun c hc => (hexp c hc).1)
  have hguard : ¬(whole.isEmpty = true ∨ whole.length > 1 ∧ whole.head? = some '0') := by
    rintro (hempty | ⟨hlength,hnought⟩)
    · exact hwhole.ne_nil (List.isEmpty_iff.mp hempty)
    · have := hwhole.length_of_nought hnought
      omega
  rw [List.append_assoc, List.append_assoc, readNumber, hsplit]
  simp only [Option.bind_eq_bind, if_neg hguard, readFraction_of_denotes hfraction hexp, Option.bind_some,
    readExponent_of_denotes hexponent hrest]
  rw [number]
  by_cases hint : digits = [] ∧ e = none
  · obtain ⟨rfl,rfl⟩ := hint
    simp
  · have : ¬(digits.isEmpty = true ∧ e.isNone = true) := by simpa using hint
    rw [if_neg this, if_neg hint]
    rfl

end Numbers

section Values

lemma exists_digit_of_denotes {negative : Bool} {text : List Char} {v : Json}
    (h : DenotesNumber negative text v) : ∃ d more, text = d :: more ∧ d.isDigit = true := by
  obtain ⟨hwhole,-,-⟩ := h
  obtain ⟨d,ds,rfl⟩ := List.exists_cons_of_ne_nil hwhole.ne_nil
  exact ⟨d,_,rfl,hwhole.isDigit d List.mem_cons_self⟩

lemma digit_ne {d : Char} (h : d.isDigit = true) : isBlank d = false ∧ d ≠ ']' ∧ d ≠ 'n' ∧ d ≠ 't' ∧
    d ≠ 'f' ∧ d ≠ '"' ∧ d ≠ '[' ∧ d ≠ '{' ∧ d ≠ '-' := by
  refine ⟨?_,?_,?_,?_,?_,?_,?_,?_,?_⟩
  · by_contra hblank
    simp only [isBlank, Bool.not_eq_false, Bool.or_eq_true, beq_iff_eq] at hblank
    rcases hblank with ((rfl | rfl) | rfl) | rfl <;> revert h <;> decide
  all_goals
    rintro rfl
    revert h
    decide

/-- A value starts with no blank and does not end an array. -/
lemma exists_head_of_denotes {text : List Char} {v : Json} (h : Denotes text v) :
    ∃ c more, text = c :: more ∧ isBlank c = false ∧ c ≠ ']' := by
  cases h with
  | positive h =>
    obtain ⟨d,more,rfl,hd⟩ := exists_digit_of_denotes h
    exact ⟨d,more,rfl,(digit_ne hd).1,(digit_ne hd).2.1⟩
  | _ => exact ⟨_,_,rfl,by decide,by decide⟩

lemma readValue_digit {d : Char} (h : d.isDigit = true) (fuel : ℕ) (text : List Char) :
    readValue (fuel + 1) (d :: text) = readNumber false (d :: text) := by
  have hd := digit_ne h
  rw [readValue, skipBlanks_cons hd.1]
  split <;> simp_all

lemma readValue_minus (fuel : ℕ) (text : List Char) :
    readValue (fuel + 1) ('-' :: text) = readNumber true text := by
  rw [readValue, skipBlanks_cons (by decide)]
  simp only

lemma readValue_quote (fuel : ℕ) (text : List Char) : readValue (fuel + 1) ('"' :: text) =
    (readText text []).map fun (chars, rest) => (str (String.ofList chars), rest) := by
  rw [readValue, skipBlanks_cons (by decide)]
  simp only
  cases readText text [] <;> rfl

lemma readValue_emptyArr {blanks : List Char} (h : IsBlanks blanks) (fuel : ℕ) (rest : List Char) :
    readValue (fuel + 1) ('[' :: (blanks ++ ']' :: rest)) = some (arr [], rest) := by
  rw [readValue, skipBlanks_cons (by decide)]
  simp only [skipBlanks_append_cons h (by decide : isBlank ']' = false)]

lemma readValue_emptyObj {blanks : List Char} (h : IsBlanks blanks) (fuel : ℕ) (rest : List Char) :
    readValue (fuel + 1) ('{' :: (blanks ++ '}' :: rest)) = some (obj [], rest) := by
  rw [readValue, skipBlanks_cons (by decide)]
  simp only [skipBlanks_append_cons h (by decide : isBlank '}' = false)]

lemma readValue_arr {text : List Char} (h : (skipBlanks text).head? ≠ some ']') (fuel : ℕ) :
    readValue (fuel + 1) ('[' :: text) =
      (readItems fuel text []).map fun (items, rest) => (arr items, rest) := by
  rw [readValue, skipBlanks_cons (by decide)]
  simp only
  split
  · next heq => simp [heq] at h
  · cases readItems fuel text [] <;> rfl

lemma readValue_obj {text : List Char} (h : (skipBlanks text).head? ≠ some '}') (fuel : ℕ) :
    readValue (fuel + 1) ('{' :: text) =
      (readEntries fuel text []).map fun (entries, rest) => (obj entries, rest) := by
  rw [readValue, skipBlanks_cons (by decide)]
  simp only
  split
  · next heq => simp [heq] at h
  · cases readEntries fuel text [] <;> rfl

lemma head?_items {text : List Char} {vs : List Json} (h : DenotesItems text vs) (rest : List Char) :
    (skipBlanks (text ++ rest)).head? ≠ some ']' := by
  cases h with
  | _ hbefore h =>
    obtain ⟨c,more,rfl,hblank,hc⟩ := exists_head_of_denotes h
    rw [List.append_assoc, List.cons_append, List.cons_append, skipBlanks_append_cons hbefore hblank]
    simpa using hc

lemma head?_entries {text : List Char} {entries : List (String × Json)} (h : DenotesEntries text entries)
    (rest : List Char) : (skipBlanks (text ++ rest)).head? ≠ some '}' := by
  cases h with
  | _ h =>
    obtain ⟨hbefore⟩ := h
    simp only [List.append_assoc, List.cons_append]
    rw [skipBlanks_append_cons hbefore (by decide)]
    simp

/-- A bound above the length of a value is enough to read it. -/
def ReadsValues (fuel : ℕ) : Prop :=
  ∀ ⦃text rest : List Char⦄ ⦃v : Json⦄, Denotes text v → text.length < fuel → EndsNumber rest →
    readValue fuel (text ++ rest) = some (v, rest)

lemma ReadsValues.padded {fuel : ℕ} (hreads : ReadsValues fuel) {before text after rest : List Char}
    {v : Json} {c : Char} (hbefore : IsBlanks before) (h : Denotes text v) (hafter : IsBlanks after)
    (hfuel : text.length < fuel) (hc : EndsNumber [c]) :
    readValue fuel (before ++ (text ++ (after ++ c :: rest))) = some (v, after ++ c :: rest) := by
  rw [readValue_append hbefore]
  exact hreads h hfuel (endsNumber_append hafter (endsNumber_cons hc rest))

lemma readItems_of_denotes {fuel : ℕ} (hreads : ∀ m < fuel, ReadsValues m) {text rest : List Char}
    {vs found : List Json} (h : DenotesItems text vs) (hfuel : text.length + 1 < fuel) :
    readItems fuel (text ++ ']' :: rest) found = some (found.reverse ++ vs, rest) := by
  induction fuel generalizing text vs found with
  | zero => omega
  | succ fuel ih =>
    have hvalue : ReadsValues fuel := hreads fuel (by omega)
    cases h with
    | one hbefore h hafter =>
      simp only [List.length_append] at hfuel
      rw [List.append_assoc, List.append_assoc, readItems,
        hvalue.padded hbefore h hafter (by omega) (by simp [EndsNumber])]
      simp only [Option.bind_eq_bind, Option.bind_some]
      rw [skipBlanks_append_cons hafter (by decide)]
      simp
    | cons hbefore h hafter hvs =>
      simp only [List.length_append, List.length_cons] at hfuel
      rw [List.append_assoc, List.append_assoc, List.append_assoc, List.cons_append, readItems,
        hvalue.padded hbefore h hafter (by omega) (by simp [EndsNumber])]
      simp only [Option.bind_eq_bind, Option.bind_some]
      rw [skipBlanks_append_cons hafter (by decide)]
      simp [ih (fun m hm => hreads m (by omega)) hvs (by omega)]

/-- An entry with the value in it, and then what ends it. -/
lemma readEntries_entry {fuel : ℕ} (hreads : ReadsValues fuel) {text rest : List Char} {c : Char}
    {entry : String × Json} {found : List (String × Json)} :
    DenotesEntry text entry → text.length < fuel → c = ',' ∨ c = '}' →
    readEntries (fuel + 1) (text ++ c :: rest) found =
      if c = ',' then readEntries fuel rest (entry :: found)
      else some ((entry :: found).reverse, rest) := by
  rintro ⟨hbefore,hkey,hbetween,hmiddle,h,hafter⟩ hfuel hc
  simp only [List.length_append, List.length_cons] at hfuel
  simp only [List.append_assoc, List.cons_append]
  rw [readEntries, skipBlanks_append_cons hbefore (by decide)]
  simp only [readText_of_denotesText hkey, Option.bind_eq_bind, Option.bind_some]
  rw [skipBlanks_append_cons hbetween (by decide)]
  simp only
  rcases hc with rfl | rfl
  all_goals
    rw [hreads.padded hmiddle h hafter (by omega) (by simp [EndsNumber])]
    simp only [Option.bind_some]
    rw [skipBlanks_append_cons hafter (by decide)]
    simp

lemma readEntries_of_denotes {fuel : ℕ} (hreads : ∀ m < fuel, ReadsValues m) {text rest : List Char}
    {entries found : List (String × Json)} (h : DenotesEntries text entries)
    (hfuel : text.length + 1 < fuel) :
    readEntries fuel (text ++ '}' :: rest) found = some (found.reverse ++ entries, rest) := by
  induction fuel generalizing text entries found with
  | zero => omega
  | succ fuel ih =>
    have hvalue : ReadsValues fuel := hreads fuel (by omega)
    cases h with
    | one h =>
      rw [readEntries_entry hvalue h (by omega) (Or.inr rfl)]
      simp
    | cons h hrest =>
      simp only [List.length_append, List.length_cons] at hfuel
      rw [List.append_assoc, List.cons_append, readEntries_entry hvalue h (by omega) (Or.inl rfl),
        if_pos rfl, ih (fun m hm => hreads m (by omega)) hrest (by omega)]
      simp

/-- What stands between two brackets, with what follows them. -/
lemma bracketed_append (opening closing : Char) (text rest : List Char) :
    opening :: text ++ [closing] ++ rest = opening :: (text ++ closing :: rest) := by
  simp

/-- Each value is read up to its end, and so are those in it: reading goes down with the bound. -/
theorem readsValues (fuel : ℕ) : ReadsValues fuel := by
  induction fuel using Nat.strongRecOn with
  | ind fuel ih =>
    intro text rest v h hfuel hrest
    obtain ⟨fuel,rfl⟩ := Nat.exists_eq_succ_of_ne_zero (Nat.ne_of_gt (Nat.zero_lt_of_lt hfuel))
    have hreads : ∀ m < fuel, ReadsValues m := fun m hm => ih m (by omega)
    cases h with
    | null => rw [readValue]; rfl
    | true => rw [readValue]; rfl
    | false => rw [readValue]; rfl
    | positive h =>
      have hnumber := readNumber_of_denotes h hrest
      obtain ⟨d,more,rfl,hd⟩ := exists_digit_of_denotes h
      exact (readValue_digit hd _ _).trans hnumber
    | negative h => exact (readValue_minus _ _).trans (readNumber_of_denotes h hrest)
    | str h =>
      rw [bracketed_append, readValue_quote, readText_of_denotesText h]
      rfl
    | emptyArr h =>
      rw [bracketed_append, readValue_emptyArr h]
    | arr h =>
      simp only [List.length_cons, List.length_append, List.length_nil] at hfuel
      rw [bracketed_append, readValue_arr (head?_items h _), readItems_of_denotes hreads h (by omega)]
      rfl
    | emptyObj h =>
      rw [bracketed_append, readValue_emptyObj h]
    | obj h =>
      simp only [List.length_cons, List.length_append, List.length_nil] at hfuel
      rw [bracketed_append, readValue_obj (head?_entries h _),
        readEntries_of_denotes hreads h (by omega)]
      rfl

theorem read?_of_isText {text : List Char} {v : Json} (h : IsText text v) : read? text = some v := by
  obtain ⟨before,inner,after,rfl,hbefore,h,hafter⟩ := h
  have hends : EndsNumber (after ++ []) := endsNumber_append hafter (by simp [EndsNumber])
  have hskip : skipBlanks (after ++ []) = [] := skipBlanks_append hafter []
  rw [List.append_nil] at hends hskip
  simp only [read?, readValue_append hbefore]
  rw [readsValues _ h (by simp only [List.length_append]; omega) hends]
  simp [hskip]

/-- A text has one meaning. -/
theorem IsText.unique {text : List Char} {v w : Json} (hv : IsText text v) (hw : IsText text w) : v = w := by
  have hread := read?_of_isText hv
  rw [read?_of_isText hw] at hread
  exact (Option.some.inj hread).symm

end Values

end SourceOutline.Json

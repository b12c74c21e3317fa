import Mathlib.Data.Int.Notation
import Mathlib.Data.Nat.Notation
import Mathlib.Tactic.SplitIfs
import SourceOutline.Proofs.Yaml.Source
import SourceOutline.Yaml.TokenStream

/-! How a section of plain lines is cut into tokens. A section is a word with a colon and below it, each on
a line of its own behind a margin, words with a colon and one word more; the tokens of the two mappings
stand where the lines and the margin were. -/
namespace SourceOutline.Yaml

/-- A word that no indicator starts. -/
structure IsWord (w : List Char) : Prop where
  ne_nil : w ≠ []
  isWordChar : ∀ x ∈ w, isWordChar x = true
  head : w.head? ≠ some '-'

instance (w : List Char) : Decidable (IsWord w) :=
  decidable_of_iff (w ≠ [] ∧ w.all isWordChar = true ∧ w.head? ≠ some '-')
    ⟨fun ⟨h,h',h''⟩ => ⟨h,List.all_eq_true.mp h',h''⟩,fun ⟨h,h',h''⟩ => ⟨h,List.all_eq_true.mpr h',h''⟩⟩

/-- The lines of a section below its name, each with a line break in front of it. -/
def lines (margin : ℕ) (lastBreak : Bool) : List (List Char × List Char) → List Char
  | [] => if lastBreak then ['\n'] else []
  | (key, value) :: entries => '\n' :: (List.replicate margin ' ' ++
      (key ++ ':' :: ' ' :: (value ++ lines margin lastBreak entries)))

/-- A section as a text, with or without a line break behind its last line. -/
def sectionText (name : List Char) (margin : ℕ) (lastBreak : Bool) (entries : List (List Char × List Char)) :
    List Char :=
  name ++ ':' :: lines margin lastBreak entries

/-- The tokens of a key and its value. -/
def entryTokens (entry : List Char × List Char) : List Token.Kind :=
  [.key, .scalar (entry.1.map .char) true, .value, .scalar (entry.2.map .char) true]

/-- The tokens of what a section holds. A section without entries has no mapping of its own. -/
def valueTokens (entries : List (List Char × List Char)) : List Token.Kind :=
  if entries = [] then [] else .blockMappingStart :: entries.flatMap entryTokens ++ [.blockEnd]

/-- The tokens of a section: those of its name and of what it holds, with a mapping around them. -/
def sectionTokens (name : List Char) (entries : List (List Char × List Char)) : List Token.Kind :=
  .blockMappingStart :: .key :: .scalar (name.map .char) true :: .value :: (valueTokens entries ++ [.blockEnd])

section Chars
variable {x y : Char}

lemma toNat_lt_of_isWordChar (h : isWordChar x = true) : x.toNat < 128 := by
  have hcases : ((x.isUpper = true ∨ x.isLower = true) ∨ x.isDigit = true) ∨ x = '-' ∨ x = '_' := by
    change (((x.isUpper || x.isLower) || x.isDigit) || x == '-' || x == '_') = true at h
    simpa only [Bool.or_eq_true, beq_iff_eq, or_assoc] using h
  have hle {y : Char} (hxy : x.val ≤ y.val) : x.toNat ≤ y.toNat := UInt32.le_iff_toNat_le.mp hxy
  rcases hcases with ((hupper | hlower) | hdigit) | rfl | rfl
  · exact Nat.lt_of_le_of_lt (hle (of_decide_eq_true hupper).2) (by decide)
  · exact Nat.lt_of_le_of_lt (hle (of_decide_eq_true (Bool.and_eq_true_iff.mp hlower).2)) (by decide)
  · exact Nat.lt_of_le_of_lt (Char.isDigit_iff_toNat.mp hdigit).2 (by decide)
  · decide
  · decide

/-- What holds of the word characters among the first 128 ones holds of all word characters. -/
lemma of_isWordChar {p : Char → Prop} (h : ∀ n < 128, isWordChar (Char.ofNat n) = true → p (Char.ofNat n))
    (hx : isWordChar x = true) : p x := by
  have hcode := h x.toNat (toNat_lt_of_isWordChar hx)
  rw [Char.ofNat_toNat] at hcode
  exact hcode hx

lemma isSpace_of_isWordChar (hx : isWordChar x = true) : isSpace x = false :=
  of_isWordChar (p := fun x => isSpace x = false) (by decide +kernel) hx

lemma isBreak_of_isWordChar (hx : isWordChar x = true) : isBreak x = false :=
  of_isWordChar (p := fun x => isBreak x = false) (by decide +kernel) hx

lemma isAllowed_of_isWordChar (hx : isWordChar x = true) : isAllowed x = true :=
  of_isWordChar (p := fun x => isAllowed x = true) (by decide +kernel) hx

lemma ne_of_isWordChar (hx : isWordChar x = true) (hy : isWordChar y = false) : x ≠ y := by
  rintro rfl
  rw [hx] at hy
  cases hy

/-- A word character starts a plain scalar, unless it is a hyphen. -/
lemma isPlainStart_of_isWordChar (hx : isWordChar x = true) (hhyphen : x ≠ '-') :
    TokenStream.isPlainStart x = true :=
  of_isWordChar (p := fun x => x ≠ '-' → TokenStream.isPlainStart x = true) (by decide +kernel) hx hhyphen

end Chars

/-- No blank, comment or line break stands at the start of a text. -/
def StartsToken (rest : List Char) : Prop :=
  ∀ x ∈ rest.head?, x ≠ ' ' ∧ x ≠ '#' ∧ isBreak x = false

lemma startsToken_nil : StartsToken [] := nofun

lemma startsToken_colon (rest : List Char) : StartsToken (':' :: rest) := by
  rintro x ⟨⟩
  decide

lemma startsToken_word {w : List Char} (hw : IsWord w) (rest : List Char) : StartsToken (w ++ rest) := by
  obtain ⟨hnil,hchars,-⟩ := hw
  obtain ⟨y,w,rfl⟩ := List.exists_cons_of_ne_nil hnil
  have hy := hchars y List.mem_cons_self
  rintro x ⟨⟩
  exact ⟨ne_of_isWordChar hy (by decide),ne_of_isWordChar hy (by decide),isBreak_of_isWordChar hy⟩

namespace Cursor
variable {rest w : List Char} {i l column n : ℕ}

lemma past_inline {x : Char} (hbreak : isBreak x = false) (hmark : x ≠ '\uFEFF') :
    (⟨x :: rest, i, l, column, none⟩ : Cursor).past = ⟨rest, i + 1, l, column + 1, none⟩ := by
  simp [past, hbreak, hmark]

lemma pastAll_inline (h : ∀ x ∈ w, isBreak x = false ∧ x ≠ '\uFEFF') :
    (⟨w ++ rest, i, l, column, none⟩ : Cursor).pastAll w.length =
      ⟨rest, i + w.length, l, column + w.length, none⟩ := by
  induction w generalizing i column with
  | nil => rfl
  | cons x w ih =>
    obtain ⟨hx,hw⟩ := List.forall_mem_cons.mp h
    rw [List.length_cons, pastAll, List.cons_append, past_inline hx.1 hx.2, ih hw]
    simp only [Cursor.mk.injEq, true_and, and_true]
    omega

lemma skip_word (hw : IsWord w) : (⟨w ++ rest, i, l, column, none⟩ : Cursor).skip w.length =
    .ok ⟨rest, i + w.length, l, column + w.length, none⟩ := by
  rw [skip_of_cut rfl, pastAll_inline fun x hx => ⟨isBreak_of_isWordChar (hw.isWordChar x hx),
    ne_of_isWordChar (hw.isWordChar x hx) (by decide)⟩]

lemma takeWhile_blanks (h : StartsToken rest) :
    (List.replicate n ' ' ++ rest).takeWhile (· == ' ') = List.replicate n ' ' := by
  have hrest : rest.takeWhile (· == ' ') = [] := by
    cases rest with
    | nil => rfl
    | cons x rest => exact List.takeWhile_cons_of_neg (by simpa using (h x rfl).1)
  rw [List.takeWhile_append_of_pos (by simp), hrest, List.append_nil]

lemma run_blanks (h : StartsToken rest) :
    (⟨List.replicate n ' ' ++ rest, i, l, column, none⟩ : Cursor).run (· == ' ') =
      .ok (List.replicate n ' ', ⟨rest, i + n, l, column + n, none⟩) := by
  have hinline : ∀ x ∈ List.replicate n ' ', isBreak x = false ∧ x ≠ '\uFEFF' := by
    intro x hx
    rw [List.eq_of_mem_replicate hx]
    decide
  rw [run_of_cut rfl, takeWhile_blanks h, pastAll_inline hinline, List.length_replicate]

lemma skipBlanks_blanks (h : StartsToken rest) :
    (⟨List.replicate n ' ' ++ rest, i, l, column, none⟩ : Cursor).skipBlanks =
      .ok ⟨rest, i + n, l, column + n, none⟩ := by
  rw [skipBlanks, run_blanks h]
  rfl

lemma skipComment_blanks (h : StartsToken rest) :
    (⟨List.replicate n ' ' ++ rest, i, l, column, none⟩ : Cursor).skipComment =
      .ok ⟨rest, i + n, l, column + n, none⟩ := by
  have hno : rest.head? ≠ some '#' := fun hx => (h '#' hx).2.1 rfl
  rw [skipComment, skipBlanks_blanks h]
  exact if_neg hno

lemma lineBreak_of_startsToken (h : StartsToken rest) :
    (⟨rest, i, l, column, none⟩ : Cursor).lineBreak = .ok ([], ⟨rest, i, l, column, none⟩) := by
  cases rest with
  | nil => rfl
  | cons x rest => simp [lineBreak, (h x rfl).2.2]

lemma lineBreak_newline : (⟨'\n' :: rest, i, l, column, none⟩ : Cursor).lineBreak =
    .ok (['\n'], ⟨rest, i + 1, l + 1, 0, none⟩) := by
  have hbreak : isBreak '\n' = true := rfl
  simp only [lineBreak, hbreak, if_true, next_of_cut]
  rfl

lemma plainRun_word (hw : ∀ x ∈ w, isWordChar x = true) (hrest : plainRun false rest = 0) :
    plainRun false (w ++ rest) = w.length := by
  induction w with
  | nil => exact hrest
  | cons x w ih =>
    obtain ⟨hx,hw⟩ := List.forall_mem_cons.mp hw
    have hcolon : x ≠ ':' := ne_of_isWordChar hx (by decide)
    simp [plainRun, isSpace_of_isWordChar hx, hcolon, ih hw]

lemma plainSpaces_of_startsToken (h : StartsToken rest) :
    (⟨rest, i, l, column, none⟩ : Cursor).plainSpaces = .ok ([], false, ⟨rest, i, l, column, none⟩) := by
  have hblanks : (⟨rest, i, l, column, none⟩ : Cursor).run (· == ' ') =
      .ok ([], ⟨rest, i, l, column, none⟩) := run_blanks (n := 0) h
  simp only [plainSpaces, hblanks, bind, Except.bind, lineBreak_of_startsToken h]
  rfl

lemma plainBreaks_blanks {fuel : ℕ} (h : StartsToken rest) :
    plainBreaks (fuel + 1) ⟨List.replicate n ' ' ++ rest, i, l, column, none⟩ [] =
      .ok (some [], ⟨rest, i + n, l, column + n, none⟩) := by
  simp only [plainBreaks, skipBlanks_blanks h, bind, Except.bind, lineBreak_of_startsToken h]
  rfl

/-- A line break with the margin behind it counts as one blank. -/
lemma plainSpaces_newline (h : StartsToken rest)
    (hmarker : startsWithMarker (List.replicate n ' ' ++ rest) = false) :
    (⟨'\n' :: (List.replicate n ' ' ++ rest), i, l, column, none⟩ : Cursor).plainSpaces =
      .ok ([' '], true, ⟨rest, i + 1 + n, l + 1, n, none⟩) := by
  have hblanks : (⟨'\n' :: (List.replicate n ' ' ++ rest), i, l, column, none⟩ : Cursor).run (· == ' ') =
      .ok ([], ⟨'\n' :: (List.replicate n ' ' ++ rest), i, l, column, none⟩) := run_of_cut rfl _
  simp only [plainSpaces, hblanks, bind, Except.bind, lineBreak_newline, atMarker_of_cut, hmarker,
    Bool.false_eq_true, if_false, plainBreaks_blanks h, Nat.zero_add]
  rfl

/-- A word is a plain scalar if nothing but blanks that end it is behind it. -/
lemma plain_word {indent : ℤ} {spaces : List Char} {broken : Bool} {c : Cursor} (hw : IsWord w)
    (hrest : plainRun false rest = 0)
    (hspaces : (⟨rest, i + w.length, l, column + w.length, none⟩ : Cursor).plainSpaces =
      .ok (spaces, broken, c))
    (hend : spaces = [] ∨ c.column < indent) :
    (⟨w ++ rest, i, l, column, none⟩ : Cursor).plain false indent =
      .ok (.scalar (w.map .char) true, broken, c) := by
  have hlength : w.length ≠ 0 := fun h => hw.ne_nil (List.length_eq_zero_iff.mp h)
  have hcomment : (w ++ rest).head? ≠ some '#' :=
    fun h => (startsToken_word hw rest '#' h).2.1 rfl
  have hstop : (spaces.isEmpty || decide (c.rest.head? = some '#') ||
      (!false && decide ((c.column : ℤ) < indent))) = true := by
    rcases hend with rfl | h
    · rfl
    · simp [h]
  have hlook : (⟨rest, i + w.length, l, column + w.length, none⟩ : Cursor).look 1 = .ok () :=
    look_of_cut rfl 1
  simp only [plain, plainText, plainRun_word hw.isWordChar hrest, hlength, hcomment, if_false,
    skip_word hw, bind, Except.bind, hlook, hspaces, hstop, if_true, ite_self, List.take_left]
  rfl

end Cursor

namespace TokenStream
variable {s : TokenStream} {x : Char} {rest : List Char}

lemma fetchAt_of_isWordChar (hx : isWordChar x = true) (hhyphen : x ≠ '-') :
    s.fetchAt x rest = s.fetchPlain := by
  have hne : ∀ y, isWordChar y = false → (x == y) = false :=
    fun y hy => beq_eq_false_iff_ne.mpr (ne_of_isWordChar hx hy)
  have hh : (x == '-') = false := beq_eq_false_iff_ne.mpr hhyphen
  simp only [fetchAt, hh, hne '%' (by decide), hne '.' (by decide), hne '[' (by decide), hne '{' (by decide),
    hne ']' (by decide), hne '}' (by decide), hne ',' (by decide), hne '?' (by decide), hne ':' (by decide),
    hne '*' (by decide), hne '&' (by decide), hne '!' (by decide), hne '|' (by decide), hne '>' (by decide),
    hne '\'' (by decide), hne '"' (by decide), startsPlain, isPlainStart_of_isWordChar hx hhyphen,
    Bool.true_or, Bool.false_and, Bool.false_eq_true, if_false, if_true]

lemma fetchAt_colon (h : endsWord rest = true) : s.fetchAt ':' rest = s.fetchValue := by
  simp [fetchAt, h]

section Next
variable {n i l column fuel : ℕ} {keyAllowed inFlow : Bool}

lemma toToken_blanks (h : StartsToken rest) :
    toToken inFlow (fuel + 1) ⟨List.replicate n ' ' ++ rest, i, l, column, none⟩ keyAllowed =
      .ok (⟨rest, i + n, l, column + n, none⟩, keyAllowed) := by
  simp only [toToken, Cursor.skipComment_blanks h, bind, Except.bind, Cursor.lineBreak_of_startsToken h]
  rfl

/-- A key may start behind a line break and a margin. -/
lemma toToken_newline (h : StartsToken rest) :
    toToken false (fuel + 2) ⟨'\n' :: (List.replicate n ' ' ++ rest), i, l, column, none⟩ keyAllowed =
      .ok (⟨rest, i + 1 + n, l + 1, n, none⟩, true) := by
  have hcomment : (⟨'\n' :: (List.replicate n ' ' ++ rest), i, l, column, none⟩ : Cursor).skipComment =
      .ok ⟨'\n' :: (List.replicate n ' ' ++ rest), i, l, column, none⟩ := by
    simp only [Cursor.skipComment, Cursor.skipBlanks, Cursor.run_of_cut]
    rfl
  rw [toToken, hcomment]
  simp only [bind, Except.bind, Cursor.lineBreak_newline]
  rw [toToken_blanks h, Nat.zero_add]
  simp

end Next

section Steps
variable {c c' : Cursor} {T : List Token} {indent : ℤ} {outers : List ℤ} {a a' : Bool}
  {k k' : Option KeyStart} {fuel : ℕ}

lemma closeBlocks_of_le {column : ℤ} (closing : Token) (h : indent ≤ column) :
    closeBlocks column closing indent outers T = (indent, outers, T) := by
  cases outers with
  | nil => rfl
  | cons outer outers => exact if_neg (by omega)

lemma expireKeys_of_expire (hkey : KeyStart.expire c k = .ok k) :
    (⟨c, T, indent, outers, a, k, []⟩ : TokenStream).expireKeys =
      .ok ⟨c, T, indent, outers, a, k, []⟩ := by
  simp only [expireKeys, hkey]
  rfl

lemma advance_of_toToken (hnext : toToken false (c.rest.length + 1) c a = .ok (c', a'))
    (hkey : KeyStart.expire c' k = .ok k) (hindent : indent ≤ c'.column) :
    (⟨c, T, indent, outers, a, k, []⟩ : TokenStream).advance =
      .ok ⟨c', T, indent, outers, a', k, []⟩ := by
  have hflow : (⟨c, T, indent, outers, a, k, []⟩ : TokenStream).inFlow = false := rfl
  simp only [advance, hflow, hnext, bind, Except.bind, expireKeys_of_expire hkey]
  change Except.ok (unindent _ _) = _
  rw [unindent, if_neg (by simp [inFlow])]
  simp only [closeBlocks_of_le _ hindent]

/-- A turn that adds a token, in a text that is not cut off. -/
lemma run_of_fetchAt {t : TokenStream} {x : Char} {rest : List Char} {i l column : ℕ}
    (hnext : toToken false (c.rest.length + 1) c a = .ok (⟨x :: rest, i, l, column, none⟩, a'))
    (hkey : KeyStart.expire ⟨x :: rest, i, l, column, none⟩ k = .ok k) (hindent : indent ≤ column)
    (hfetch : (⟨⟨x :: rest, i, l, column, none⟩, T, indent, outers, a', k, []⟩ : TokenStream).fetchAt x rest =
      .ok t)
    (hexpire : t.expireKeys = .ok t) :
    run (fuel + 1) ⟨c, T, indent, outers, a, k, []⟩ = run fuel t := by
  have hturn : (⟨c, T, indent, outers, a, k, []⟩ : TokenStream).fetch = .ok (t, none) := by
    simp only [fetch, advance_of_toToken hnext hkey hindent, bind, Except.bind, Cursor.look_of_cut, hfetch,
      hexpire]
    rfl
  simp only [run, hturn]

/-- A plain scalar is one token, and a key may have started with it if one was allowed there. -/
lemma run_word {w rest : List Char} {i l column : ℕ} {broken : Bool} {c'' : Cursor} (hw : IsWord w)
    (hnext : toToken false (c.rest.length + 1) c a = .ok (⟨w ++ rest, i, l, column, none⟩, a'))
    (hindent : indent ≤ column)
    (hplain : (⟨w ++ rest, i, l, column, none⟩ : Cursor).plain false (indent + 1) =
      .ok (.scalar (w.map .char) true, broken, c''))
    (hstart : k = if a' then some ⟨T.length, indent == column, i, ⟨l,column⟩⟩ else none)
    (hkey : KeyStart.expire c'' k = .ok k) :
    run (fuel + 1) ⟨c, T, indent, outers, a, none, []⟩ = run fuel
      ⟨c'', ⟨.scalar (w.map .char) true, ⟨l,column⟩, 0⟩ :: T, indent, outers, broken, k, []⟩ := by
  obtain ⟨hnil,hchars,hhyphen⟩ := hw
  obtain ⟨x,w,rfl⟩ := List.exists_cons_of_ne_nil hnil
  have hx : x ≠ '-' := fun h => hhyphen (by rw [h]; rfl)
  have hsave : (⟨⟨x :: w ++ rest, i, l, column, none⟩, T, indent, outers, a', none, []⟩ :
      TokenStream).saveKey = .ok ⟨⟨x :: w ++ rest, i, l, column, none⟩, T, indent, outers, a', k, []⟩ := by
    subst hstart
    cases a' <;> rfl
  have hfetch : (⟨⟨x :: w ++ rest, i, l, column, none⟩, T, indent, outers, a', none, []⟩ :
      TokenStream).fetchAt x (w ++ rest) = .ok ⟨c'', ⟨.scalar ((x :: w).map .char) true, ⟨l,column⟩, 0⟩ :: T,
        indent, outers, broken, k, []⟩ := by
    rw [fetchAt_of_isWordChar (hchars x List.mem_cons_self) hx, fetchPlain, hsave]
    simp only [bind, Except.bind, inFlow, List.isEmpty_nil, Bool.not_true, hplain]
    rfl
  exact run_of_fetchAt hnext rfl hindent hfetch (expireKeys_of_expire hkey)

lemma insertAfter_length (later : List Token) (place : Mark) (kind : Token.Kind) :
    (⟨c, later ++ T, indent, outers, a, k, []⟩ : TokenStream).insertAfter T.length place kind =
      ⟨c, later ++ ⟨kind, place, 0⟩ :: T, indent, outers, a, k, []⟩ := by
  have hlater : (later ++ T).length - T.length = later.length := by
    rw [List.length_append, Nat.add_sub_cancel]
  simp only [insertAfter, hlater, List.take_left, List.drop_left]

/-- The tokens with the start of a mapping that a key at a place opens, unless one is open at its column. -/
def withBlock (indent : ℤ) (place : Mark) (T : List Token) : List Token :=
  if indent < place.column then ⟨.blockMappingStart, place, 0⟩ :: T else T

/-- A mapping is opened for a key that stands further in than all mappings around it. -/
lemma openBlock_length (later : List Token) {place : Mark} (hindent : indent ≤ place.column) :
    (⟨c, later ++ T, indent, outers, a, k, []⟩ : TokenStream).openBlock place T.length .blockMappingStart =
      ⟨c, later ++ withBlock indent place T, place.column,
        if indent < place.column then indent :: outers else outers, a, k, []⟩ := by
  by_cases h : indent < place.column
  · simp only [openBlock, withBlock, h, if_true, insertAfter_length]
  · obtain rfl : indent = place.column := by omega
    simp only [openBlock, withBlock, h, if_false]

/-- The colon behind a word makes it a key. -/
lemma fetchValue_word {word : Token} {start : KeyStart} (hcut : c.cut = none)
    (hbefore : start.tokensBefore = T.length) (hindent : indent ≤ start.place.column) :
    (⟨c, word :: T, indent, outers, a, some start, []⟩ : TokenStream).fetchValue =
      .ok ⟨c.past,
        ⟨.value, c.mark, 1⟩ :: word :: ⟨.key, start.place, 0⟩ :: withBlock indent start.place T,
        start.place.column, if indent < start.place.column then indent :: outers else outers, false, none,
        []⟩ := by
  have hinsert : (⟨c, word :: T, indent, outers, a, some start, []⟩ : TokenStream).insertAfter
      T.length start.place .key =
        ⟨c, word :: ⟨.key, start.place, 0⟩ :: T, indent, outers, a, some start, []⟩ :=
    insertAfter_length [word] start.place .key
  have hopen : (⟨c, word :: ⟨.key, start.place, 0⟩ :: T, indent, outers, a, some start, []⟩ :
      TokenStream).openBlock start.place T.length .blockMappingStart =
        ⟨c, word :: ⟨.key, start.place, 0⟩ :: withBlock indent start.place T, start.place.column,
          if indent < start.place.column then indent :: outers else outers, a, some start, []⟩ :=
    openBlock_length [word, ⟨.key, start.place, 0⟩] hindent
  have hflow : (⟨c, word :: ⟨.key, start.place, 0⟩ :: T, indent, outers, a, some start, []⟩ :
      TokenStream).inFlow = false := rfl
  simp only [fetchValue, hbefore, hinsert, hflow, Bool.false_eq_true, if_false, hopen, indicator,
    Cursor.next_of_cut hcut]
  rfl

lemma run_colon {word : Token} {rest : List Char} {i i' l column column' : ℕ} {required : Bool}
    (hrest : endsWord rest = true) (hnear : i ≤ i' + 1024) (hindent : indent ≤ column')
    (hcolumn : column' ≤ column) :
    run (fuel + 1) ⟨⟨':' :: rest, i, l, column, none⟩, word :: T, indent, outers, false,
        some ⟨T.length, required, i', ⟨l,column'⟩⟩, []⟩ = run fuel
      ⟨⟨rest, i + 1, l, column + 1, none⟩,
        ⟨.value, ⟨l,column⟩, 1⟩ :: word :: ⟨.key, ⟨l,column'⟩, 0⟩ :: withBlock indent ⟨l,column'⟩ T, column',
        if indent < column' then indent :: outers else outers, false, none, []⟩ := by
  have hnext : toToken false ((':' :: rest).length + 1) ⟨':' :: rest, i, l, column, none⟩ false =
      .ok (⟨':' :: rest, i, l, column, none⟩, false) :=
    toToken_blanks (n := 0) (startsToken_colon rest)
  have hkey : KeyStart.expire ⟨':' :: rest, i, l, column, none⟩
      (some ⟨T.length, required, i', ⟨l,column'⟩⟩) = .ok (some ⟨T.length, required, i', ⟨l,column'⟩⟩) := by
    rw [KeyStart.expire, if_neg (by simp; omega)]
  refine run_of_fetchAt hnext hkey (Int.le_trans hindent (Int.ofNat_le.mpr hcolumn)) ?_
    (expireKeys_of_expire rfl)
  rw [fetchAt_colon hrest]
  exact fetchValue_word rfl rfl hindent

/-- A word with a colon behind it opens a mapping, unless one is open at its column, and is a key of it. -/
lemma run_key {w rest : List Char} {i l column : ℕ} (hw : IsWord w) (hlength : w.length ≤ 1024)
    (hrest : endsWord rest = true)
    (hnext : toToken false (c.rest.length + 1) c a = .ok (⟨w ++ ':' :: rest, i, l, column, none⟩, true))
    (hindent : indent ≤ column) :
    run (fuel + 2) ⟨c, T, indent, outers, a, none, []⟩ = run fuel
      ⟨⟨rest, i + w.length + 1, l, column + w.length + 1, none⟩,
        ⟨.value, ⟨l,column + w.length⟩, 1⟩ :: ⟨.scalar (w.map .char) true, ⟨l,column⟩, 0⟩ ::
          ⟨.key, ⟨l,column⟩, 0⟩ :: withBlock indent ⟨l,column⟩ T, column,
        if indent < column then indent :: outers else outers, false, none, []⟩ := by
  have hplain : (⟨w ++ ':' :: rest, i, l, column, none⟩ : Cursor).plain false (indent + 1) =
      .ok (.scalar (w.map .char) true, false, ⟨':' :: rest, i + w.length, l, column + w.length, none⟩) :=
    Cursor.plain_word hw (by simp [Cursor.plainRun, hrest])
      (Cursor.plainSpaces_of_startsToken (startsToken_colon rest)) (Or.inl rfl)
  have hkey : KeyStart.expire ⟨':' :: rest, i + w.length, l, column + w.length, none⟩
      (some ⟨T.length, indent == column, i, ⟨l,column⟩⟩) =
        .ok (some ⟨T.length, indent == column, i, ⟨l,column⟩⟩) := by
    rw [KeyStart.expire, if_neg (by simp; omega)]
  rw [run_word hw hnext hindent hplain (if_pos rfl).symm hkey, run_colon hrest (by omega) hindent (by omega)]

lemma closeBlocks_closeBlocks {column least : ℤ} (h : least ≤ column) (closing : Token) (T : List Token) :
    (closeBlocks least closing (closeBlocks column closing indent outers T).1
      (closeBlocks column closing indent outers T).2.1 (closeBlocks column closing indent outers T).2.2) =
        closeBlocks least closing indent outers T := by
  induction outers generalizing indent T with
  | nil => rfl
  | cons outer outers ih =>
    by_cases hin : column < indent
    · simp only [closeBlocks, hin, if_true, show least < indent by omega, ih]
    · simp only [closeBlocks, hin, if_false]

/-- At the end of the text all block collections are closed. -/
lemma run_end {i l column : ℕ}
    (hnext : toToken false (c.rest.length + 1) c a = .ok (⟨[], i, l, column, none⟩, a')) :
    run (fuel + 1) ⟨c, T, indent, outers, a, none, []⟩ =
      ⟨(closeBlocks (-1) ⟨.blockEnd, ⟨l,column⟩, 0⟩ indent outers T).2.2.reverse, .ok ⟨l,column⟩⟩ := by
  have hflow : (⟨c, T, indent, outers, a, none, []⟩ : TokenStream).inFlow = false := rfl
  have hadvance : (⟨c, T, indent, outers, a, none, []⟩ : TokenStream).advance =
      .ok (unindent ⟨⟨[], i, l, column, none⟩, T, indent, outers, a', none, []⟩ column) := by
    simp only [advance, hflow, hnext]
    rfl
  -- blocks are closed twice: those further in than the end, and then all that are left
  rw [run, fetch, hadvance]
  rw [← closeBlocks_closeBlocks (show (-1 : ℤ) ≤ (column : ℤ) by omega) ⟨.blockEnd, ⟨l,column⟩, 0⟩ T]
  rfl

end Steps

section Entries
variable {margin : ℕ} {lastBreak : Bool} {entries : List (List Char × List Char)} {i l column : ℕ}

/-- What comes next is the first one of some entries, or the end of the text if there are none. -/
def Faces (margin : ℕ) (lastBreak : Bool) (c : Cursor) (a : Bool) : List (List Char × List Char) → Prop
  | [] => ∃ i l column a', toToken false (c.rest.length + 1) c a = .ok (⟨[], i, l, column, none⟩, a')
  | (key, value) :: entries => ∃ i l, toToken false (c.rest.length + 1) c a =
      .ok (⟨key ++ ':' :: ' ' :: (value ++ lines margin lastBreak entries), i, l, margin, none⟩, true)

lemma faces_lines (hwords : ∀ e ∈ entries, IsWord e.1) (a : Bool) :
    Faces margin lastBreak ⟨lines margin lastBreak entries, i, l, column, none⟩ a entries := by
  cases entries with
  | nil =>
    cases lastBreak
    · exact ⟨_,_,_,_,toToken_blanks (n := 0) startsToken_nil⟩
    · exact ⟨_,_,_,_,toToken_newline (n := 0) startsToken_nil⟩
  | cons entry entries =>
    obtain ⟨key,value⟩ := entry
    have hkey := startsToken_word (hwords _ List.mem_cons_self)
      (':' :: ' ' :: (value ++ lines margin lastBreak entries))
    exact ⟨_,_,toToken_newline hkey⟩

/-- The scalar at the end of a line takes what is behind it, up to the next entry. -/
lemma plain_value {value : List Char} (hvalue : IsWord value) (hwords : ∀ e ∈ entries, IsWord e.1)
    (hmargin : 0 < margin) (lastBreak : Bool) (i l column : ℕ) : ∃ c broken,
      (⟨value ++ lines margin lastBreak entries, i, l, column, none⟩ : Cursor).plain false (margin + 1) =
        .ok (.scalar (value.map .char) true, broken, c) ∧
      Faces margin lastBreak c broken entries := by
  cases entries with
  | nil =>
    cases lastBreak
    · refine ⟨_,_,Cursor.plain_word hvalue rfl (Cursor.plainSpaces_of_startsToken startsToken_nil)
        (Or.inl rfl),?_⟩
      exact ⟨_,_,_,_,toToken_blanks (n := 0) startsToken_nil⟩
    · refine ⟨_,_,Cursor.plain_word hvalue rfl (Cursor.plainSpaces_newline (n := 0) startsToken_nil rfl)
        (Or.inr ?_),?_⟩
      · dsimp only
        omega
      · exact ⟨_,_,_,_,toToken_blanks (n := 0) startsToken_nil⟩
  | cons entry entries =>
    obtain ⟨key,v⟩ := entry
    have hkey := startsToken_word (hwords _ List.mem_cons_self)
      (':' :: ' ' :: (v ++ lines margin lastBreak entries))
    obtain ⟨n,rfl⟩ : ∃ n, margin = n + 1 := ⟨margin - 1,by omega⟩
    refine ⟨_,_,Cursor.plain_word hvalue rfl (Cursor.plainSpaces_newline hkey rfl) (Or.inr ?_),?_⟩
    · dsimp only
      omega
    · exact ⟨_,_,toToken_blanks (n := 0) hkey⟩

variable {c : Cursor} {a : Bool} {T : List Token} {indent : ℤ} {outers : List ℤ} {fuel : ℕ}

/-- An entry takes three turns: its key, the colon, and its value. -/
lemma run_entry {key value : List Char} (hkey : IsWord key) (hlength : key.length ≤ 1024)
    (hvalue : IsWord value) (hwords : ∀ e ∈ entries, IsWord e.1) (hmargin : 0 < margin)
    (hindent : indent ≤ margin) (hfaces : Faces margin lastBreak c a ((key, value) :: entries)) :
    ∃ c' a' l, ∃ ts : List Token, Faces margin lastBreak c' a' entries ∧
      ts.map Token.kind = entryTokens (key, value) ∧
      ∀ fuel T outers, run (fuel + 3) ⟨c, T, indent, outers, a, none, []⟩ = run fuel
        ⟨c', ts.reverse ++ withBlock indent ⟨l,margin⟩ T, margin,
          if indent < margin then indent :: outers else outers, a', none, []⟩ := by
  obtain ⟨i,l,hnext⟩ := hfaces
  obtain ⟨c',a',hplain,hfaces'⟩ := plain_value hvalue hwords hmargin lastBreak (i + key.length + 1 + 1) l
    (margin + key.length + 1 + 1)
  refine ⟨c',a',l,[⟨.key, ⟨l,margin⟩, 0⟩, ⟨.scalar (key.map .char) true, ⟨l,margin⟩, 0⟩,
    ⟨.value, ⟨l,margin + key.length⟩, 1⟩,
    ⟨.scalar (value.map .char) true, ⟨l,margin + key.length + 1 + 1⟩, 0⟩],hfaces',rfl,?_⟩
  intro fuel T outers
  rw [run_key hkey hlength rfl hnext hindent]
  exact run_word hvalue (toToken_blanks (n := 1) (startsToken_word hvalue _)) (by omega) hplain rfl rfl

lemma run_entries (hwords : ∀ e ∈ entries, IsWord e.1 ∧ e.1.length ≤ 1024 ∧ IsWord e.2)
    (hmargin : 0 < margin) (hfuel : 3 * entries.length < fuel)
    (hfaces : Faces margin lastBreak c a entries) :
    ∃ (ts : List Token) (place : Mark), ts.map Token.kind = entries.flatMap entryTokens ∧
      run fuel ⟨c, T, margin, outers, a, none, []⟩ =
        ⟨(closeBlocks (-1) ⟨.blockEnd, place, 0⟩ margin outers (ts.reverse ++ T)).2.2.reverse, .ok place⟩ := by
  induction entries generalizing c a T fuel with
  | nil =>
    obtain ⟨i,l,column,a',hnext⟩ := hfaces
    obtain ⟨fuel,rfl⟩ : ∃ n, fuel = n + 1 := ⟨fuel - 1,by omega⟩
    exact ⟨[],⟨l,column⟩,rfl,run_end hnext⟩
  | cons entry entries ih =>
    obtain ⟨key,value⟩ := entry
    obtain ⟨⟨hkey,hlength,hvalue⟩,hrest⟩ := List.forall_mem_cons.mp hwords
    obtain ⟨fuel,rfl⟩ : ∃ n, fuel = n + 3 := ⟨fuel - 3,by rw [List.length_cons] at hfuel; omega⟩
    obtain ⟨c',a',l,ts,hfaces',hkinds,hrun⟩ := run_entry hkey hlength hvalue
      (fun e he => (hrest e he).1) hmargin (Int.le_refl _) hfaces
    have hless : 3 * entries.length < fuel := by
      rw [List.length_cons] at hfuel
      omega
    obtain ⟨ts',place,hkinds',hrun'⟩ := ih (T := ts.reverse ++ withBlock margin ⟨l,margin⟩ T) hrest hless
      hfaces'
    refine ⟨ts ++ ts',place,by rw [List.map_append, hkinds, hkinds', List.flatMap_cons],?_⟩
    rw [hrun, if_neg (Int.lt_irrefl _), hrun', withBlock, if_neg (Int.lt_irrefl _), List.reverse_append,
      List.append_assoc]

/-- What stands under the name of a section, which is at the start of a line, is taken up to the end. -/
lemma run_lines (hwords : ∀ e ∈ entries, IsWord e.1 ∧ e.1.length ≤ 1024 ∧ IsWord e.2) (hmargin : 0 < margin)
    (hfuel : 3 * entries.length < fuel) (hfaces : Faces margin lastBreak c a entries) :
    ∃ (ts : List Token) (place : Mark), ts.map Token.kind = valueTokens entries ++ [.blockEnd] ∧
      run fuel ⟨c, T, 0, [-1], a, none, []⟩ = ⟨T.reverse ++ ts, .ok place⟩ := by
  cases entries with
  | nil =>
    obtain ⟨fuel,rfl⟩ : ∃ n, fuel = n + 1 := ⟨fuel - 1,by omega⟩
    obtain ⟨i,l,column,a',hnext⟩ := hfaces
    refine ⟨[⟨.blockEnd, ⟨l,column⟩, 0⟩],⟨l,column⟩,rfl,?_⟩
    rw [run_end hnext]
    simp [closeBlocks]
  | cons entry entries =>
    obtain ⟨key,value⟩ := entry
    obtain ⟨⟨hkey,hlength,hvalue⟩,hrest⟩ := List.forall_mem_cons.mp hwords
    obtain ⟨fuel,rfl⟩ : ∃ n, fuel = n + 3 := ⟨fuel - 3,by rw [List.length_cons] at hfuel; omega⟩
    have hless : 3 * entries.length < fuel := by
      rw [List.length_cons] at hfuel
      omega
    have hopen : (0 : ℤ) < margin := Int.natCast_pos.mpr hmargin
    obtain ⟨c',a',l,ts,hfaces',hkinds,hrun⟩ := run_entry hkey hlength hvalue (fun e he => (hrest e he).1)
      hmargin (Int.le_of_lt hopen) hfaces
    obtain ⟨ts',place,hkinds',hrun'⟩ := run_entries hrest hmargin hless hfaces'
    refine ⟨⟨.blockMappingStart, ⟨l,margin⟩, 0⟩ :: (ts ++ ts') ++
      [⟨.blockEnd, place, 0⟩, ⟨.blockEnd, place, 0⟩],place,?_,?_⟩
    · simp [valueTokens, hkinds, hkinds']
    · rw [hrun, if_pos hopen, hrun']
      simp [closeBlocks, withBlock, hmargin, show (-1 : ℤ) < margin by omega]

end Entries

end TokenStream

section Section
variable {name : List Char} {margin : ℕ} {lastBreak : Bool} {entries : List (List Char × List Char)}

lemma length_lines (margin : ℕ) (lastBreak : Bool)
    (hwords : ∀ e ∈ entries, IsWord e.1 ∧ e.1.length ≤ 1024 ∧ IsWord e.2) :
    3 * entries.length ≤ (lines margin lastBreak entries).length := by
  induction entries with
  | nil => simp
  | cons entry entries ih =>
    have hle := ih (List.forall_mem_cons.mp hwords).2
    simp only [lines, List.length_cons, List.length_append]
    omega

/-- A section is made of word characters, colons, blanks and line breaks. -/
lemma forall_mem_sectionText {p : Char → Prop} (hword : ∀ x, isWordChar x = true → p x) (hcolon : p ':')
    (hblank : p ' ') (hnewline : p '\n') (hname : IsWord name)
    (hwords : ∀ e ∈ entries, IsWord e.1 ∧ e.1.length ≤ 1024 ∧ IsWord e.2) :
    ∀ x ∈ sectionText name margin lastBreak entries, p x := by
  have hwordChars : ∀ {w}, IsWord w → ∀ x ∈ w, p x := fun hw x hx => hword x (hw.isWordChar x hx)
  have hlines : ∀ x ∈ lines margin lastBreak entries, p x := by
    induction entries with
    | nil => cases lastBreak <;> simp [lines, hnewline]
    | cons entry entries ih =>
      obtain ⟨⟨hkey,-,hvalue⟩,hrest⟩ := List.forall_mem_cons.mp hwords
      intro x hx
      simp only [lines, List.mem_cons, List.mem_append, List.mem_replicate] at hx
      rcases hx with rfl | ⟨-,rfl⟩ | hx | rfl | rfl | hx | hx
      · exact hnewline
      · exact hblank
      · exact hwordChars hkey x hx
      · exact hcolon
      · exact hblank
      · exact hwordChars hvalue x hx
      · exact ih hrest x hx
  intro x hx
  simp only [sectionText, List.mem_append, List.mem_cons] at hx
  rcases hx with hx | rfl | hx
  · exact hwordChars hname x hx
  · exact hcolon
  · exact hlines x hx

lemma run_sectionText {fuel : ℕ} (lastBreak : Bool) (hname : IsWord name) (hlength : name.length ≤ 1024)
    (hwords : ∀ e ∈ entries, IsWord e.1 ∧ e.1.length ≤ 1024 ∧ IsWord e.2) (hmargin : 0 < margin)
    (hfuel : 3 * entries.length < fuel) :
    ∃ (ts : List Token) (place : Mark), ts.map Token.kind = sectionTokens name entries ∧
      TokenStream.run (fuel + 2) { cursor := { rest := sectionText name margin lastBreak entries } } =
        ⟨ts, .ok place⟩ := by
  have hends : endsWord (lines margin lastBreak entries) = true := by
    cases entries <;> cases lastBreak <;> rfl
  have hhead : TokenStream.toToken false ((sectionText name margin lastBreak entries).length + 1)
      ⟨sectionText name margin lastBreak entries, 0, 0, 0, none⟩ true =
      .ok (⟨name ++ ':' :: lines margin lastBreak entries, 0, 0, 0, none⟩, true) :=
    TokenStream.toToken_blanks (n := 0) (startsToken_word hname _)
  obtain ⟨ts,place,hkinds,hrun⟩ := TokenStream.run_lines hwords hmargin hfuel
    (TokenStream.faces_lines (fun e he => (hwords e he).1) false)
  refine ⟨_,place,?_,(TokenStream.run_key hname hlength hends hhead (by decide)).trans hrun⟩
  rw [List.map_append, hkinds]
  rfl

/-- The tokens of a section are those of its name, its keys and its values, with the two mappings around
them. -/
theorem tokens_sectionText (hname : IsWord name) (hlength : name.length ≤ 1024)
    (hwords : ∀ e ∈ entries, IsWord e.1 ∧ e.1.length ≤ 1024 ∧ IsWord e.2) (hmargin : 0 < margin)
    (lastBreak : Bool) :
    ∃ (ts : List Token) (place : Mark), ts.map Token.kind = sectionTokens name entries ∧
      tokens ⟨sectionText name margin lastBreak entries, none⟩ = ⟨ts, .ok place⟩ := by
  have hmark : (sectionText name margin lastBreak entries).head? ≠ some '\uFEFF' := by
    obtain ⟨x,w,rfl⟩ := List.exists_cons_of_ne_nil hname.ne_nil
    intro h
    exact ne_of_isWordChar (hname.isWordChar x List.mem_cons_self) (by decide) (Option.some.inj h)
  obtain ⟨fuel,hfuel,hle⟩ : ∃ fuel, (sectionText name margin lastBreak entries).length + 1 = fuel + 2 ∧
      3 * entries.length < fuel := by
    have hlines := length_lines margin lastBreak hwords
    have hpos := List.length_pos_iff.mpr hname.ne_nil
    refine ⟨(sectionText name margin lastBreak entries).length - 1,?_,?_⟩ <;>
    · simp only [sectionText, List.length_append, List.length_cons]
      omega
  obtain ⟨ts,place,hkinds,hrun⟩ := run_sectionText lastBreak hname hlength hwords hmargin hle
  refine ⟨ts,place,hkinds,?_⟩
  simp only [tokens, Cursor.look_of_cut, if_neg hmark, bind, Except.bind, pure, Except.pure, hfuel, hrun]

end Section

end SourceOutline.Yaml

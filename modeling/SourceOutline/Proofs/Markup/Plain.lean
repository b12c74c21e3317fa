import Mathlib.Data.List.Infix
import Mathlib.Data.List.TakeWhile
import SourceOutline.Markup.Render
import SourceOutline.Proofs.Decimal.Integer

/-! Texts that console markup prints as they stand. In a plain text no bracket starts a tag, no backslash
stands in front of a bracket, no name between colons is that of a picture, and every character is shown.
A blank ends every name and starts no tag, so plain texts can be put together with blanks. What is shown is
printed whole if no line of it that ends in a blank is too long. -/
namespace SourceOutline.Markup

/-- No bracket of the text is the first one of a tag. -/
def Tagless (text : List Char) : Prop :=
  ∀ before body, text = before ++ '[' :: body → tagBody? body = none

/-- A text in which nothing is read as markup. -/
structure Plain (text : List Char) : Prop where
  tagless : Tagless text
  unescaped : dropBackslashes text = text
  pictureless : showPictures text = text
  visible : ∀ c ∈ text, isHidden c = false ∧ c ≠ '\t'

section Split

variable {a b before rest name text : List Char} {c separator : Char} {p : Char → Bool}

/-- A place in two texts with a blank between them is a place in one of the two. -/
lemma split_blank (h : a ++ ' ' :: b = before ++ c :: rest) (hc : c ≠ ' ') :
    (∃ more, a = before ++ c :: more ∧ rest = more ++ ' ' :: b) ∨
      ∃ more, b = more ++ c :: rest ∧ before = a ++ ' ' :: more := by
  rcases List.append_eq_append_iff.mp h with ⟨more,hbefore,hmore⟩ | ⟨more,ha,hmore⟩
  · cases more with
    | nil => exact absurd (List.cons.inj hmore).1.symm hc
    | cons x more =>
      obtain ⟨rfl,hrest⟩ := List.cons.inj hmore
      exact Or.inr ⟨more,hrest,hbefore⟩
  · cases more with
    | nil => exact absurd (List.cons.inj hmore).1 hc
    | cons x more =>
      obtain ⟨rfl,hrest⟩ := List.cons.inj hmore
      exact Or.inl ⟨more,ha,hrest⟩

/-- The piece in front of the first separator, and what follows it. -/
lemma takeWhile_drop_eq_iff (hseparator : p separator = false) :
    (text.takeWhile p = name ∧ text.drop name.length = separator :: rest) ↔
      text = name ++ separator :: rest ∧ ∀ c ∈ name, p c = true := by
  constructor
  · rintro ⟨rfl,hdrop⟩
    refine ⟨?_,fun c hc => List.mem_takeWhile_imp hc⟩
    rw [← hdrop]
    exact (List.prefix_iff_eq_append.mp (List.takeWhile_prefix p)).symm
  · rintro ⟨rfl,hname⟩
    rw [List.takeWhile_append_of_pos hname, List.takeWhile_cons_of_neg (by simp [hseparator])]
    simp

end Split

section Tags

variable {a b body inner after text : List Char}

/-- A tag starts with one of the characters that may start one, and holds no bracket. -/
lemma tagBody?_eq_some_iff : tagBody? body = some (inner,after) ↔
    body = inner ++ ']' :: after ∧ ∃ c more, inner = c :: more ∧ startsTag c = true ∧
      ∀ x ∈ more, (!(x == ']' || x == '[')) = true := by
  cases body with
  | nil => simp [tagBody?]
  | cons c rest =>
    simp only [tagBody?]
    constructor
    · intro h
      split at h
      case isFalse => cases h
      case isTrue hstart =>
        split at h
        case h_2 => cases h
        case h_1 more hdrop =>
          cases h
          obtain ⟨hrest,hmore⟩ := (takeWhile_drop_eq_iff rfl).mp ⟨rfl,hdrop⟩
          exact ⟨congrArg (c :: ·) hrest,c,_,rfl,hstart,hmore⟩
    · rintro ⟨hbody,x,more,rfl,hstart,hmore⟩
      obtain ⟨rfl,hrest⟩ := List.cons.inj hbody
      obtain ⟨htake,hdrop⟩ := (takeWhile_drop_eq_iff rfl).mpr ⟨hrest,hmore⟩
      simp only [hstart, if_true, htake, hdrop]

/-- Where no tag is closed, a blank and a text without closing brackets close none. -/
lemma tagBody?_append_blank (h : tagBody? body = none) (hb : ']' ∉ b) :
    tagBody? (body ++ ' ' :: b) = none := by
  rw [Option.eq_none_iff_forall_ne_some]
  rintro ⟨inner,after⟩ hsome
  obtain ⟨hbody,hinner⟩ := tagBody?_eq_some_iff.mp hsome
  rcases split_blank hbody (by decide) with ⟨more,hmore,-⟩ | ⟨more,hmore,-⟩
  · have hclosed : tagBody? body = some (inner,more) := tagBody?_eq_some_iff.mpr ⟨hmore,hinner⟩
    simp [h] at hclosed
  · simp [hmore] at hb

lemma Tagless.blank (ha : Tagless a) (hb : Tagless b) (hclose : '[' ∈ a → ']' ∉ b) :
    Tagless (a ++ ' ' :: b) := by
  intro before body h
  rcases split_blank h (by decide) with ⟨more,hmore,rfl⟩ | ⟨more,hmore,-⟩
  · exact tagBody?_append_blank (ha before more hmore) (hclose (by simp [hmore]))
  · exact hb more body hmore

lemma tagless_of_not_mem (h : '[' ∉ text) : Tagless text := by
  rintro before body rfl
  simp at h

end Tags

section Parts

variable {a body inner after text : List Char} {isLiteral : List Char → Bool}

/-- A character that no tag starts with is put with the text before it. -/
lemma parts_cons {fuel : ℕ} {c : Char} {rest before : List Char}
    (h : ∀ body, (c :: rest).drop ((c :: rest).takeWhile (· == '\\')).length = '[' :: body →
      tagBody? body = none) :
    parts (fuel+1) (c :: rest) before = parts fuel rest (c :: before) := by
  simp only [parts]
  split
  · rw [h _ ‹_›]
  · rfl

/-- A text without tags is one part together with the text that has been read before it. -/
lemma renderParts_of_tagless {fuel : ℕ} (h : Tagless text) (hfuel : text.length < fuel)
    (before : List Char) (opened : List OpenTag) :
    renderParts isLiteral (parts fuel text before) opened =
      some (shownText (before.reverse ++ text)) := by
  induction text generalizing fuel before with
  | nil =>
    obtain ⟨fuel,rfl⟩ := Nat.exists_eq_succ_of_ne_zero (Nat.ne_zero_of_lt hfuel)
    cases before with
    | nil => simp [parts, renderParts, shownText, dropBackslashes, showPictures]
    | cons c before => simp [parts, renderParts]
  | cons c rest ih =>
    obtain ⟨fuel,rfl⟩ := Nat.exists_eq_succ_of_ne_zero (Nat.ne_zero_of_lt hfuel)
    have hrest : Tagless rest := fun before body hbody => h (c :: before) body (by simp [hbody])
    have hhead : ∀ body, (c :: rest).drop ((c :: rest).takeWhile (· == '\\')).length = '[' :: body →
        tagBody? body = none := by
      intro body hbody
      have hsplit := List.take_append_drop ((c :: rest).takeWhile (· == '\\')).length (c :: rest)
      rw [hbody] at hsplit
      exact h _ body hsplit.symm
    rw [parts_cons hhead, ih hrest (by simpa using hfuel), List.reverse_cons, List.append_assoc,
      List.singleton_append]

/-- A tag ends the part in front of it. -/
lemma renderParts_of_tag (hbracket : '[' ∉ a) (hslash : '\\' ∉ a)
    (hbody : tagBody? body = some (inner,after)) (fuel : ℕ) (before : List Char) (opened : List OpenTag) :
    renderParts isLiteral (parts (fuel+1+a.length) (a ++ '[' :: body) before) opened =
      (renderParts isLiteral (.tag inner :: parts fuel after []) opened).map
        (shownText (before.reverse ++ a) ++ ·) := by
  induction a generalizing before with
  | nil =>
    cases before with
    | nil => simp [parts, hbody, escapedParts, shownText, dropBackslashes, showPictures]
    | cons c before => simp [parts, hbody, escapedParts, renderParts]
  | cons c rest ih =>
    simp only [List.mem_cons, not_or] at hbracket hslash
    have hhead : ∀ body', (c :: (rest ++ '[' :: body)).drop
        ((c :: (rest ++ '[' :: body)).takeWhile (· == '\\')).length = '[' :: body' →
        tagBody? body' = none := by
      intro body' h
      rw [List.takeWhile_cons_of_neg (by simpa using Ne.symm hslash.1)] at h
      exact absurd (List.cons.inj h).1.symm hbracket.1
    rw [List.length_cons, ← Nat.add_assoc, List.cons_append, parts_cons hhead,
      ih hbracket.2 hslash.2, List.reverse_cons, List.append_assoc, List.singleton_append]

end Parts

section Shown

variable {a b name rest text : List Char} {c : Char}

lemma dropBackslashes_cons (h : c = '\\' → ∀ more, rest ≠ '[' :: more) :
    dropBackslashes (c :: rest) = c :: dropBackslashes rest := by
  rw [dropBackslashes]
  intro more hc
  exact h hc more

lemma dropBackslashes_eq_self (h : '[' ∉ text) : dropBackslashes text = text := by
  induction text with
  | nil => rfl
  | cons c rest ih =>
    simp only [List.mem_cons, not_or] at h
    rw [dropBackslashes_cons (by rintro - more rfl; simp at h), ih h.2]

lemma dropBackslashes_blank (a b : List Char) :
    dropBackslashes (a ++ ' ' :: b) = dropBackslashes a ++ ' ' :: dropBackslashes b := by
  fun_induction dropBackslashes a with
  | case1 => simp [dropBackslashes]
  | case2 rest ih => simp [dropBackslashes, ih]
  | case3 c rest hescape ih =>
    have hnext : c = '\\' → ∀ more, rest ++ ' ' :: b ≠ '[' :: more := by
      intro hc more h
      cases rest with
      | nil => simp at h
      | cons x rest =>
        obtain ⟨rfl,-⟩ := List.cons.inj h
        exact hescape rest hc rfl
    rw [List.cons_append, dropBackslashes_cons hnext, ih, List.cons_append]

lemma colonName?_eq_some_iff : colonName? text = some (name,rest) ↔
    text = name ++ ':' :: rest ∧ ∀ c ∈ name, (!(c == ':' || Text.isSpace c)) = true := by
  rw [← takeWhile_drop_eq_iff (by simp)]
  simp only [colonName?]
  constructor
  · intro h
    split at h
    case h_1 hdrop =>
      cases h
      exact ⟨rfl,hdrop⟩
    case h_2 => cases h
  · rintro ⟨rfl,hdrop⟩
    simp only [hdrop]

/-- A blank ends a name, so a colon in front of it needs one in front of it as well. -/
lemma colonName?_blank (text b : List Char) :
    colonName? (text ++ ' ' :: b) = (colonName? text).map fun (name,more) => (name,more ++ ' ' :: b) := by
  cases h : colonName? text with
  | some found =>
    obtain ⟨name,more⟩ := found
    obtain ⟨rfl,hname⟩ := colonName?_eq_some_iff.mp h
    exact colonName?_eq_some_iff.mpr ⟨by simp,hname⟩
  | none =>
    rw [Option.map_none, Option.eq_none_iff_forall_ne_some]
    rintro ⟨name,rest⟩ hsome
    obtain ⟨htext,hname⟩ := colonName?_eq_some_iff.mp hsome
    rcases split_blank htext (by decide) with ⟨more,hmore,-⟩ | ⟨more,-,rfl⟩
    · have hnamed : colonName? text = some (name,more) := colonName?_eq_some_iff.mpr ⟨hmore,hname⟩
      simp [h] at hnamed
    · simpa [Text.isSpace, Text.isBlank] using hname ' ' (by simp)

lemma showPictures_of_name {more : List Char} (h : colonName? rest = some (name,more)) :
    showPictures (':' :: rest) = (picture? name).getD (':' :: name ++ [':']) ++ showPictures more := by
  rw [showPictures, if_pos rfl]
  split
  case h_1 hsome =>
    cases hsome.symm.trans h
    rfl
  case h_2 hnone => simp [h] at hnone

lemma showPictures_of_noName (h : colonName? rest = none) :
    showPictures (':' :: rest) = ':' :: showPictures rest := by
  rw [showPictures, if_pos rfl]
  split
  case h_1 hsome => simp [h] at hsome
  case h_2 => rfl

lemma showPictures_of_ne (h : c ≠ ':') : showPictures (c :: rest) = c :: showPictures rest := by
  rw [showPictures, if_neg h]

lemma showPictures_append (ha : ':' ∉ a) (b : List Char) :
    showPictures (a ++ b) = a ++ showPictures b := by
  induction a with
  | nil => rfl
  | cons c rest ih =>
    simp only [List.mem_cons, not_or] at ha
    rw [List.cons_append, showPictures_of_ne (Ne.symm ha.1), ih ha.2, List.cons_append]

lemma showPictures_blank (a b : List Char) :
    showPictures (a ++ ' ' :: b) = showPictures a ++ ' ' :: showPictures b := by
  fun_induction showPictures a with
  | case1 => simp [showPictures]
  | case2 rest name more h ih =>
    have hname : colonName? (rest ++ ' ' :: b) = some (name,more ++ ' ' :: b) := by
      rw [colonName?_blank, h, Option.map_some]
    rw [List.cons_append, showPictures_of_name hname, ih, List.append_assoc]
  | case3 rest h ih =>
    have hname : colonName? (rest ++ ' ' :: b) = none := by rw [colonName?_blank, h, Option.map_none]
    rw [List.cons_append, showPictures_of_noName hname, ih, List.cons_append]
  | case4 c rest hc ih => rw [List.cons_append, showPictures_of_ne hc, ih, List.cons_append]

lemma expandTabs_eq_self (h : ∀ c ∈ text, c ≠ '\t') (column : ℕ) : expandTabs column text = text := by
  fun_induction expandTabs column text with
  | case1 => rfl
  | case2 => simp at h
  | case3 column rest ih => rw [ih fun c hc => h c (List.mem_cons_of_mem _ hc)]
  | case4 column c rest _ _ ih => rw [ih fun c hc => h c (List.mem_cons_of_mem _ hc)]

end Shown

section Layout

variable {text line : List Char} {width : ℕ}

/-- The last character, if there is one, is no blank. -/
def EndsDark (text : List Char) : Prop := ∀ c ∈ text.getLast?, Text.isSpace c = false

lemma EndsDark.append (h : EndsDark text) (hne : text ≠ []) (before : List Char) :
    EndsDark (before ++ text) := by
  rwa [EndsDark, List.getLast?_append_of_ne_nil before hne]

lemma cropBlanks_of_length_le (h : line.length ≤ width) : cropBlanks width line = line := by
  rw [cropBlanks, Nat.sub_eq_zero_of_le h, Nat.min_zero, Nat.sub_zero, List.take_length]

lemma cropBlanks_of_endsDark (h : EndsDark line) (width : ℕ) : cropBlanks width line = line := by
  have hblanks : line.reverse.takeWhile Text.isSpace = [] := by
    rw [EndsDark, ← List.head?_reverse] at h
    cases hreverse : line.reverse with
    | nil => rfl
    | cons c rest =>
      rw [hreverse] at h
      exact List.takeWhile_cons_of_neg (by simp [h c rfl])
  rw [cropBlanks, hblanks, List.length_nil, Nat.zero_min, Nat.sub_zero, List.take_length]

/-- There is room to print on, and for each line of a text that ends in a blank there is enough. -/
structure Console.Fits (console : Console) (text : List Char) : Prop where
  room : 0 < console.width
  lines : ∀ line ∈ Text.fields '\n' text, line.length ≤ console.width ∨ EndsDark line

lemma fields_of_not_mem {separator : Char} (h : separator ∉ text) : Text.fields separator text = [text] := by
  induction text with
  | nil => rfl
  | cons c rest ih =>
    simp only [List.mem_cons, not_or] at h
    simp only [Text.fields, ih h.2, if_neg (Ne.symm h.1)]

/-- A text on one line, without a blank at its end, fits wherever there is room. -/
lemma Console.Fits.of_oneLine {console : Console} (hroom : 0 < console.width) (hbreak : '\n' ∉ text)
    (hlast : EndsDark text) : console.Fits text where
  room := hroom
  lines line hline := by
    rw [fields_of_not_mem hbreak, List.mem_singleton] at hline
    exact Or.inr (hline ▸ hlast)

/-- A text without tabs that fits is printed whole. -/
theorem Console.Fits.lay_eq {console : Console} (h : console.Fits text) (htabs : ∀ c ∈ text, c ≠ '\t') :
    console.lay text = text ++ ['\n'] := by
  have hlines : ∀ line ∈ Text.fields '\n' text, cropBlanks console.width line = id line := by
    intro line hline
    rcases h.lines line hline with hlength | hlast
    · exact cropBlanks_of_length_le hlength
    · exact cropBlanks_of_endsDark hlast _
  rw [Console.lay, if_neg h.room.ne', expandTabs_eq_self htabs, List.map_congr_left hlines, List.map_id,
    Text.joinFields_fields]

end Layout

namespace Plain

variable {a b text : List Char}

lemma shownText_eq (h : Plain text) : shownText text = text := by
  rw [shownText, h.unescaped, h.pictureless, List.filter_eq_self]
  exact fun c hc => by simp [(h.visible c hc).1]

/-- A plain text stands for itself. -/
theorem render?_eq (h : Plain text) (isLiteral : List Char → Bool) : render? isLiteral text = some text := by
  rw [render?, renderParts_of_tagless h.tagless (Nat.lt_succ_self _), List.reverse_nil, List.nil_append,
    h.shownText_eq]

/-- A plain text that fits is printed as it stands. -/
theorem print?_eq {console : Console} (h : Plain text) (hfits : console.Fits text) :
    console.print? text = some (text ++ ['\n']) := by
  rw [Console.print?, h.render?_eq, Option.map_some, hfits.lay_eq fun c hc => (h.visible c hc).2]

/-- Plain texts with a blank between them are a plain text, unless a bracket of the first might be closed
in the second. -/
theorem blank (ha : Plain a) (hb : Plain b) (hclose : '[' ∈ a → ']' ∉ b) : Plain (a ++ ' ' :: b) where
  tagless := ha.tagless.blank hb.tagless hclose
  unescaped := by rw [dropBackslashes_blank, ha.unescaped, hb.unescaped]
  pictureless := by rw [showPictures_blank, ha.pictureless, hb.pictureless]
  visible c hc := by
    rcases List.mem_append.mp hc with hc | hc
    · exact ha.visible c hc
    · rcases List.mem_cons.mp hc with rfl | hc
      · decide
      · exact hb.visible c hc

end Plain

/-- Whether a character may be a part of markup or may not be shown. -/
def mayMark (c : Char) : Bool := ['[', ']', '\\', ':', '\t'].contains c || isHidden c

/-- A text of characters that are never a part of markup. -/
def Bare (text : List Char) : Prop := ∀ c ∈ text, mayMark c = false

instance (text : List Char) : Decidable (Bare text) := List.decidableBAll _ _

namespace Bare

variable {a b text : List Char} {c : Char}

lemma append (ha : Bare a) (hb : Bare b) : Bare (a ++ b) := List.forall_mem_append.mpr ⟨ha,hb⟩

lemma not_mem (h : Bare text) (hc : mayMark c = true) : c ∉ text := by
  intro hmem
  rw [h c hmem] at hc
  cases hc

lemma visible (h : Bare text) (hc : c ∈ text) : isHidden c = false ∧ c ≠ '\t' := by
  have hmark := h c hc
  simp only [mayMark, Bool.or_eq_false_iff] at hmark
  refine ⟨hmark.2,?_⟩
  rintro rfl
  simp at hmark

/-- A number in decimal digits. -/
lemma repr (n : ℕ) : Bare (Nat.repr n).toList :=
  Decimal.forall_mem_repr (p := fun c => mayMark c = false) (by decide) n

theorem plain (h : Bare text) : Plain text where
  tagless := tagless_of_not_mem (h.not_mem rfl)
  unescaped := dropBackslashes_eq_self (h.not_mem rfl)
  pictureless := showPictures_eq_self (h.not_mem rfl)
  visible _ hc := h.visible hc

/-- One colon does not make a name. -/
theorem plain_colon (ha : Bare a) (hb : Bare b) : Plain (a ++ ':' :: b) where
  tagless := tagless_of_not_mem (by simp [ha.not_mem, hb.not_mem, mayMark])
  unescaped := dropBackslashes_eq_self (by simp [ha.not_mem, hb.not_mem, mayMark])
  pictureless := by
    have hname : colonName? b = none := by
      rw [Option.eq_none_iff_forall_ne_some]
      rintro ⟨name,rest⟩ hsome
      have hcolon : ':' ∉ b := hb.not_mem rfl
      simp [(colonName?_eq_some_iff.mp hsome).1] at hcolon
    rw [showPictures_append (ha.not_mem rfl), showPictures_of_noName hname,
      showPictures_eq_self (hb.not_mem rfl)]
  visible c hc := by
    rcases List.mem_append.mp hc with hc | hc
    · exact ha.visible hc
    · rcases List.mem_cons.mp hc with rfl | hc
      · decide
      · exact hb.visible hc

end Bare

end SourceOutline.Markup

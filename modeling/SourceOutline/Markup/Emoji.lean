import SourceOutline.Markup.Pictures
import SourceOutline.Text.LowerCase

/-!
Pictures in a text, written as their short names between colons.
-/
namespace SourceOutline.Markup

/-- A name without an ending, if it has that ending. -/
def dropEnding? (ending name : List Char) : Option (List Char) :=
  if ending.isSuffixOf name then some (name.take (name.length - ending.length)) else none

/-- The picture of a name. An ending of the name says how the picture is to be shown. -/
def picture? (name : List Char) : Option (List Char) :=
  let (name, variant) :=
    match dropEnding? "-emoji".toList name, dropEnding? "-text".toList name with
    | some name, _ => (name, ['\uFE0F'])
    | none, some name => (name, ['\uFE0E'])
    | none, none => (name, [])
  (pictures.find? (·.1 == Text.lower name)).map fun entry => entry.2 ++ variant

/-- A name between colons at the start of a text whose first colon has been read, and what follows it. -/
def colonName? (text : List Char) : Option (List Char × List Char) :=
  let name := text.takeWhile fun c => !(c == ':' || Text.isSpace c)
  match text.drop name.length with
  | ':' :: rest => some (name, rest)
  | _ => none

theorem length_colonName? {text name rest : List Char} (h : colonName? text = some (name, rest)) :
    rest.length < text.length := by
  simp only [colonName?] at h
  split at h
  · rename_i heq
    cases h
    have h := congrArg List.length heq
    simp only [List.length_drop, List.length_cons] at h
    omega
  · cases h

/-- A text with the pictures in place of their names. A colon that ends a name starts no other one. -/
def showPictures : List Char → List Char
  | [] => []
  | c :: rest =>
    if c = ':' then
      match _h : colonName? rest with
      | some (name, more) => (picture? name).getD (':' :: name ++ [':']) ++ showPictures more
      | none => c :: showPictures rest
    else c :: showPictures rest
termination_by text => text.length
decreasing_by
  · have := length_colonName? ‹_›
    simp only [List.length_cons]
    omega
  · simp
  · simp

/-- A text without colons holds no names. -/
theorem showPictures_eq_self {text : List Char} (h : ':' ∉ text) : showPictures text = text := by
  induction text with
  | nil => simp [showPictures]
  | cons c rest ih =>
    simp only [List.mem_cons, not_or] at h
    rw [showPictures, if_neg (Ne.symm h.1), ih h.2]

end SourceOutline.Markup

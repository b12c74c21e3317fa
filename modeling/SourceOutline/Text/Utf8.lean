/-!
UTF-8, read one octet at a time. A malformed piece ends before the first octet that no well-formed
sequence could hold there, so lossy and strict reading differ only in what they do with a piece.
-/
namespace SourceOutline

/-- The octets of a file or of a text. -/
abbrev Octets := Array UInt8

namespace Text.Utf8

/-- Why a run of octets stands for no character. -/
inductive Defect where
  /-- No sequence starts with this octet. -/
  | start
  /-- The sequence is broken off by an octet that cannot continue it. -/
  | continuation
  /-- The text ends inside the sequence. -/
  | truncated
deriving DecidableEq, Repr

/-- What one sequence of octets stands for. -/
inductive Piece where
  | char (c : Char)
  | malformed (octets : List UInt8) (defect : Defect)
deriving DecidableEq, Repr

/--
A sequence still to be completed: its octets so far, the bits they carry, how many octets are
missing, and the range in which the next one has to lie.
-/
structure Pending where
  octets : List UInt8
  bits : Nat
  missing : Nat
  low : UInt8
  high : UInt8
deriving DecidableEq, Repr

/-- The state of a reading: the pieces found, latest first, and the sequence still open. -/
structure Reading where
  pieces : List Piece := []
  pending : Option Pending := none
deriving DecidableEq, Repr

/-- Reads an octet at the start of a sequence. -/
def begin (pieces : List Piece) (b : UInt8) : Reading :=
  if b < 0x80 then ⟨.char (Char.ofNat b.toNat) :: pieces, none⟩
  else if b < 0xC2 then ⟨.malformed [b] .start :: pieces, none⟩
  else if b < 0xE0 then ⟨pieces, some ⟨[b], b.toNat % 32, 1, 0x80, 0xBF⟩⟩
  else if b = 0xE0 then ⟨pieces, some ⟨[b], 0, 2, 0xA0, 0xBF⟩⟩
  else if b = 0xED then ⟨pieces, some ⟨[b], 13, 2, 0x80, 0x9F⟩⟩
  else if b < 0xF0 then ⟨pieces, some ⟨[b], b.toNat % 16, 2, 0x80, 0xBF⟩⟩
  else if b = 0xF0 then ⟨pieces, some ⟨[b], 0, 3, 0x90, 0xBF⟩⟩
  else if b < 0xF4 then ⟨pieces, some ⟨[b], b.toNat % 8, 3, 0x80, 0xBF⟩⟩
  else if b = 0xF4 then ⟨pieces, some ⟨[b], 4, 3, 0x80, 0x8F⟩⟩
  else ⟨.malformed [b] .start :: pieces, none⟩

/-- Reads the next octet. -/
def Reading.step (r : Reading) (b : UInt8) : Reading :=
  match r.pending with
  | none => begin r.pieces b
  | some p =>
    if p.low ≤ b ∧ b ≤ p.high then
      let bits := p.bits * 64 + b.toNat % 64
      if p.missing ≤ 1 then ⟨.char (Char.ofNat bits) :: r.pieces, none⟩
      else ⟨r.pieces, some ⟨p.octets ++ [b], bits, p.missing - 1, 0x80, 0xBF⟩⟩
    else begin (.malformed p.octets .continuation :: r.pieces) b

/-- All pieces in order, an open sequence being truncated. -/
def Reading.finish (r : Reading) : List Piece :=
  match r.pending with
  | none => r.pieces.reverse
  | some p => (.malformed p.octets .truncated :: r.pieces).reverse

/-- The pieces that a list of octets falls into. -/
def pieces (octets : List UInt8) : List Piece :=
  (octets.foldl Reading.step {}).finish

/-- The character that stands for a piece when nothing is refused. -/
def Piece.lossy : Piece → Char
  | char c => c
  | malformed _ _ => '\uFFFD'

/-- How many octets a piece takes. -/
def Piece.width : Piece → Nat
  | char c => c.utf8Size
  | malformed octets _ => octets.length

/-- Reads octets, one replacement character standing for each malformed piece. -/
def decodeLossy (octets : List UInt8) : List Char :=
  (pieces octets).map Piece.lossy

/-- The first malformed piece of a text and the number of octets before it. -/
structure Malformed where
  offset : Nat
  octets : List UInt8
  defect : Defect
deriving DecidableEq, Repr

/-- The characters of a list of pieces that starts at an offset, unless one is malformed. -/
def chars (offset : Nat) : List Piece → List Char → Except Malformed (List Char)
  | [], found => .ok found.reverse
  | .char c :: ps, found => chars (offset + c.utf8Size) ps (c :: found)
  | .malformed octets defect :: _, _ => .error ⟨offset, octets, defect⟩

/-- Reads octets and refuses malformed ones. -/
def decode (octets : List UInt8) : Except Malformed (List Char) :=
  chars 0 (pieces octets) []

/-- The octets of a list of characters. -/
def encode (text : List Char) : List UInt8 :=
  text.flatMap String.utf8EncodeChar

/-- The octets of a text. -/
def octets (text : String) : Octets :=
  (encode text.toList).toArray

/-- The octets from one offset up to another, both cut at the end of the text. -/
def slice (text : Octets) (start stop : Nat) : List UInt8 :=
  (text.extract start stop).toList

/-- The octets from one offset up to another, read as a text. -/
def sliceText (text : Octets) (start stop : Nat) : String :=
  String.ofList (decodeLossy (slice text start stop))

@[simp] theorem encode_nil : encode [] = [] := rfl

@[simp] theorem encode_cons (c : Char) (cs : List Char) :
    encode (c :: cs) = String.utf8EncodeChar c ++ encode cs := rfl

@[simp] theorem encode_append (cs ds : List Char) : encode (cs ++ ds) = encode cs ++ encode ds := by
  simp [encode]

end Text.Utf8

end SourceOutline

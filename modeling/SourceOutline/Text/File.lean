import SourceOutline.Text.Newline
import SourceOutline.Text.Utf8

/-!
What a path leads to, and the text of a file. A file is read at once, or it is a stream: octets are read in
blocks, and characters are handed out in pieces. Octets that are not UTF-8 are reported by their place, which
is counted from the start of the file or of the block that they were read in.
-/
namespace SourceOutline

/-- What a path leads to. -/
inductive Entry where
  | absent
  | directory
  | file (content : Octets)
deriving DecidableEq, Repr, Inhabited

namespace Text

/-- The characters of a file that is read at once. -/
def ofFile (content : Octets) : Except Utf8.Malformed (List Char) :=
  (Utf8.decode content.toList).map unifyBreaks

/-- A file that is being read as a stream. -/
structure FileStream where
  /-- The octets that have not been read. -/
  octets : List UInt8
  /-- Octets that have been read and are the start of a character. -/
  pending : List UInt8 := []
  /-- Whether a carriage return is held back, for a line feed may follow. -/
  holdsReturn : Bool := false
  /-- Characters that are ready to be handed out. -/
  ready : List Char := []
  /-- How many octets the last block had, and how many characters came of it. -/
  lastBlock : Nat × Nat := (0, 0)
deriving Repr, Inhabited

namespace FileStream

/-- How many octets are read when so many characters are wanted: as many as usual, unless the last block
had so many octets to a character that these would not do. -/
def blockSize (s : FileStream) (wanted : Nat) : Nat :=
  let (octets, chars) := s.lastBlock
  if chars = 0 ∨ octets * wanted ≤ 8192 * chars then 8192
  else max 8192 (Float.ofNat octets / Float.ofNat chars * Float.ofNat wanted).toUInt64.toNat

/-- Reads a block. A sequence that it ends in is gone on with in the next block, which then counts its
places from the start of that sequence; the block behind the last octet releases what was held back. -/
def readBlock (s : FileStream) (size : Nat) : Except Utf8.Malformed FileStream := do
  let block := s.octets.take size
  let reading := (s.pending ++ block).foldl Utf8.Reading.step {}
  let pieces := if block.isEmpty then reading.finish else reading.pieces.reverse
  let chars ← Utf8.chars 0 pieces []
  let chars := if s.holdsReturn then '\r' :: chars else chars
  let holdsReturn := !block.isEmpty && chars.getLast? == some '\r'
  let ready := unifyBreaks (if holdsReturn then chars.dropLast else chars)
  pure {
    octets := s.octets.drop size
    pending := reading.pending.elim [] (·.octets)
    holdsReturn
    ready
    lastBlock := (block.length, ready.length) }

/-- Hands out so many characters, or as many as there are. -/
def take (wanted : Nat) : Nat → FileStream → List Char → Except Utf8.Malformed (List Char × FileStream)
  | 0, s, found => .ok (found, s)
  | fuel + 1, s, found => do
    let missing := wanted - found.length
    let found := found ++ s.ready.take missing
    let s := { s with ready := s.ready.drop missing }
    if wanted ≤ found.length then pure (found, s)
    else
      let atEnd := s.octets.isEmpty
      let s ← s.readBlock (s.blockSize (wanted - found.length))
      if atEnd && s.ready.isEmpty then pure (found, s) else take wanted fuel s found

/-- Hands out pieces of so many characters until one is empty, or until octets are no characters. They stand
behind those that were handed out before, which are given latest first. -/
def takeAll (wanted : Nat) :
    Nat → FileStream → List (List Char) → List (List Char) × Option Utf8.Malformed
  | 0, _, found => (found.reverse, none)
  | fuel + 1, s, found =>
    match take wanted (2 * s.octets.length + 2) s [] with
    | .error place => (found.reverse, some place)
    | .ok ([], _) => (found.reverse, none)
    | .ok (piece, s) => takeAll wanted fuel s (piece :: found)

end FileStream

/-- A file as the pieces of so many characters that come of it, and what keeps the rest from coming. -/
def piecesOfFile (wanted : Nat) (content : Octets) : List (List Char) × Option Utf8.Malformed :=
  FileStream.takeAll wanted (content.size + 2) { octets := content.toList } []

namespace Utf8

def Defect.message : Defect → String
  | start => "invalid start byte"
  | continuation => "invalid continuation byte"
  | truncated => "unexpected end of data"

/-- The sentence that reports octets that are not UTF-8. A single octet is shown. -/
def Malformed.message (m : Malformed) : String :=
  let place :=
    match m.octets with
    | [b] =>
      "byte 0x" ++ String.ofList [Nat.digitChar (b.toNat / 16), Nat.digitChar (b.toNat % 16)] ++
        " in position " ++ Nat.repr m.offset
    | octets => "bytes in position " ++ Nat.repr m.offset ++ "-" ++ Nat.repr (m.offset + octets.length - 1)
  "'utf-8' codec can't decode " ++ place ++ ": " ++ m.defect.message

end Utf8

end Text

end SourceOutline

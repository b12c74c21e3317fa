/-!
Octets written in base 64. Characters outside of the alphabet are passed over, and the reading ends
where padding completes a group of four.
-/
namespace SourceOutline.Text.Base64

/-- The six bits that a character stands for. -/
def sextet? (c : Char) : Option Nat :=
  if 'A' ≤ c ∧ c ≤ 'Z' then some (c.toNat - 'A'.toNat)
  else if 'a' ≤ c ∧ c ≤ 'z' then some (c.toNat - 'a'.toNat + 26)
  else if '0' ≤ c ∧ c ≤ '9' then some (c.toNat - '0'.toNat + 52)
  else if c = '+' then some 62
  else if c = '/' then some 63
  else none

/-- Why a text is not in base 64. -/
inductive Fault where
  | padding
  /-- One character is left over behind complete groups. -/
  | oneTooMany (read : Nat)
deriving DecidableEq, Repr

def Fault.message : Fault → String
  | padding => "Incorrect padding"
  | oneTooMany read =>
    "Invalid base64-encoded string: number of data characters (" ++ Nat.repr read ++
      ") cannot be 1 more than a multiple of 4"

/--
Reads characters, given how many of a group are read, how much padding was met since, and the bits that
are left over. A group that is not complete at the end is refused.
-/
def readFrom (read pads left : Nat) (found : List UInt8) : List Char → Except Fault (List UInt8)
  | [] =>
    if read = 0 then .ok found.reverse
    else if read = 1 then .error (.oneTooMany (found.length / 3 * 4 + 1))
    else .error .padding
  | c :: rest =>
    if c = '=' then
      if 2 ≤ read ∧ 4 ≤ read + pads + 1 then .ok found.reverse
      else readFrom read (if 2 ≤ read then pads + 1 else pads) left found rest
    else
      match sextet? c with
      | none => readFrom read pads left found rest
      | some n =>
        match read with
        | 0 => readFrom 1 0 n found rest
        | 1 => readFrom 2 0 (n % 16) (UInt8.ofNat (left * 4 + n / 16) :: found) rest
        | 2 => readFrom 3 0 (n % 4) (UInt8.ofNat (left * 16 + n / 4) :: found) rest
        | _ => readFrom 0 0 0 (UInt8.ofNat (left * 64 + n) :: found) rest

/-- The octets that a text stands for. -/
def decode (text : List Char) : Except Fault (List UInt8) := readFrom 0 0 0 [] text

end SourceOutline.Text.Base64

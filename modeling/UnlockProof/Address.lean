import UnlockProof.Hex
import UnlockProof.Keccak

/-!
# Account addresses as text

An address is read from 40 digits with or without the mark `0x`, and shown with the checksum of
its own hash: a letter is a capital where the hash of the lower-case digits has a nibble of eight
or more at its place. Reading does not look at the checksum.
-/

namespace UnlockProof.Address

/-- Raises the letters whose nibble is eight or more. -/
def mark : List Char → List Char → List Char
  | c :: cs, n :: ns => (if '8' ≤ n then c.toUpper else c) :: mark cs ns
  | _, _ => []

/-- The text of an address with its checksum. -/
def checksummed (a : Address) : String :=
  let lower := Hex.encode a.toList
  String.ofList ('0' :: 'x' :: mark lower (Hex.encode (keccak256 (Text.utf8 lower)).toList))

/-- Why a text is no address. -/
inductive Fault where
  | hex (fault : Hex.Fault)
  | width (bytes : Nat)
deriving DecidableEq

/-- The text of a fault. -/
def Fault.message : Fault → String
  | hex fault => fault.message
  | width bytes => s!"expected 20 bytes, got {bytes}"

/-- The characters after the mark `0x`, or all of them without one. -/
def unmarked : List Char → List Char
  | '0' :: 'x' :: rest => rest
  | cs => cs

/-- Reads an address. -/
def parse (s : String) : Except Fault Address :=
  match Hex.decodeChars (unmarked s.toList) with
  | .error f => .error (.hex f)
  | .ok bs =>
      match FixedBytes.ofList? bs with
      | some a => .ok a
      | none => .error (.width bs.length)

end UnlockProof.Address

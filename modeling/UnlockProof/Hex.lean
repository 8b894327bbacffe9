import UnlockProof.Text.Quoted

/-!
# Hexadecimal text

Byte strings are written as two lower-case digits a byte. Reading accepts either case and checks
the number of bytes of the text before its characters, so a character beyond ASCII counts as
several.
-/

namespace UnlockProof.Hex

/-- The lower-case digit of a number below 16. -/
def digit (n : Nat) : Char :=
  if n < 10 then Char.ofNat ('0'.toNat + n) else Char.ofNat ('a'.toNat + n - 10)

/-- The digits of a byte string. -/
def encode (bs : Bytes) : List Char :=
  bs.flatMap fun b => [digit (b.toNat / 16), digit (b.toNat % 16)]

/-- The digits of a byte string after the mark `0x`. -/
def text (bs : Bytes) : String := String.ofList ('0' :: 'x' :: encode bs)

/-- A number in the fewest digits after the mark `0x`. -/
def ofNat (n : Nat) : String := String.ofList ('0' :: 'x' :: Text.hexDigits n)

/-- The value of the digit that a byte spells, in either case. -/
def value? (b : UInt8) : Option UInt8 :=
  if 0x30 ≤ b && b ≤ 0x39 then some (b - 0x30)
  else if 0x61 ≤ b && b ≤ 0x66 then some (b - 0x61 + 10)
  else if 0x41 ≤ b && b ≤ 0x46 then some (b - 0x41 + 10)
  else none

/-- Why a text is not hexadecimal. -/
inductive Fault where
  | oddLength
  | badCharacter (byte : UInt8) (position : Nat)
deriving DecidableEq

/-- The text of a fault. A bad byte is shown as the character with its number. -/
def Fault.message : Fault → String
  | oddLength => "Odd number of digits"
  | badCharacter byte position =>
      let shown := Text.quotedChar (Text.latin1 byte)
      s!"Invalid character {shown} at position {position}"

/-- Reads pairs of digits; `position` is the place of the first byte. -/
def decodePairs (position : Nat) : Bytes → Except Fault Bytes
  | [] => .ok []
  | [_] => .error .oddLength
  | a :: b :: rest =>
      match value? a, value? b with
      | some high, some low => (decodePairs (position + 2) rest).map ((high * 16 + low) :: ·)
      | none, _ => .error (.badCharacter a position)
      | _, none => .error (.badCharacter b (position + 1))

/-- Reads the bytes of a hexadecimal text. -/
def decode (bytes : Bytes) : Except Fault Bytes :=
  if bytes.length % 2 = 1 then .error .oddLength else decodePairs 0 bytes

/-- Reads hexadecimal digits. -/
def decodeChars (cs : List Char) : Except Fault Bytes := decode (Text.utf8 cs)

end UnlockProof.Hex

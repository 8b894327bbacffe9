import UnlockProof.Text.Basic

/-!
# Percent-encoded text

A character that may not stand in some part of a URL is written as its UTF-8 bytes, each as a
percent sign and two capital hexadecimal digits. Every part has its own set of such characters;
controls and everything beyond ASCII belong to all of them.
-/

namespace UnlockProof.Url

/-- Tells for each character whether a part of a URL holds it only in encoded form. -/
abbrev EncodeSet := Char → Bool

/-- A set with some more characters. -/
def EncodeSet.add (set : EncodeSet) (more : List Char) : EncodeSet :=
  fun c => set c || more.contains c

/-- What is encoded everywhere. -/
def controlSet : EncodeSet := fun c => c.toNat < 0x20 || 0x7e < c.toNat

/-- What is encoded in a fragment. -/
def fragmentSet : EncodeSet := EncodeSet.add controlSet [' ', '"', '<', '>', '\x60']

/-- What is encoded in a path. -/
def pathSet : EncodeSet := EncodeSet.add fragmentSet ['#', '?', '\x7b', '\x7d']

/-- What is encoded in the name and the password of a user. -/
def userSet : EncodeSet :=
  EncodeSet.add pathSet ['/', ':', ';', '=', '@', '[', '\\', ']', '^', '|']

/-- What is encoded in a query. -/
def querySet : EncodeSet := EncodeSet.add controlSet [' ', '"', '#', '<', '>']

/-- What is encoded in a query under one of the special schemes. -/
def specialQuerySet : EncodeSet := EncodeSet.add querySet ['\x27']

/-- The capital hexadecimal digit of a number below 16. -/
def capitalDigit (n : Nat) : Char :=
  if n < 10 then Char.ofNat ('0'.toNat + n) else Char.ofNat ('A'.toNat + n - 10)

/-- A byte in encoded form. -/
def percentByte (b : UInt8) : List Char :=
  ['%', capitalDigit (b.toNat / 16), capitalDigit (b.toNat % 16)]

/-- Encodes the characters of a set. -/
def percentEncode (set : EncodeSet) (cs : List Char) : List Char :=
  cs.flatMap fun c => if set c then (Text.utf8 [c]).flatMap percentByte else [c]

theorem percentEncode_append (set : EncodeSet) (cs ds : List Char) :
    percentEncode set (cs ++ ds) = percentEncode set cs ++ percentEncode set ds := by
  simp [percentEncode]

/-- The value of the hexadecimal digit that a byte spells. -/
def byteDigit? (b : UInt8) : Option UInt8 :=
  if 0x30 ≤ b && b ≤ 0x39 then some (b - 0x30)
  else if 0x41 ≤ b && b ≤ 0x46 then some (b - 0x41 + 10)
  else if 0x61 ≤ b && b ≤ 0x66 then some (b - 0x61 + 10)
  else none

/-- Decodes each percent sign that two digits follow. -/
def percentDecode : Bytes → Bytes
  | 0x25 :: high :: low :: rest =>
      match byteDigit? high, byteDigit? low with
      | some h, some l => (h * 16 + l) :: percentDecode rest
      | _, _ => 0x25 :: percentDecode (high :: low :: rest)
  | b :: rest => b :: percentDecode rest
  | [] => []

end UnlockProof.Url

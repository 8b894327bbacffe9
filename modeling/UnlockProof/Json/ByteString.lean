import UnlockProof.Hex
import UnlockProof.Json.Shape

/-!
# Byte strings and large numbers in documents

Byte strings are written as hexadecimal text, with or without the mark `0x` or `0X`, or as lists
of bytes. Numbers of 256 bits are written as JSON numbers or as decimal, hexadecimal, octal or
binary text.

## Implementation notes

A list for a byte string of fixed length must not go on. The attempt to read a further byte is not
a fault in itself; what it leaves unread is.
-/

namespace UnlockProof.Json

/-- The hexadecimal digits of a text without their mark. -/
def unmarkedBytes : Bytes → Bytes
  | 0x30 :: 0x78 :: digits => digits
  | 0x30 :: 0x58 :: digits => digits
  | digits => digits

/-- Reads the items of a list as bytes. -/
def readBytes (ending : Ending) : List Tree → Except Fault Bytes
  | [] => (Tree.orFault (Tree.listFault ending)).map fun _ => []
  | t :: rest => do
      let b ← t.asByte
      return b :: (← readBytes ending rest)

/-- Reads a byte string of any length. -/
def Tree.asBytes : Tree → Except Fault Bytes
  | .string (.ok s) =>
      match Hex.decode (unmarkedBytes (Text.utf8 s.toList)) with
      | .ok bs => .ok bs
      | .error _ => .error (.wrongValue (.string s) "a valid hex string")
  | .list items ending => readBytes ending items
  | t => .error (t.mismatch ("a variable number of bytes represented as a hex string, " ++
      "an array of u8, or raw bytes"))

/-- Reads a text as a byte string of fixed length. -/
def fixedOfText (n : Nat) (s : String) : Except Fault (FixedBytes n) :=
  let bytes := Text.utf8 s.toList
  let digits := unmarkedBytes bytes
  if bytes.length % 2 = 1 then .error (.refused "odd number of digits")
  else if digits.length ≠ 2 * n then .error (.refused "invalid string length")
  else match Hex.decodePairs 0 digits with
    | .error (.badCharacter byte position) =>
        let shown := Text.quotedChar (Text.latin1 byte)
        .error (.refused s!"invalid character {shown} at position {position}")
    | .error .oddLength => .error (.refused "odd number of digits")
    | .ok bs =>
        match FixedBytes.ofList? bs with
        | some f => .ok f
        | none => .error (.refused "invalid string length")

/-- Reads the first `n` items of a list as bytes; the rest of the items follows. -/
def takeBytes (wanted : String) (ending : Ending) (place : Nat) :
    Nat → List Tree → Except Fault (Bytes × List Tree)
  | 0, items => .ok ([], items)
  | _ + 1, [] => do
      Tree.orFault (Tree.listFault ending)
      throw (.wrongLength place wanted)
  | n + 1, t :: rest => do
      let b ← t.asByte
      let (more, left) ← takeBytes wanted ending (place + 1) n rest
      return (b :: more, left)

/-- The fault of what stands in a list behind the last byte. A dangling comma and one scalar that
is no byte are passed over. -/
def behindBytes (n : Nat) (wanted : String) : List Tree → Ending → Option Fault
  | [], .closed => none
  | [], .danglingComma => none
  | [], .cut => some .endInList
  | [], .cutAfterComma => some .endInList
  | [], _ => some .trailingCharacters
  | t :: rest, ending =>
      match t.asByte, t with
      | .ok _, _ => some (.wrongLength (n + 1) wanted)
      | _, .list .. => some .trailingCharacters
      | _, .object .. => some .trailingCharacters
      | _, .broken .. => some .trailingCharacters
      | _, _ => Tree.leftOver rest ending

/-- Reads a byte string of fixed length. -/
def Tree.asFixed (n : Nat) : Tree → Except Fault (FixedBytes n)
  | .string (.ok s) => fixedOfText n s
  | .list items ending => do
      let wanted := s!"exactly {n} bytes"
      let (bs, left) ← takeBytes wanted ending 0 n items
      Tree.orFault (behindBytes n wanted left ending)
      match FixedBytes.ofList? bs with
      | some f => return f
      | none => throw (.wrongLength bs.length wanted)
  | t =>
      let width := 2 * n
      .error (t.mismatch (s!"{n} bytes, represented as a hex string of length {width}, " ++
        "an array of u8, or raw bytes"))

/-- The radix of the text of a number and its digits. -/
def radixOf : List Char → Nat × List Char
  | '0' :: 'x' :: ds | '0' :: 'X' :: ds => (16, ds)
  | '0' :: 'o' :: ds | '0' :: 'O' :: ds => (8, ds)
  | '0' :: 'b' :: ds | '0' :: 'B' :: ds => (2, ds)
  | ds => (10, ds)

/-- The number that digits of a radix spell; an underscore is skipped. -/
def spelled (radix : Nat) (ds : List Char) : Option Nat :=
  ds.foldlM (fun n c =>
    if c = '_' then some n
    else match hexDigit? c with
      | some d => if d < radix then some (n * radix + d) else none
      | none => none) 0

/-- Reads a number below `2 ^ 256`. -/
def Tree.asU256 : Tree → Except Fault U256
  | .number (.ok (.natural n)) => .ok (BitVec.ofNat 256 n.toNat)
  | .string (.ok s) =>
      let (radix, ds) := radixOf s.toList
      match spelled radix ds with
      | some n =>
          if n < U256.size then .ok (BitVec.ofNat 256 n)
          else .error (.wrongValue (.string s) "a 32 byte hex string")
      | none => .error (.wrongValue (.string s) "a 32 byte hex string")
  | t => .error (t.mismatch "a 32 byte hex string")

end UnlockProof.Json

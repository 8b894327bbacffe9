import UnlockProof.Bytes

/-!
# Base64

Three bytes are written as four symbols of six bits. One or two bytes left over are written as two
or three symbols and filled up with `=`. Reading accepts only what writing produces: the filling
must be complete and the unused bits of the last symbol must be zero.

## Implementation notes

All groups of four but the last are read first, and there `=` is no symbol. The last group has up
to four bytes. A single byte after the last full group is looked at before everything else if it
is neither a symbol nor `=`.
-/

namespace UnlockProof.Base64

/-- The symbol of a number below 64. -/
def symbol (n : Nat) : UInt8 :=
  if n < 26 then UInt8.ofNat (0x41 + n)
  else if n < 52 then UInt8.ofNat (0x61 + n - 26)
  else if n < 62 then UInt8.ofNat (0x30 + n - 52)
  else if n = 62 then 0x2b
  else 0x2f

/-- The number that a symbol stands for. -/
def value? (b : UInt8) : Option Nat :=
  let n := b.toNat
  if 0x41 ≤ n ∧ n ≤ 0x5a then some (n - 0x41)
  else if 0x61 ≤ n ∧ n ≤ 0x7a then some (n - 0x61 + 26)
  else if 0x30 ≤ n ∧ n ≤ 0x39 then some (n - 0x30 + 52)
  else if n = 0x2b then some 62
  else if n = 0x2f then some 63
  else none

/-- The byte that fills up the last group. -/
def filling : UInt8 := 0x3d

/-- Writes a byte string. -/
def encode : Bytes → Bytes
  | [] => []
  | [a] => [symbol (a.toNat / 4), symbol (a.toNat % 4 * 16), filling, filling]
  | [a, b] =>
      [symbol (a.toNat / 4), symbol (a.toNat % 4 * 16 + b.toNat / 16), symbol (b.toNat % 16 * 4),
        filling]
  | a :: b :: c :: rest =>
      symbol (a.toNat / 4) :: symbol (a.toNat % 4 * 16 + b.toNat / 16)
        :: symbol (b.toNat % 16 * 4 + c.toNat / 64) :: symbol (c.toNat % 64) :: encode rest

/-- Why a text is not Base64. -/
inductive Fault where
  | badSymbol (byte : UInt8) (offset : Nat)
  | badLength (length : Nat)
  | badLastSymbol (byte : UInt8) (offset : Nat)
  | badFilling
deriving DecidableEq

/-- The text of a fault. -/
def Fault.message : Fault → String
  | badSymbol byte offset => s!"Invalid symbol {byte}, offset {offset}."
  | badLength length => s!"Invalid input length: {length}"
  | badLastSymbol byte offset => s!"Invalid last symbol {byte}, offset {offset}."
  | badFilling => "Invalid padding"

/-- The number of the symbol at an offset. -/
def readSymbol (offset : Nat) (b : UInt8) : Except Fault Nat :=
  match value? b with
  | some n => .ok n
  | none => .error (.badSymbol b offset)

/-- The bytes of four symbols. -/
def bytesOfGroup (a b c d : Nat) : Bytes :=
  [UInt8.ofNat (a * 4 + b / 16), UInt8.ofNat (b % 16 * 16 + c / 4), UInt8.ofNat (c % 4 * 64 + d)]

/-- The symbols of the last group. At least two must stand before any filling, and nothing but
filling may follow filling. -/
def lastSymbols (offset place : Nat) : Bytes → Except Fault (List Nat)
  | [] => .ok []
  | b :: rest =>
      if b = filling then
        if place < 2 then .error (.badSymbol b (offset + place))
        else if rest.all (· == filling) then .ok []
        else .error (.badSymbol b (offset + place))
      else do
        let n ← readSymbol (offset + place) b
        return n :: (← lastSymbols offset (place + 1) rest)

/-- Reads the last group, of up to four bytes. -/
def decodeLast (offset : Nat) (group : Bytes) : Except Fault Bytes := do
  let symbols ← lastSymbols offset 0 group
  let unused (n : Nat) (bytes : Bytes) : Except Fault Bytes :=
    if n = 0 then .ok bytes
    else
      let place := symbols.length - 1
      .error (.badLastSymbol (group.getD place 0) (offset + place))
  match symbols with
  | [] => return []
  | [_] => throw (.badLength (offset + 1))
  | [a, b] =>
      if group.length ≠ 4 then throw .badFilling
      unused (b % 16) [UInt8.ofNat (a * 4 + b / 16)]
  | [a, b, c] =>
      if group.length ≠ 4 then throw .badFilling
      unused (c % 4) [UInt8.ofNat (a * 4 + b / 16), UInt8.ofNat (b % 16 * 16 + c / 4)]
  | a :: b :: c :: d :: _ => return bytesOfGroup a b c d

/-- Reads groups of four; `offset` is the place of the first byte. -/
def decodeGroups (offset : Nat) : Bytes → Except Fault Bytes
  | a :: b :: c :: d :: e :: rest => do
      let w ← readSymbol offset a
      let x ← readSymbol (offset + 1) b
      let y ← readSymbol (offset + 2) c
      let z ← readSymbol (offset + 3) d
      return bytesOfGroup w x y z ++ (← decodeGroups (offset + 4) (e :: rest))
  | last => decodeLast offset last
termination_by bs => bs.length

/-- Reads a byte string. -/
def decode (text : Bytes) : Except Fault Bytes :=
  match text.getLast? with
  | none => .ok []
  | some last =>
      if text.length % 4 = 1 ∧ last ≠ filling ∧ (value? last).isNone then
        .error (.badSymbol last (text.length - 1))
      else decodeGroups 0 text

end UnlockProof.Base64

/-!
# Byte strings

Byte strings are lists of bytes. A byte string of one fixed length carries its length as a
proof, so a hash never needs a length check once it exists.

## Implementation notes

Numbers are written most significant byte first. `bigEndian w n` has exactly `w` bytes and
`minimalBigEndian w n` is the same without its leading zero bytes, hence empty for zero.
-/

namespace UnlockProof

/-- A byte string. -/
abbrev Bytes := List UInt8

/-- A byte string of exactly `n` bytes. -/
@[ext] structure FixedBytes (n : Nat) where
  toList : Bytes
  length_toList : toList.length = n
deriving DecidableEq

/-- A 32-byte hash or trie key. -/
abbrev Hash := FixedBytes 32

/-- A 20-byte account address. -/
abbrev Address := FixedBytes 20

/-- The 256-byte log filter of a block. -/
abbrev Bloom := FixedBytes 256

/-- The 8-byte nonce of a block header. -/
abbrev BlockNonce := FixedBytes 8

/-- A 256-bit unsigned number. -/
abbrev U256 := BitVec 256

/-- How many 256-bit numbers there are. -/
abbrev U256.size : Nat := Nat.pow 2 256

namespace FixedBytes

attribute [simp] length_toList

/-- Takes a byte string that has the wanted length. -/
def ofList? {n : Nat} (bs : Bytes) : Option (FixedBytes n) :=
  if h : bs.length = n then some ⟨bs, h⟩ else none

theorem ofList?_eq_some_iff {n : Nat} {bs : Bytes} {f : FixedBytes n} :
    ofList? bs = some f ↔ bs = f.toList := by
  unfold ofList?
  split
  next h => exact ⟨fun e => by cases e; rfl, fun e => congrArg some (FixedBytes.ext e)⟩
  next h => exact ⟨nofun, fun e => absurd (e ▸ f.length_toList) h⟩

@[simp] theorem ofList?_toList {n : Nat} (f : FixedBytes n) : ofList? f.toList = some f :=
  ofList?_eq_some_iff.mpr rfl

end FixedBytes

/-- The `width` lowest bytes of a number, most significant first. -/
def bigEndian : Nat → Nat → Bytes
  | 0, _ => []
  | width + 1, n => bigEndian width (n / 256) ++ [UInt8.ofNat n]

/-- The number that bytes spell, most significant first. -/
def ofBigEndian (bs : Bytes) : Nat :=
  bs.foldl (fun n b => n * 256 + b.toNat) 0

/-- The bytes of a number below `256 ^ width` without leading zeros; empty for zero. -/
def minimalBigEndian (width n : Nat) : Bytes :=
  (bigEndian width n).dropWhile (· == 0)

@[simp] theorem length_bigEndian (width n : Nat) : (bigEndian width n).length = width := by
  induction width generalizing n with
  | zero => rfl
  | succ width ih => simp [bigEndian, ih]

@[simp] theorem ofBigEndian_append_singleton (bs : Bytes) (b : UInt8) :
    ofBigEndian (bs ++ [b]) = ofBigEndian bs * 256 + b.toNat := by
  simp [ofBigEndian]

theorem ofBigEndian_bigEndian (width n : Nat) :
    ofBigEndian (bigEndian width n) = n % Nat.pow 256 width := by
  induction width generalizing n with
  | zero => simp [bigEndian, ofBigEndian, Nat.mod_one]
  | succ width ih =>
      have step : Nat.pow 256 (width + 1) = 256 * Nat.pow 256 width := Nat.pow_succ'
      rw [bigEndian, ofBigEndian_append_singleton, ih, step, UInt8.toNat_ofNat', Nat.mod_mul]
      omega

/-- The 8 bytes of a 64-bit number. -/
def bytesOfUInt64 (n : UInt64) : FixedBytes 8 :=
  ⟨bigEndian 8 n.toNat, length_bigEndian _ _⟩

/-- The 32 bytes of a 256-bit number. -/
def bytesOfU256 (n : U256) : FixedBytes 32 :=
  ⟨bigEndian 32 n.toNat, length_bigEndian _ _⟩

end UnlockProof

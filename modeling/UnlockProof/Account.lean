import UnlockProof.Rlp

/-!
# Accounts

An account as the state trie stores it: the list of nonce, balance, storage root and code hash.
Reading a stored account accepts exactly the list that writing it produces. What an endpoint says
about an account and one of its slots is a state proof; its nodes are taken as they come, and only
a verifier looks into them.
-/

namespace UnlockProof

/-- An account of the state trie. -/
structure Account where
  nonce : UInt64
  balance : U256
  storageRoot : Hash
  codeHash : Hash
deriving DecidableEq

namespace Account
open Rlp

/-- The hash of no code at all. -/
def emptyCodeHash : Hash :=
  ⟨[0xc5, 0xd2, 0x46, 0x01, 0x86, 0xf7, 0x23, 0x3c, 0x92, 0x7e, 0x7d, 0xb2, 0xdc, 0xc7, 0x03, 0xc0,
    0xe5, 0x00, 0xb6, 0x53, 0xca, 0x82, 0x27, 0x3b, 0x7b, 0xfa, 0xd8, 0x04, 0x5d, 0x85, 0xa4, 0x70],
    rfl⟩

/-- The root of a trie that stores nothing. -/
def emptyStorageRoot : Hash :=
  ⟨[0x56, 0xe8, 0x1f, 0x17, 0x1b, 0xcc, 0x55, 0xa6, 0xff, 0x83, 0x45, 0xe6, 0x92, 0xc0, 0xf8, 0x6e,
    0x5b, 0x48, 0xe0, 0x1b, 0x99, 0x6c, 0xad, 0xc0, 0x01, 0x62, 0x2f, 0xb5, 0xe3, 0x63, 0xb4, 0x21],
    rfl⟩

/-- Tells whether an account has code. -/
def isContract (a : Account) : Bool := a.codeHash ≠ emptyCodeHash

/-- Tells whether an account has anything in its storage. -/
def hasStorage (a : Account) : Bool := a.storageRoot ≠ emptyStorageRoot

/-- The encoding of an account. -/
def encode (a : Account) : Bytes :=
  wrapList (encodeNat 8 a.nonce.toNat ++ encodeNat 32 a.balance.toNat
    ++ encodeBytes a.storageRoot.toList ++ encodeBytes a.codeHash.toList)

/-- Reads a string at the start of a byte string. -/
def readString (bs : Bytes) : Except Fault (Bytes × Bytes) := do
  let (e, rest) ← Element.read bs
  if e.isList then throw .unexpectedList
  return (e.payload, rest)

/-- Reads a number below `2 ^ 64`; its length is checked before its first byte. -/
def readUInt64 (bs : Bytes) : Except Fault (UInt64 × Bytes) := do
  let (s, rest) ← readString bs
  if s.length > 8 then throw .overflow
  if s.head? = some 0 then throw .leadingZero
  return (UInt64.ofNat (ofBigEndian s), rest)

/-- Reads a number below `2 ^ 256`; its first byte is checked before its length. -/
def readU256 (bs : Bytes) : Except Fault (U256 × Bytes) := do
  let (s, rest) ← readString bs
  if s.head? = some 0 then throw .leadingZero
  if s.length > 32 then throw .overflow
  return (BitVec.ofNat 256 (ofBigEndian s), rest)

/-- Reads a hash. -/
def readHash (bs : Bytes) : Except Fault (Hash × Bytes) := do
  let (s, rest) ← readString bs
  match FixedBytes.ofList? s with
  | some h => return (h, rest)
  | none => throw .unexpectedLength

/-- Reads an account that fills a byte string. -/
def decode (bs : Bytes) : Except Fault Account := do
  let e ← readWhole true bs
  let (nonce, rest) ← readUInt64 e.payload
  let (balance, rest) ← readU256 rest
  let (storageRoot, rest) ← readHash rest
  let (codeHash, rest) ← readHash rest
  if rest ≠ [] then throw .extraItems
  return ⟨nonce, balance, storageRoot, codeHash⟩

end Account

/-- An account and the proof of one of its slots, as an endpoint reports them. -/
structure StateProof where
  address : Address
  accountProof : List Bytes
  account : Account
  storageKey : Hash
  storageValue : U256
  storageProof : List Bytes
deriving DecidableEq

end UnlockProof

import UnlockProof.Account
import UnlockProof.Address
import UnlockProof.Record
import UnlockProof.Trie.Walk

/-!
# Checking an unlock proof

The check walks the paths that the verifier on the other chain walks and trusts nothing in the
record: the state root comes from the header, the storage root from the account that is proven
below the state root. What it returns is what the hash of the header vouches for.

## Implementation notes

A slot may be proven absent; its value is then zero. For an account without storage an empty
proof is such a proof.
-/

namespace UnlockProof.Verification

/-- Why a proof is refused. -/
inductive Fault where
  | walk (fault : Trie.Fault)
  | accountNotFound (address : Address)
  | headerEncoding (fault : Rlp.Fault)
  | headerFieldCount (count : Nat)
  | stateRootWidth (bytes : Nat)
  | blockNumberWidth (bytes : Nat)
  | accountEncoding (fault : Rlp.Fault)
  | accountDataMismatch
  | valueEncoding (fault : Rlp.Fault)
  | valueWidth (bytes : Nat)
deriving DecidableEq

/-- The text of a fault. -/
def Fault.message : Fault → String
  | walk fault => fault.message
  | accountNotFound address =>
      let shown := address.checksummed
      s!"Account {shown} not present in the state trie"
  | headerEncoding fault => "Invalid header encoding: " ++ fault.message
  | headerFieldCount count =>
      s!"Invalid header encoding: expected at least 15 fields, got {count}"
  | stateRootWidth bytes => s!"Invalid header encoding: state root is {bytes} bytes"
  | blockNumberWidth bytes => s!"Invalid header encoding: block number is {bytes} bytes"
  | accountEncoding fault => "Invalid account RLP encoding: " ++ fault.message
  | accountDataMismatch => "Proven account leaf differs from account_data"
  | valueEncoding fault => "Invalid value encoding: " ++ fault.message
  | valueWidth bytes => s!"Invalid value encoding: Storage value too long: {bytes} bytes"

/-- What an accepted unlock proof proves. -/
structure Verified where
  blockHash : Hash
  blockNumber : UInt64
  stateRoot : Hash
  account : Account
  storageKey : Hash
  storageValue : U256
deriving DecidableEq

/-- Tells whether the transfer is marked as processed. -/
def Verified.isProcessed (v : Verified) : Bool := v.storageValue ≠ 0

/-- The state root and the block number of an encoded header. -/
def headerSummary (headerData : Bytes) : Except Fault (Hash × UInt64) := do
  let items ← (Rlp.decodeList headerData).mapError .headerEncoding
  if items.length < 15 then throw (.headerFieldCount items.length)
  let root := items.getD 3 []
  let number := items.getD 8 []
  match FixedBytes.ofList? root with
  | none => throw (.stateRootWidth root.length)
  | some stateRoot =>
      if number.length > 8 then throw (.blockNumberWidth number.length)
      return (stateRoot, UInt64.ofNat (ofBigEndian number))

/-- The leaf of an account below a state root. -/
def accountLeaf (stateRoot : Hash) (address : Address) (proof : List Bytes) :
    Except Fault Bytes := do
  match ← (Trie.lookup stateRoot (keccak256 address.toList) proof).mapError .walk with
  | some leaf => return leaf
  | none => throw (.accountNotFound address)

/-- The account that a proof proves below a state root. -/
def verifyAccount (stateRoot : Hash) (address : Address) (proof : List Bytes) :
    Except Fault Account := do
  let leaf ← accountLeaf stateRoot address proof
  (Account.decode leaf).mapError .accountEncoding

/-- The number that a stored value encodes. -/
def decodeValue (stored : Bytes) : Except Fault U256 := do
  let value ← (Rlp.decodeBytes stored).mapError .valueEncoding
  if value.length > 32 then throw (.valueWidth value.length)
  return BitVec.ofNat 256 (ofBigEndian value)

/-- The value of a slot that a proof proves below a storage root; zero if it proves absence. -/
def verifyStorage (storageRoot : Hash) (slot : Hash) (proof : List Bytes) : Except Fault U256 := do
  if proof.isEmpty ∧ storageRoot = Account.emptyStorageRoot then return 0
  match ← (Trie.lookup storageRoot (keccak256 slot.toList) proof).mapError .walk with
  | some stored => decodeValue stored
  | none => return 0

/-- Checks every link of an unlock proof for a contract and a slot. -/
def verifyUnlock (r : Record) (contract : Address) (slot : Hash) : Except Fault Verified := do
  let (stateRoot, blockNumber) ← headerSummary r.headerData
  let leaf ← accountLeaf stateRoot contract r.accountProof
  if leaf ≠ r.accountData then throw .accountDataMismatch
  let account ← (Account.decode leaf).mapError .accountEncoding
  let storageValue ← verifyStorage account.storageRoot slot r.storageProof
  return ⟨keccak256 r.headerData, blockNumber, stateRoot, account, slot, storageValue⟩

end UnlockProof.Verification

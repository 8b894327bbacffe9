import UnlockProof.Keccak
import UnlockProof.Rlp

/-!
# Block headers

A header has fifteen fields of its own and a tail of up to six more that later forks have added.
Its hash is the hash of its encoding, in which the tail must have no gap.

## Implementation notes

The hash that an endpoint reports stands beside the fields and is never encoded.
-/

namespace UnlockProof

/-- The fields of a block header, and the hash reported for it. -/
structure Header where
  parentHash : Hash
  unclesHash : Hash
  beneficiary : Address
  stateRoot : Hash
  transactionsRoot : Hash
  receiptsRoot : Hash
  logsBloom : Bloom
  difficulty : U256
  number : UInt64
  gasLimit : UInt64
  gasUsed : UInt64
  timestamp : UInt64
  extraData : Bytes
  mixHash : Hash
  nonce : BlockNonce
  baseFeePerGas : Option UInt64
  withdrawalsRoot : Option Hash
  blobGasUsed : Option UInt64
  excessBlobGas : Option UInt64
  parentBeaconBlockRoot : Option Hash
  requestsHash : Option Hash
  reportedHash : Option Hash
deriving DecidableEq

/-- The layouts of a header, named for the fork that last extended it. -/
inductive Fork where
  | frontier
  | london
  | shanghai
  | cancun
  | prague
deriving DecidableEq

/-- The number of fields of a layout. -/
def Fork.fieldCount : Fork → Nat
  | frontier => 15
  | london => 16
  | shanghai => 17
  | cancun => 20
  | prague => 21

/-- The name of a layout. -/
def Fork.name : Fork → String
  | frontier => "Frontier"
  | london => "London"
  | shanghai => "Shanghai"
  | cancun => "Cancun"
  | prague => "Prague"

/-- The fields of the tail in the order of their forks. -/
inductive TailField where
  | baseFeePerGas
  | withdrawalsRoot
  | blobGasUsed
  | excessBlobGas
  | parentBeaconBlockRoot
  | requestsHash
deriving DecidableEq

/-- The name of a field of the tail. -/
def TailField.name : TailField → String
  | baseFeePerGas => "base_fee_per_gas"
  | withdrawalsRoot => "withdrawals_root"
  | blobGasUsed => "blob_gas_used"
  | excessBlobGas => "excess_blob_gas"
  | parentBeaconBlockRoot => "parent_beacon_block_root"
  | requestsHash => "requests_hash"

/-- A field of the tail that is present although an earlier one is absent. -/
structure TailGap where
  absent : TailField
  present : TailField
deriving DecidableEq

namespace Header
open Rlp

/-- The encoding of a number below `2 ^ 64`. -/
def encodeUInt64 (n : UInt64) : Bytes := encodeNat 8 n.toNat

/-- The encoding of a byte string of fixed length. -/
def encodeFixed {n : Nat} (f : FixedBytes n) : Bytes := encodeBytes f.toList

/-- The fields that every header has, encoded. -/
def encodedBody (h : Header) : List Bytes :=
  [encodeFixed h.parentHash, encodeFixed h.unclesHash, encodeFixed h.beneficiary,
    encodeFixed h.stateRoot, encodeFixed h.transactionsRoot, encodeFixed h.receiptsRoot,
    encodeFixed h.logsBloom, encodeNat 32 h.difficulty.toNat, encodeUInt64 h.number,
    encodeUInt64 h.gasLimit, encodeUInt64 h.gasUsed, encodeUInt64 h.timestamp,
    encodeBytes h.extraData, encodeFixed h.mixHash, encodeFixed h.nonce]

/-- The fields of the tail, encoded where they are present. -/
def tail (h : Header) : List (TailField × Option Bytes) :=
  [(.baseFeePerGas, h.baseFeePerGas.map encodeUInt64),
    (.withdrawalsRoot, h.withdrawalsRoot.map encodeFixed),
    (.blobGasUsed, h.blobGasUsed.map encodeUInt64),
    (.excessBlobGas, h.excessBlobGas.map encodeUInt64),
    (.parentBeaconBlockRoot, h.parentBeaconBlockRoot.map encodeFixed),
    (.requestsHash, h.requestsHash.map encodeFixed)]

/-- The first present field that follows an absent one, with the first absent one. -/
def gapIn : List (TailField × Option Bytes) → Option TailGap
  | [] => none
  | (_, some _) :: rest => gapIn rest
  | (absent, none) :: rest =>
      (rest.find? fun f => f.2.isSome).map fun present => ⟨absent, present.1⟩

/-- The gap in the tail of a header, if there is one. -/
def tailGap (h : Header) : Option TailGap := gapIn h.tail

/-- The encoding of a header, without regard to gaps. -/
def encodeFields (h : Header) : Bytes :=
  wrapList (h.encodedBody ++ h.tail.filterMap Prod.snd).flatten

/-- The encoding of a header whose tail has no gap. -/
def encode (h : Header) : Except TailGap Bytes :=
  match h.tailGap with
  | some gap => .error gap
  | none => .ok h.encodeFields

/-- The hash of a header. -/
def hash (h : Header) : Except TailGap Hash := h.encode.map keccak256

/-- The layout of a header, by the last field of its tail. -/
def fork (h : Header) : Fork :=
  if h.requestsHash.isSome then .prague
  else if h.parentBeaconBlockRoot.isSome || h.excessBlobGas.isSome || h.blobGasUsed.isSome then
    .cancun
  else if h.withdrawalsRoot.isSome then .shanghai
  else if h.baseFeePerGas.isSome then .london
  else .frontier

end Header
end UnlockProof

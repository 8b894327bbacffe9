import UnlockProof.Account
import UnlockProof.Field
import UnlockProof.Json.Shape

/-!
# Answers of an endpoint

A block and a state proof as an execution client writes them, with byte strings as text and
quantities in any of their forms, and how they are brought into typed form.

## Implementation notes

The fields of a block are read in the order of the header, the reported hash last, so the first
field that cannot be read is the one that is named. Of the storage entries of a proof only the
first counts, because only one slot is asked for.
-/

namespace UnlockProof
open Json (Fault Tree Value Member)

/-- Reads a quantity from a value. -/
def Quantity.ofValue : Value → Except Json.Fault Quantity
  | .number n => .ok (.number n)
  | .string s => .ok (.text s)
  | _ => .error (.noForm "RawQuantity")

/-- Reads a quantity that stands inside `outer` lists and objects. -/
def Quantity.ofTree (outer : Nat) (t : Tree) : Except Json.Fault Quantity := do
  ofValue (← t.value outer)

/-- An optional text as a value. -/
def textOrNull : Option String → Value
  | none => .null
  | some s => .string s

/-- An optional quantity as a value. -/
def quantityOrNull : Option Quantity → Value
  | none => .null
  | some q => q.toValue

/-- A block as an endpoint answers it. -/
structure BlockAnswer where
  hash : Option String
  parentHash : String
  sha3Uncles : String
  miner : String
  stateRoot : String
  transactionsRoot : String
  receiptsRoot : String
  logsBloom : String
  difficulty : Option Quantity
  number : Quantity
  gasLimit : Quantity
  gasUsed : Quantity
  timestamp : Quantity
  extraData : String
  mixHash : String
  nonce : Quantity
  baseFeePerGas : Option Quantity
  withdrawalsRoot : Option String
  blobGasUsed : Option Quantity
  excessBlobGas : Option Quantity
  parentBeaconBlockRoot : Option String
  requestsHash : Option String
deriving DecidableEq

namespace BlockAnswer

/-- Reads a text that may be null. -/
def optionalText (v : Value) : Except Fault (Option String) := v.optional Value.asString

/-- Reads a quantity that may be null. -/
def optionalQuantity (v : Value) : Except Fault (Option Quantity) := v.optional Quantity.ofValue

/-- The members of a block. -/
def members : List (Member Value) :=
  [.of "hash" optionalText, .of "parentHash" Value.asString, .of "sha3Uncles" Value.asString,
    .of "miner" Value.asString, .of "stateRoot" Value.asString,
    .of "transactionsRoot" Value.asString, .of "receiptsRoot" Value.asString,
    .of "logsBloom" Value.asString, .lacking "difficulty" optionalQuantity,
    .of "number" Quantity.ofValue, .of "gasLimit" Quantity.ofValue,
    .of "gasUsed" Quantity.ofValue, .of "timestamp" Quantity.ofValue,
    .of "extraData" Value.asString, .of "mixHash" Value.asString, .of "nonce" Quantity.ofValue,
    .lacking "baseFeePerGas" optionalQuantity, .lacking "withdrawalsRoot" optionalText,
    .lacking "blobGasUsed" optionalQuantity, .lacking "excessBlobGas" optionalQuantity,
    .lacking "parentBeaconBlockRoot" optionalText, .lacking "requestsHash" optionalText]

/-- Reads a block from a value. -/
def ofValue (v : Value) : Except Fault BlockAnswer := do
  let r ← v.record "RpcBlock" members
  return {
    hash := ← r.orElse "hash" optionalText none
    parentHash := ← r.need "parentHash" Value.asString
    sha3Uncles := ← r.need "sha3Uncles" Value.asString
    miner := ← r.need "miner" Value.asString
    stateRoot := ← r.need "stateRoot" Value.asString
    transactionsRoot := ← r.need "transactionsRoot" Value.asString
    receiptsRoot := ← r.need "receiptsRoot" Value.asString
    logsBloom := ← r.need "logsBloom" Value.asString
    difficulty := ← r.orElse "difficulty" optionalQuantity none
    number := ← r.need "number" Quantity.ofValue
    gasLimit := ← r.need "gasLimit" Quantity.ofValue
    gasUsed := ← r.need "gasUsed" Quantity.ofValue
    timestamp := ← r.need "timestamp" Quantity.ofValue
    extraData := ← r.need "extraData" Value.asString
    mixHash := ← r.need "mixHash" Value.asString
    nonce := ← r.need "nonce" Quantity.ofValue
    baseFeePerGas := ← r.orElse "baseFeePerGas" optionalQuantity none
    withdrawalsRoot := ← r.orElse "withdrawalsRoot" optionalText none
    blobGasUsed := ← r.orElse "blobGasUsed" optionalQuantity none
    excessBlobGas := ← r.orElse "excessBlobGas" optionalQuantity none
    parentBeaconBlockRoot := ← r.orElse "parentBeaconBlockRoot" optionalText none
    requestsHash := ← r.orElse "requestsHash" optionalText none }

/-- A block as a value, with all its members. -/
def toValue (b : BlockAnswer) : Value :=
  .ofMembers [("hash", textOrNull b.hash), ("parentHash", .string b.parentHash),
    ("sha3Uncles", .string b.sha3Uncles), ("miner", .string b.miner),
    ("stateRoot", .string b.stateRoot), ("transactionsRoot", .string b.transactionsRoot),
    ("receiptsRoot", .string b.receiptsRoot), ("logsBloom", .string b.logsBloom),
    ("difficulty", quantityOrNull b.difficulty), ("number", b.number.toValue),
    ("gasLimit", b.gasLimit.toValue), ("gasUsed", b.gasUsed.toValue),
    ("timestamp", b.timestamp.toValue), ("extraData", .string b.extraData),
    ("mixHash", .string b.mixHash), ("nonce", b.nonce.toValue),
    ("baseFeePerGas", quantityOrNull b.baseFeePerGas),
    ("withdrawalsRoot", textOrNull b.withdrawalsRoot),
    ("blobGasUsed", quantityOrNull b.blobGasUsed),
    ("excessBlobGas", quantityOrNull b.excessBlobGas),
    ("parentBeaconBlockRoot", textOrNull b.parentBeaconBlockRoot),
    ("requestsHash", textOrNull b.requestsHash)]

/-- The header of a block. -/
def toHeader (b : BlockAnswer) : Except Failure Header := do
  return {
    parentHash := ← Field.hash "parentHash" b.parentHash
    unclesHash := ← Field.hash "sha3Uncles" b.sha3Uncles
    beneficiary := ← Field.address "miner" b.miner
    stateRoot := ← Field.hash "stateRoot" b.stateRoot
    transactionsRoot := ← Field.hash "transactionsRoot" b.transactionsRoot
    receiptsRoot := ← Field.hash "receiptsRoot" b.receiptsRoot
    logsBloom := ← Field.bloom "logsBloom" b.logsBloom
    difficulty := ← Field.integerOrZero "difficulty" b.difficulty
    number := ← Field.integer64 "number" b.number
    gasLimit := ← Field.integer64 "gasLimit" b.gasLimit
    gasUsed := ← Field.integer64 "gasUsed" b.gasUsed
    timestamp := ← Field.integer64 "timestamp" b.timestamp
    extraData := ← Field.bytes "extraData" b.extraData
    mixHash := ← Field.hash "mixHash" b.mixHash
    nonce := ← Field.nonce "nonce" b.nonce
    baseFeePerGas := ← Field.optionalInteger "baseFeePerGas" b.baseFeePerGas
    withdrawalsRoot := ← Field.optionalHash "withdrawalsRoot" b.withdrawalsRoot
    blobGasUsed := ← Field.optionalInteger "blobGasUsed" b.blobGasUsed
    excessBlobGas := ← Field.optionalInteger "excessBlobGas" b.excessBlobGas
    parentBeaconBlockRoot := ← Field.optionalHash "parentBeaconBlockRoot" b.parentBeaconBlockRoot
    requestsHash := ← Field.optionalHash "requestsHash" b.requestsHash
    reportedHash := ← Field.optionalHash "hash" b.hash }

end BlockAnswer

/-- The proof of one slot as an endpoint answers it. -/
structure StorageEntry where
  key : String
  value : Quantity
  proof : List String
deriving DecidableEq

/-- A state proof as an endpoint answers it. -/
structure ProofAnswer where
  address : String
  accountProof : List String
  balance : Quantity
  codeHash : String
  nonce : Quantity
  storageHash : String
  storageProof : List StorageEntry
deriving DecidableEq

namespace StorageEntry

/-- Reads the proof of a slot from a value. -/
def ofValue (v : Value) : Except Fault StorageEntry := do
  let r ← v.record "RpcStorageProof" [.of "key" Value.asString, .of "value" Quantity.ofValue,
    .of "proof" (Value.asList Value.asString)]
  return {
    key := ← r.need "key" Value.asString
    value := ← r.need "value" Quantity.ofValue
    proof := ← r.need "proof" (Value.asList Value.asString) }

/-- The proof of a slot as a value. -/
def toValue (e : StorageEntry) : Value :=
  .ofMembers [("key", .string e.key), ("value", e.value.toValue),
    ("proof", .array (e.proof.map .string))]

end StorageEntry

namespace ProofAnswer

/-- Reads a state proof from a value. -/
def ofValue (v : Value) : Except Fault ProofAnswer := do
  let texts := Value.asList Value.asString
  let entries := Value.asList StorageEntry.ofValue
  let r ← v.record "RpcProof" [.of "address" Value.asString, .of "accountProof" texts,
    .of "balance" Quantity.ofValue, .of "codeHash" Value.asString, .of "nonce" Quantity.ofValue,
    .of "storageHash" Value.asString, .of "storageProof" entries]
  return {
    address := ← r.need "address" Value.asString
    accountProof := ← r.need "accountProof" texts
    balance := ← r.need "balance" Quantity.ofValue
    codeHash := ← r.need "codeHash" Value.asString
    nonce := ← r.need "nonce" Quantity.ofValue
    storageHash := ← r.need "storageHash" Value.asString
    storageProof := ← r.need "storageProof" entries }

/-- A state proof as a value. -/
def toValue (p : ProofAnswer) : Value :=
  .ofMembers [("address", .string p.address),
    ("accountProof", .array (p.accountProof.map .string)), ("balance", p.balance.toValue),
    ("codeHash", .string p.codeHash), ("nonce", p.nonce.toValue),
    ("storageHash", .string p.storageHash),
    ("storageProof", .array (p.storageProof.map StorageEntry.toValue))]

/-- Reads the nodes of a list from the given place on. -/
def nodesFrom (field : String) (place : Nat) : List String → Except Failure (List Bytes)
  | [] => .ok []
  | s :: rest => do
      let node ← Field.bytes s!"{field}[{place}]" s
      return node :: (← nodesFrom field (place + 1) rest)

/-- Reads the key of a slot, which may be written without its leading zeros. -/
def storageKey (s : String) : Except Failure Hash := do
  return bytesOfU256 (← Field.integer "storageProof.key" (.text s))

/-- The typed form of a proof that was asked for at a block. -/
def toStateProof (p : ProofAnswer) (block : UInt64) : Except Failure StateProof :=
  match p.storageProof with
  | [] => .error (.proofUnavailable block .noStorageEntry)
  | entry :: _ => do
      let address ← Field.address "address" p.address
      let accountProof ← nodesFrom "accountProof" 0 p.accountProof
      let nonce ← Field.integer64 "nonce" p.nonce
      let balance ← Field.integer "balance" p.balance
      let storageRoot ← Field.hash "storageHash" p.storageHash
      let codeHash ← Field.hash "codeHash" p.codeHash
      let storageKey ← storageKey entry.key
      let storageValue ← Field.integer "storageProof.value" entry.value
      let storageProof ← nodesFrom "storageProof.proof" 0 entry.proof
      return ⟨address, accountProof, ⟨nonce, balance, storageRoot, codeHash⟩, storageKey,
        storageValue, storageProof⟩

end ProofAnswer
end UnlockProof

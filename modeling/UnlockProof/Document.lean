import UnlockProof.Account
import UnlockProof.Header
import UnlockProof.Json.ByteString
import UnlockProof.Transfer

/-!
# Documents of accounts, headers and transfers

The typed documents in which a caller keeps what has been read already. The members of the tail of
a header may be absent or null.
-/

namespace UnlockProof
open Json Json.Tree

/-- Reads an account. -/
def Account.ofTree (t : Tree) : Except Fault Account := do
  let r ← t.record "AccountState"
    [.of "nonce" asUInt64, .of "balance" asU256, .of "storage_root" (asFixed 32),
      .of "code_hash" (asFixed 32)]
  return {
    nonce := ← r.need "nonce" asUInt64
    balance := ← r.need "balance" asU256
    storageRoot := ← r.need "storage_root" (asFixed 32)
    codeHash := ← r.need "code_hash" (asFixed 32) }

/-- Reads the values that identify a transfer. -/
def LogicalKey.ofTree (t : Tree) : Except Fault LogicalKey := do
  let r ← t.record "LogicalKey"
    [.of "token" (asFixed 20), .of "recipient" (asFixed 20), .of "nonce" asU256,
      .of "amount" asU256]
  return {
    token := ← r.need "token" (asFixed 20)
    recipient := ← r.need "recipient" (asFixed 20)
    nonce := ← r.need "nonce" asU256
    amount := ← r.need "amount" asU256 }

namespace Header

/-- Reads a number of the tail. -/
def optionalNumber (t : Tree) : Except Fault (Option UInt64) := t.optional asUInt64

/-- Reads a hash of the tail. -/
def optionalHash (t : Tree) : Except Fault (Option Hash) := t.optional (asFixed 32)

/-- Reads a header. -/
def ofTree (t : Tree) : Except Fault Header := do
  let r ← t.record "BlockHeaderFields"
    [.of "parent_hash" (asFixed 32), .of "uncles_hash" (asFixed 32),
      .of "beneficiary" (asFixed 20), .of "state_root" (asFixed 32),
      .of "transactions_root" (asFixed 32), .of "receipts_root" (asFixed 32),
      .of "logs_bloom" (asFixed 256), .of "difficulty" asU256, .of "number" asUInt64,
      .of "gas_limit" asUInt64, .of "gas_used" asUInt64, .of "timestamp" asUInt64,
      .of "extra_data" asBytes, .of "mix_hash" (asFixed 32), .of "nonce" (asFixed 8),
      .of "base_fee_per_gas" optionalNumber, .of "withdrawals_root" optionalHash,
      .of "blob_gas_used" optionalNumber, .of "excess_blob_gas" optionalNumber,
      .of "parent_beacon_block_root" optionalHash, .of "requests_hash" optionalHash,
      .lacking "reported_hash" optionalHash]
  return {
    parentHash := ← r.need "parent_hash" (asFixed 32)
    unclesHash := ← r.need "uncles_hash" (asFixed 32)
    beneficiary := ← r.need "beneficiary" (asFixed 20)
    stateRoot := ← r.need "state_root" (asFixed 32)
    transactionsRoot := ← r.need "transactions_root" (asFixed 32)
    receiptsRoot := ← r.need "receipts_root" (asFixed 32)
    logsBloom := ← r.need "logs_bloom" (asFixed 256)
    difficulty := ← r.need "difficulty" asU256
    number := ← r.need "number" asUInt64
    gasLimit := ← r.need "gas_limit" asUInt64
    gasUsed := ← r.need "gas_used" asUInt64
    timestamp := ← r.need "timestamp" asUInt64
    extraData := ← r.need "extra_data" asBytes
    mixHash := ← r.need "mix_hash" (asFixed 32)
    nonce := ← r.need "nonce" (asFixed 8)
    baseFeePerGas := ← r.orElse "base_fee_per_gas" optionalNumber none
    withdrawalsRoot := ← r.orElse "withdrawals_root" optionalHash none
    blobGasUsed := ← r.orElse "blob_gas_used" optionalNumber none
    excessBlobGas := ← r.orElse "excess_blob_gas" optionalNumber none
    parentBeaconBlockRoot := ← r.orElse "parent_beacon_block_root" optionalHash none
    requestsHash := ← r.orElse "requests_hash" optionalHash none
    reportedHash := ← r.orElse "reported_hash" optionalHash none }

end Header
end UnlockProof

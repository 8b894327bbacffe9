import UnlockProof.Failure

/-!
# Transfers

The bridge contract marks a transfer as processed in a mapping. The key of the mapping is the
hash of the transfer's four values packed without separators; the slot is the hash of that key
followed by the slot at which the mapping is declared. A caller may type the addresses of a
transfer. One that cannot be read is the caller's failure, and the token is looked at before the
recipient.
-/

namespace UnlockProof

/-- The values that identify a transfer. -/
structure LogicalKey where
  token : Address
  recipient : Address
  nonce : U256
  amount : U256
deriving DecidableEq

namespace LogicalKey

/-- The four values in a row: two addresses of 20 bytes, two numbers of 32. -/
def packed (k : LogicalKey) : Bytes :=
  k.token.toList ++ k.recipient.toList ++ (bytesOfU256 k.nonce).toList
    ++ (bytesOfU256 k.amount).toList

theorem length_packed (k : LogicalKey) : k.packed.length = 104 := by simp [packed]

/-- The key of the mapping under which a transfer is marked. -/
def processedHash (k : LogicalKey) : Hash := keccak256 k.packed

end LogicalKey

/-- The slot of a value of a mapping that is declared at `mappingSlot`. -/
def mappingSlotKey (mappingKey : Hash) (mappingSlot : U256) : Hash :=
  keccak256 (mappingKey.toList ++ (bytesOfU256 mappingSlot).toList)

/-- The slot that marks a transfer as processed. -/
def LogicalKey.slot (k : LogicalKey) (mappingSlot : U256) : Hash :=
  mappingSlotKey k.processedHash mappingSlot

/-- Reads an address that a caller gave. -/
def Address.parseOrFail (s : String) : Except Failure Address :=
  (Address.parse s).mapError fun f => .invalidInput (.address s f)

namespace LogicalKey

/-- The transfer between two addresses that are given as text. -/
def ofText (token recipient : String) (nonce amount : U256) : Except Failure LogicalKey := do
  let token ← Address.parseOrFail token
  let recipient ← Address.parseOrFail recipient
  return ⟨token, recipient, nonce, amount⟩

/-- The slot that marks a transfer between two addresses that are given as text. -/
def slotOfText (token recipient : String) (nonce amount mappingSlot : U256) :
    Except Failure Hash := do
  return (← ofText token recipient nonce amount).slot mappingSlot

end LogicalKey
end UnlockProof

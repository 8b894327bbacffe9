import UnlockProof.Answer
import UnlockProof.Field
import UnlockProof.Json.ByteString
import UnlockProof.Url

/-!
# Configuration

What a caller has to say before proofs can be made: the endpoint, the bridge contract and the slot
at which its mapping of processed transfers is declared. None of these has a default, because a
wrong guess would prove something about another contract.
-/

namespace UnlockProof
open Json (Fault Tree)

/-- The configuration of a caller. -/
structure Config where
  endpoint : Url
  contract : Address
  mappingSlot : U256
  /-- How many seconds an answer may take, if the caller says so. -/
  timeout : Option UInt64
  /-- Whether a header must have the hash that is reported for it. -/
  checksHash : Bool
deriving DecidableEq

/-- Reads a URL. -/
def Json.Tree.asUrl : Tree → Except Fault Url
  | .string (.ok s) =>
      (Url.parse s).mapError fun f => .refused (f.message ++ ": " ++ Text.quoted s)
  | t => .error (t.mismatch "a string representing an URL")

namespace Config

/-- Reads a slot in any form of a quantity. -/
def slotOfTree (t : Tree) : Except Fault U256 := do
  let q ← Quantity.ofTree 1 t
  (Field.integer "mapping_slot" q).mapError fun f => .refused f.message

/-- Reads a timeout, which may be null. -/
def timeoutOfTree (t : Tree) : Except Fault (Option UInt64) := t.optional Tree.asUInt64

/-- Reads a configuration. Without a word about it, hashes are checked. -/
def ofTree (t : Tree) : Except Fault Config := do
  let r ← t.record "UnlockProofConfig"
    [.of "rpc_url" Tree.asUrl, .of "contract_address" (Tree.asFixed 20),
      .of "mapping_slot" slotOfTree, .lacking "request_timeout_secs" timeoutOfTree,
      .lacking "verify_block_hash" Tree.asBool]
  return {
    endpoint := ← r.need "rpc_url" Tree.asUrl
    contract := ← r.need "contract_address" (Tree.asFixed 20)
    mappingSlot := ← r.need "mapping_slot" slotOfTree
    timeout := ← r.orElse "request_timeout_secs" timeoutOfTree none
    checksHash := ← r.orElse "verify_block_hash" Tree.asBool true }

/-- Reads the text of a configuration. -/
def ofText (text : String) : Except Failure Config :=
  (Json.decode ofTree text).mapError fun f => .invalidInput (.configuration f)

/-- The timeout in seconds where the caller says nothing. -/
def usualTimeout : UInt64 := 60

/-- How many seconds an answer may take. -/
def timeoutSeconds (c : Config) : UInt64 := c.timeout.getD usualTimeout

end Config
end UnlockProof

import UnlockProof.Address
import UnlockProof.Base64
import UnlockProof.Header
import UnlockProof.Http.Status
import UnlockProof.Json.Fault
import UnlockProof.Quantity
import UnlockProof.Record

/-!
# Failures

Why no unlock proof comes about. A failure is either the caller's, who gave something that cannot
be used, or the environment's: the endpoint that is asked for the state does not deliver. Only the
latter are worth another try.
-/

namespace UnlockProof

/-- The two lists of trie nodes of a record. -/
inductive NodeList where
  | account
  | storage
deriving DecidableEq

/-- The name of a list of nodes. -/
def NodeList.name : NodeList → String
  | account => "account_proof"
  | storage => "storage_proof"

/-- The forms that the fields of an endpoint's answer have. -/
inductive Form where
  | hash
  | address
  | bloom
  | bytes
  | integer
  | optionalInteger
  | defaultedInteger
  | nonce
deriving DecidableEq

/-- The name of a form. -/
def Form.name : Form → String
  | hash => "32-byte hash"
  | address => "20-byte address"
  | bloom => "256-byte bloom"
  | bytes => "hex bytes"
  | integer => "unsigned integer"
  | optionalInteger => "optional unsigned integer"
  | defaultedInteger => "unsigned integer or null"
  | nonce => "8-byte nonce"

/-- Why a value has not the form of its field. -/
inductive FormFault where
  | unmarked (text : String)
  | hex (text : String) (fault : Hex.Fault)
  | width (bytes : Nat)
  | quantity (fault : Quantity.Fault)
  | tooWide (value : U256)
deriving DecidableEq

/-- The text of a fault of form. -/
def FormFault.message : FormFault → String
  | unmarked text => Text.quoted text ++ " has no 0x prefix"
  | hex text fault => Text.quoted text ++ ": " ++ fault.message
  | width bytes => s!"got {bytes} bytes"
  | quantity fault => fault.message
  | tooWide value =>
      let n := value.toNat
      s!"{n} does not fit in 64 bits"

/-- Why an input of the caller cannot be used. -/
inductive InputFault where
  | address (text : String) (fault : Address.Fault)
  | emptyNode (list : NodeList) (index : Nat)
  | headerData (fault : Rlp.Fault)
  | headerFieldCount (count : Nat)
  | headerFieldWidth (position bytes : Nat)
  | accountData (fault : Rlp.Fault)
  | transport (fault : Base64.Fault)
  | configuration (fault : Json.Fault)

/-- The text of a fault of the input. -/
def InputFault.message : InputFault → String
  | address text fault => "address " ++ Text.quoted text ++ ": " ++ fault.message
  | emptyNode list index =>
      let name := list.name
      s!"{name} node {index} is empty"
  | headerData fault => "header_data: " ++ fault.message
  | headerFieldCount count =>
      let least := Fork.frontier.fieldCount
      let most := Fork.prague.fieldCount
      s!"header_data has {count} fields, expected {least}..={most}"
  | headerFieldWidth position bytes =>
      s!"header_data field {position} is {bytes} bytes, expected a 32-byte hash"
  | accountData fault => "account_data: " ++ fault.message
  | transport fault => "transport payload is not base64: " ++ fault.message
  | configuration fault => "configuration: " ++ fault.message

/-- Why a field has no canonical form. -/
inductive Mismatch where
  | form (wanted : Form) (fault : FormFault)
  | tailGap (absent : TailField)
  | number (requested returned : UInt64)
  | hash (block : UInt64) (computed reported : Hash)

/-- The text of a mismatch. -/
def Mismatch.message : Mismatch → String
  | form wanted fault => "expected " ++ wanted.name ++ ": " ++ fault.message
  | tailGap absent =>
      let name := absent.name
      s!"present while earlier fork field \x60{name}\x60 is absent"
  | number requested returned =>
      s!"requested block {requested}, endpoint returned {returned}"
  | hash block computed reported =>
      let first := Hex.text computed.toList
      let second := Hex.text reported.toList
      s!"re-encoded header of block {block} hashes to {first}, endpoint reported {second}"

/-- Why a proof is not to be had. -/
inductive Unavailable where
  | noStorageEntry
  | emptyAccountProof (contract : Address)
  | nullProof
  | reported (message : String)

/-- The text of an unavailability. -/
def Unavailable.message : Unavailable → String
  | noStorageEntry => "response carries no storage proof entry"
  | emptyAccountProof contract => "empty account proof for " ++ contract.checksummed
  | nullProof => "eth_getProof returned null"
  | reported message => message

/-- Why the endpoint could not be talked to. -/
inductive NetworkFault where
  | timedOut
  | notSent (url : String)
  | brokenBody
  | undecodable (fault : Json.Fault)
  | status (code : Nat)
  | resultShape (fault : Json.Fault)

/-- The text of a network fault. -/
def NetworkFault.message : NetworkFault → String
  | timedOut => "request timed out"
  | notSent url => s!"error sending request for url ({url})"
  | brokenBody => "error decoding response body"
  | undecodable fault => "undecodable response: " ++ fault.message
  | status code =>
      let phrase := Http.phrase code
      s!"HTTP {code} {phrase}"
  | resultShape fault => "unexpected result shape: " ++ fault.message

/-- Why a record does not fit the wire schema. -/
inductive SchemaFault where
  | noNodes (list : NodeList)
  | reading (fault : Record.Fault)
  | tooLong

/-- The text of a fault of the schema. -/
def SchemaFault.message : SchemaFault → String
  | noNodes list => list.name ++ " has no nodes"
  | reading fault => fault.message
  | tooLong => "invalid data"

/-- Why no unlock proof comes about. -/
inductive Failure where
  | invalidInput (fault : InputFault)
  | encodingMismatch (field : String) (mismatch : Mismatch)
  | proofUnavailable (block : UInt64) (cause : Unavailable)
  | blockNotFound (block : UInt64)
  | network (method : String) (fault : NetworkFault)
  | offline (reason : String)
  | rpc (code : Int64) (message : String)
  | schema (fault : SchemaFault)

namespace Failure

/-- The text of a failure. -/
def message : Failure → String
  | invalidInput fault => "Invalid input: " ++ fault.message
  | encodingMismatch field mismatch =>
      s!"Cannot produce canonical form of field \x60{field}\x60: " ++ mismatch.message
  | proofUnavailable block cause => s!"Proof unavailable at block {block}: " ++ cause.message
  | blockNotFound block => s!"Block {block} not found"
  | network method fault =>
      s!"Network failure talking to state query endpoint: {method}: " ++ fault.message
  | offline reason => "Network failure talking to state query endpoint: " ++ reason
  | rpc code message =>
      let n := code.toInt
      s!"State query endpoint returned error {n}: {message}"
  | schema fault =>
      let version := Record.schemaVersion
      s!"Record not representable in proof schema v{version}: " ++ fault.message

/-- Tells whether a failure comes from the endpoint and not from the caller. -/
def isEnvironmental : Failure → Bool
  | proofUnavailable .. | blockNotFound .. | network .. | offline .. | rpc .. => true
  | invalidInput .. | encodingMismatch .. | schema .. => false

end Failure
end UnlockProof

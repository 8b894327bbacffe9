import UnlockProof.Account
import UnlockProof.Failure

/-!
# Records from headers and state proofs

A header whose tail has a gap has no encoding and no hash; the failure names the field after the
gap. An endpoint reports the hash that it holds, and a header that encodes to another one would
make a proof that no verifier accepts.

Assembling a record changes nothing in its parts; it only checks what the verifier cannot do
without: both lists of nodes are there and have no empty node, the header is a list of a known
length with hashes at the places of the oldest fields, and the account is one. A record travels as
the Base64 text of its schema bytes. White space around the text does not matter; nothing else is
passed over.
-/

namespace UnlockProof

namespace Header

/-- The encoding of a header, or the failure that names the field after a gap. -/
def encodeOrFail (h : Header) : Except Failure Bytes :=
  h.encode.mapError fun gap => .encodingMismatch gap.present.name (.tailGap gap.absent)

/-- The hash of a header, or the failure that names the field after a gap. -/
def hashOrFail (h : Header) : Except Failure Hash := h.encodeOrFail.map keccak256

/-- The hash of a header, which must be the reported one if there is one. -/
def checkReportedHash (h : Header) : Except Failure Hash := do
  let computed ← h.hashOrFail
  match h.reportedHash with
  | some reported =>
      if reported ≠ computed then
        throw (.encodingMismatch "hash" (.hash h.number computed reported))
      return computed
  | none => return computed

end Header

namespace Record

/-- Checks that a list of nodes has a node and no empty one. -/
def checkNodes (list : NodeList) (nodes : List Bytes) : Except Failure Unit :=
  if nodes.isEmpty then .error (.schema (.noNodes list))
  else match nodes.findIdx? List.isEmpty with
    | some index => .error (.invalidInput (.emptyNode list index))
    | none => .ok ()

/-- The places of a header that are checked to hold a hash. -/
def hashPositions : List Nat := [0, 1, 3, 4, 5, 13]

/-- Checks the number of fields of a header and the width of its oldest hashes. -/
def checkHeader (headerData : Bytes) : Except Failure Unit :=
  match Rlp.decodeList headerData with
  | .error f => .error (.invalidInput (.headerData f))
  | .ok items =>
      if items.length < Fork.frontier.fieldCount ∨ Fork.prague.fieldCount < items.length then
        .error (.invalidInput (.headerFieldCount items.length))
      else
        match hashPositions.find? fun p => (items.getD p []).length ≠ 32 with
        | some p => .error (.invalidInput (.headerFieldWidth p (items.getD p []).length))
        | none => .ok ()

/-- Checks the parts of a record and puts them together. -/
def assemble (headerData : Bytes) (accountProof : List Bytes) (accountData : Bytes)
    (storageProof : List Bytes) : Except Failure Record := do
  checkNodes .account accountProof
  checkNodes .storage storageProof
  checkHeader headerData
  match Account.decode accountData with
  | .error f => throw (.invalidInput (.accountData f))
  | .ok _ => return ⟨headerData, accountProof, accountData, storageProof⟩

/-- The record of a header and a state proof. -/
def build (header : Header) (proof : StateProof) : Except Failure Record := do
  let headerData ← header.encodeOrFail
  assemble headerData proof.accountProof proof.account.encode proof.storageProof

/-- The transport text of a record. -/
def serialize (r : Record) : Except Failure String :=
  match r.toSchema? with
  | some bs => .ok (String.ofList ((Base64.encode bs).map Text.latin1))
  | none => .error (.schema .tooLong)

/-- Reads schema bytes. -/
def ofSchemaOrFail (bs : Bytes) : Except Failure Record :=
  (ofSchema bs).mapError fun f => .schema (.reading f)

/-- Reads a transport text; white space around it does not matter. -/
def deserialize (transport : String) : Except Failure Record :=
  match Base64.decode (Text.utf8 (Text.trimmed transport.toList)) with
  | .error f => .error (.invalidInput (.transport f))
  | .ok bs => ofSchemaOrFail bs

end Record
end UnlockProof

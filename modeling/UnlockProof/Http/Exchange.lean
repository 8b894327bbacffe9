import UnlockProof.Endpoint
import UnlockProof.Envelope

/-!
# Exchanges over HTTP

An endpoint is asked by posting the envelope of a request. What becomes of the request is an
exchange; the answer is read from the body of the response. The body decides also where the status
reports no success: an envelope with an error or a result counts, and only a body that is no
envelope is reported by its status.
-/

namespace UnlockProof
open Json (Value)

namespace Request

/-- The method that answers with a proof. -/
def proofMethod : String := "eth_getProof"

/-- The method that answers with a block. -/
def blockMethod : String := "eth_getBlockByNumber"

/-- The request for the state of a contract. -/
def ofProofQuery (q : ProofQuery) : Request :=
  ⟨proofMethod, [.string (Hex.text q.contract.toList),
    .array (q.slots.map fun slot => .string (Hex.text slot.toList)), .string (blockTag q.block)]⟩

/-- The request for a block without its transactions. -/
def ofBlock (block : UInt64) : Request :=
  ⟨blockMethod, [.string (blockTag block), .bool false]⟩

end Request

/-- What becomes of a request. -/
inductive Exchange where
  /-- No response comes in time. -/
  | timedOut
  /-- The connection to a URL ends before a response comes. -/
  | notSent (url : String)
  /-- A response comes whose body lacks some of the bytes that it announces. -/
  | answered (status : Nat) (body : String) (lacking : Nat)
deriving DecidableEq

namespace Exchange

/-- The status and the whole body of the response. -/
def response : Exchange → Except NetworkFault (Nat × String)
  | timedOut => .error .timedOut
  | notSent url => .error (.notSent url)
  | answered status body lacking =>
      if Http.isBodiless status then .ok (status, "")
      else if lacking = 0 then .ok (status, body)
      else .error .brokenBody

/-- The envelope in the response. -/
def envelope (x : Exchange) : Except NetworkFault Response := do
  let (status, body) ← x.response
  (Response.ofText body).mapError fun f =>
    if Http.isSuccess status then .undecodable f else .status status

/-- Reads the result of a method about a block. An absent result is as good as null. -/
def result {α : Type} (ofValue : Value → Except Json.Fault α) (method : String) (block : UInt64)
    (x : Exchange) : Except Failure (Option α) := do
  let r ← x.envelope.mapError (.network method)
  match r.error, r.result with
  | some e, _ => throw (e.classify block)
  | none, none => return none
  | none, some v => ((ofValue v).map some).mapError fun f => .network method (.resultShape f)

/-- The answer about the state of a contract. -/
def proofAnswer (block : UInt64) (x : Exchange) : Except Failure ProofAnswer :=
  x.result ProofAnswer.ofValue Request.proofMethod block >>= ProofAnswer.orUnavailable block

/-- The answer about a block. -/
def blockAnswer (block : UInt64) (x : Exchange) : Except Failure (Option BlockAnswer) :=
  x.result BlockAnswer.ofValue Request.blockMethod block

end Exchange

/-- The endpoint that is asked over HTTP. -/
def Endpoint.overHttp (post : Request → Exchange) : Endpoint where
  proof q := ⟨(post (.ofProofQuery q)).proofAnswer q.block, 0⟩
  block n := ⟨(post (.ofBlock n)).blockAnswer n, 0⟩

end UnlockProof

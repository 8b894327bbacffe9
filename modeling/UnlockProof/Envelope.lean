import UnlockProof.Failure
import UnlockProof.Hex
import UnlockProof.Json.Shape
import UnlockProof.Text.LowerCase

/-!
# Request and response envelopes

A request names a method and its parameters. A response carries a result or an error object whose
message is free text; what it says decides whether another try is worth while.

## Implementation notes

The message of an error is searched in lower case for the phrases that clients use. A phrase for
state that is no longer held counts before a phrase for a block that is not known.
-/

namespace UnlockProof
open Json (Fault Tree Value)

/-- A request. -/
structure Request where
  method : String
  params : List Value

/-- The envelope of a request. -/
def Request.toValue (r : Request) : Value :=
  .ofMembers [("jsonrpc", .string "2.0"), ("method", .string r.method),
    ("params", .array r.params), ("id", .ofUInt64 1)]

/-- The name of a block in the parameters of a request: its number in the fewest digits. -/
def blockTag (block : UInt64) : String := Hex.ofNat block.toNat

/-- The error object of a response. -/
structure ErrorObject where
  code : Int64
  message : String
  data : Option Value

/-- The response to a request. -/
structure Response where
  id : Value
  result : Option Value
  error : Option ErrorObject

namespace ErrorObject

/-- Reads an error object that stands inside `outer` lists and objects. -/
def ofTree (outer : Nat) (t : Tree) : Except Fault ErrorObject := do
  let data (t : Tree) : Except Fault (Option Value) := t.optional (Tree.value (outer + 1))
  let r ← t.record "JsonRpcError" [.of "code" Tree.asInt64, .of "message" Tree.asString,
    .of "data" data]
  return {
    code := ← r.need "code" Tree.asInt64
    message := ← r.need "message" Tree.asString
    data := ← r.orElse "data" data none }

/-- An error object as a value; absent data is left out. -/
def toValue (e : ErrorObject) : Value :=
  .ofMembers ([("code", .number (.ofInt64 e.code)), ("message", .string e.message)]
    ++ e.data.toList.map fun d => ("data", d))

/-- The phrases for state that is no longer held. -/
def prunedPhrases : List String :=
  ["missing trie node", "historical state", "pruned", "state not available",
    "state is not available"]

/-- The phrases for a block that is not known. -/
def unknownBlockPhrases : List String := ["header not found", "unknown block", "block not found"]

/-- Tells whether a phrase stands somewhere in a text. -/
def contains (phrase : List Char) : List Char → Bool
  | [] => phrase.isEmpty
  | c :: cs => phrase.isPrefixOf (c :: cs) || contains phrase cs

/-- Tells whether one of the phrases stands in the lower case of a message. -/
def mentions (message : String) (phrases : List String) : Bool :=
  let text := Text.lower message.toList
  phrases.any fun p => contains p.toList text

/-- The failure that an error object reports for a request about a block. -/
def classify (e : ErrorObject) (block : UInt64) : Failure :=
  if mentions e.message prunedPhrases then .proofUnavailable block (.reported e.message)
  else if mentions e.message unknownBlockPhrases then .blockNotFound block
  else .rpc e.code e.message

end ErrorObject

namespace Response

/-- Reads a response. Every member may be absent. -/
def ofTree (t : Tree) : Except Fault Response := do
  let result (t : Tree) : Except Fault (Option Value) := t.optional (Tree.value 1)
  let error (t : Tree) : Except Fault (Option ErrorObject) := t.optional (ErrorObject.ofTree 1)
  let r ← t.record "JsonRpcResponse" [.lacking "id" (Tree.value 1), .lacking "result" result,
    .lacking "error" error]
  return {
    id := ← r.orElse "id" (Tree.value 1) .null
    result := ← r.orElse "result" result none
    error := ← r.orElse "error" error none }

/-- Reads the text of a response. -/
def ofText (text : String) : Except Fault Response := Json.decode ofTree text

end Response
end UnlockProof

import UnlockProof.Bytes

/-!
# Unlock proof records

A record holds what the verifier on the other chain walks: the encoded header of a block, the
proof of the bridge's account below the state root of that header, the encoded account, and the
proof of the transfer's slot below the storage root of that account.

## Implementation notes

The wire schema is the four parts in order. A byte string is its length, four bytes with the
least significant first, and its bytes; a list of byte strings is its length and its entries.
There is no version on the wire: the reader of a record knows it.
-/

namespace UnlockProof

/-- An unlock proof. -/
structure Record where
  headerData : Bytes
  accountProof : List Bytes
  accountData : Bytes
  storageProof : List Bytes
deriving DecidableEq

namespace Record

/-- The version of the wire schema. -/
def schemaVersion : Nat := 1

/-- The lengths that the schema can express are below this bound. -/
def lengthBound : Nat := UInt32.size

/-- Tells whether all lengths of a record can be expressed. -/
def isRepresentable (r : Record) : Bool :=
  let nodes (ns : List Bytes) := decide (ns.length < lengthBound)
    && ns.all fun n => decide (n.length < lengthBound)
  decide (r.headerData.length < lengthBound) && nodes r.accountProof
    && decide (r.accountData.length < lengthBound) && nodes r.storageProof

/-- A length in four bytes, the least significant first. -/
def writeLength (n : Nat) : Bytes := (bigEndian 4 n).reverse

/-- A byte string after its length. -/
def writeBytes (bs : Bytes) : Bytes := writeLength bs.length ++ bs

/-- A list of byte strings after its length. -/
def writeNodes (ns : List Bytes) : Bytes := writeLength ns.length ++ ns.flatMap writeBytes

/-- The schema bytes of a record, if all its lengths can be expressed. -/
def toSchema? (r : Record) : Option Bytes :=
  if r.isRepresentable then
    some (writeBytes r.headerData ++ writeNodes r.accountProof ++ writeBytes r.accountData
      ++ writeNodes r.storageProof)
  else none

/-- Why bytes are not the schema bytes of a record. -/
inductive Fault where
  | endsEarly
  | goesOn
deriving DecidableEq

/-- The text of a fault. -/
def Fault.message : Fault → String
  | endsEarly => "Unexpected length of input"
  | goesOn => "Not all bytes read"

/-- Reads a length. -/
def readLength : Bytes → Except Fault (Nat × Bytes)
  | a :: b :: c :: d :: rest => .ok (ofBigEndian [d, c, b, a], rest)
  | _ => .error .endsEarly

/-- Reads a byte string after its length. -/
def readBytes (bs : Bytes) : Except Fault (Bytes × Bytes) := do
  let (n, rest) ← readLength bs
  if rest.length < n then throw .endsEarly
  return (rest.take n, rest.drop n)

/-- Reads a number of byte strings. -/
def readEntries : Nat → Bytes → Except Fault (List Bytes × Bytes)
  | 0, bs => .ok ([], bs)
  | n + 1, bs => do
      let (first, rest) ← readBytes bs
      let (more, rest) ← readEntries n rest
      return (first :: more, rest)

/-- Reads a list of byte strings after its length. -/
def readNodes (bs : Bytes) : Except Fault (List Bytes × Bytes) := do
  let (n, rest) ← readLength bs
  readEntries n rest

/-- Reads a record that fills a byte string. -/
def ofSchema (bs : Bytes) : Except Fault Record := do
  let (headerData, rest) ← readBytes bs
  let (accountProof, rest) ← readNodes rest
  let (accountData, rest) ← readBytes rest
  let (storageProof, rest) ← readNodes rest
  if rest ≠ [] then throw .goesOn
  return ⟨headerData, accountProof, accountData, storageProof⟩

end Record
end UnlockProof

import UnlockProof.Hex
import UnlockProof.Keccak
import UnlockProof.Rlp
import UnlockProof.Trie.Node

/-!
# Walking a proof

A proof is a list of nodes from the root down. The walk follows the path of a key: the root must
have the expected hash, and each node must have the hash that its parent names. A child shorter
than a hash is embedded in its parent and takes no place in the list. The walk ends with the value
of the key or with the knowledge that there is none; nodes after its end are not looked at.

## Implementation notes

Every step either enters an embedded child, which is shorter than its node, or takes the next node
of the list. So the walk ends by the number of nodes left and, among steps that take none, by the
length of the node.
-/

namespace UnlockProof.Trie

/-- Why a proof is refused. `index` counts nodes of the list, `depth` steps of the walk. -/
inductive Fault where
  | emptyProof
  | encoding (index : Nat) (fault : Rlp.Fault)
  | referenceLength (index length : Nat)
  | rootMismatch (computed expected : Bytes)
  | nodeKind (depth items : Nat)
  | incomplete (depth : Nat)
deriving DecidableEq

/-- The text of a fault. -/
def Fault.message : Fault → String
  | emptyProof => "Empty proof: no trie nodes provided"
  | encoding index fault =>
      let reason := fault.message
      s!"Invalid RLP encoding in proof node {index}: {reason}"
  | referenceLength index length =>
      s!"Invalid RLP encoding in proof node {index}: child reference is {length} bytes"
  | rootMismatch computed expected => "Proof verification failed: computed root "
      ++ Hex.text computed ++ " does not match expected root " ++ Hex.text expected
  | nodeKind depth items => s!"Invalid trie node type at depth {depth}: expected branch, " ++
      s!"extension or leaf, got {items}-element list"
  | incomplete depth => s!"Proof path incomplete: trie traversal ended at depth {depth} " ++
      "without reaching the key"

/-- Walks down from a node; `later` are the nodes that follow the one at `index`. -/
def descend (node : Bytes) (path : List Nibble) (later : List Bytes) (index depth : Nat) :
    Except Fault (Option Bytes) :=
  match hd : Rlp.decodeList node with
  | .error f => .error (.encoding index f)
  | .ok items =>
      match hs : step items path with
      | none => .error (.nodeKind depth items.length)
      | some (.found value) => .ok (some value)
      | some .absent => .ok none
      | some (.below child rest) =>
          if child.length < 32 then
            have := Rlp.length_lt_of_mem_decodeList hd (mem_of_step hs)
            descend child rest later index (depth + 1)
          else if child.length > 32 then .error (.referenceLength index child.length)
          else match later with
            | [] => .error (.incomplete (depth + 1))
            | next :: later =>
                if (keccak256 next).toList = child then
                  descend next rest later (index + 1) (depth + 1)
                else .error (.rootMismatch (keccak256 next).toList child)
termination_by (later.length, node.length)

/-- Walks a proof for a key below a root: the value of the key, or none if it is not stored. -/
def lookup (root : Hash) (key : Hash) : List Bytes → Except Fault (Option Bytes)
  | [] => .error .emptyProof
  | node :: later =>
      if keccak256 node = root then descend node (nibbles key.toList) later 0 0
      else .error (.rootMismatch (keccak256 node).toList root.toList)

end UnlockProof.Trie

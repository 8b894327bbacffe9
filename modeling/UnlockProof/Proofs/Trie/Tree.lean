import UnlockProof.Proofs.Rlp.List
import UnlockProof.Proofs.Trie.Compact
import UnlockProof.Proofs.Trie.Descent

/-!
# Tries

A trie maps paths to values. Its nodes are encoded as lists; a child whose encoding is shorter
than a hash stands in its parent, and of every other child the parent holds the hash. Every path
makes a descent from the root of a trie, and its answer is what the trie stores.

## Implementation notes

Keys are paths of any length, so the descent below a node is the descent of a trie of its own. A
branch holds a trie for each nibble, and the empty trie stands for a missing child.
-/

namespace UnlockProof.Trie
open Rlp

/-- A trie from paths to values. -/
inductive Tree where
  | empty
  | leaf (path : List Nibble) (value : Bytes)
  | extension (path : List Nibble) (child : Tree)
  | branch (children : Nibble → Tree) (value : Bytes)

namespace Tree

/-- Tells whether a trie has no node. -/
def isEmpty : Tree → Bool
  | empty => true
  | _ => false

/-- The value that a trie stores at a path. -/
def find : Tree → List Nibble → Option Bytes
  | empty, _ => none
  | leaf path value, key => if key = path then some value else none
  | extension path child, key =>
      if path.isPrefixOf key then child.find (key.drop path.length) else none
  | branch _ value, [] => if value.isEmpty then none else some value
  | branch children _, n :: key => (children n).find key

variable {t child : Tree} {children : Nibble → Tree} {node value : Bytes}
  {path key rest : List Nibble} {taken : List Bytes} {answer : Option Bytes} {n : Nibble}

/-- The encoding of a node with the given items. -/
def nodeOf (items : List Item) : Bytes := wrapList (encodeItems items)

/-- How a node with the given items stands in its parent. -/
def itemOf (items : List Item) : Item :=
  if (nodeOf items).length < 32 then .list (encodeItems items)
  else .string (keccak256 (nodeOf items)).toList

/-- The items of the node of a trie. -/
def items : Tree → List Item
  | empty => []
  | leaf path value => [.string (compact true path), .string value]
  | extension path child => [.string (compact false path), itemOf child.items]
  | branch children value =>
      (List.finRange 16).map (fun n =>
        if (children n).isEmpty then .string [] else itemOf (children n).items)
        ++ [.string value]

/-- The encoding of the node of a trie; the empty trie is an empty string. -/
def encode (t : Tree) : Bytes := if t.isEmpty then encodeBytes [] else nodeOf t.items

/-- The root hash of a trie. -/
def root (t : Tree) : Hash := keccak256 t.encode

/-- The nodes below the root on a path that are known by their hashes. -/
def later : Tree → List Nibble → List Bytes
  | empty, _ => []
  | leaf _ _, _ => []
  | extension path child, key =>
      if path.isPrefixOf key then
        if child.encode.length < 32 then child.later (key.drop path.length)
        else child.encode :: child.later (key.drop path.length)
      else []
  | branch _ _, [] => []
  | branch children _, n :: key =>
      if (children n).encode.length < 32 then (children n).later key
      else (children n).encode :: (children n).later key

/-- The proof for a path: its nodes that are known by their hashes, from the root down. -/
def proof (t : Tree) (key : List Nibble) : List Bytes :=
  if t.isEmpty then [] else t.encode :: t.later key

/-- A trie that is built by the rules: no leaf without a value, no extension by nothing, and only
branches below extensions. The size of each node fits in a head. -/
inductive WellFormed : Tree → Prop
  | empty : WellFormed .empty
  | leaf {path : List Nibble} {value : Bytes} (hvalue : value ≠ [])
      (hsize : (Tree.leaf path value).encode.length < UInt64.size) : WellFormed (.leaf path value)
  | extension {path : List Nibble} {children : Nibble → Tree} {value : Bytes} (hpath : path ≠ [])
      (hchild : WellFormed (.branch children value))
      (hsize : (Tree.extension path (.branch children value)).encode.length < UInt64.size) :
      WellFormed (.extension path (.branch children value))
  | branch {children : Nibble → Tree} {value : Bytes} (hchildren : ∀ n, WellFormed (children n))
      (hsize : (Tree.branch children value).encode.length < UInt64.size) :
      WellFormed (.branch children value)

theorem isEmpty_iff : t.isEmpty = true ↔ t = .empty := by
  cases t <;> simp [isEmpty]

theorem nodeOf_ne_nil (is : List Item) : nodeOf is ≠ [] :=
  encode_ne_nil (.list (encodeItems is))

theorem length_nodeOf_le (is : List Item) : (nodeOf is).length ≤ (encodeItems is).length + 9 :=
  length_encode_le (.list (encodeItems is))

theorem view_itemOf_of_lt {is : List Item} (h : (nodeOf is).length < 32) :
    (itemOf is).view = nodeOf is := by
  rw [itemOf, if_pos h]
  rfl

theorem view_itemOf_of_le {is : List Item} (h : ¬ (nodeOf is).length < 32) :
    (itemOf is).view = (keccak256 (nodeOf is)).toList := by
  rw [itemOf, if_neg h]
  rfl

theorem view_itemOf_ne_nil (is : List Item) : (itemOf is).view ≠ [] := by
  by_cases h : (nodeOf is).length < 32
  · rw [view_itemOf_of_lt h]
    exact nodeOf_ne_nil is
  · rw [view_itemOf_of_le h]
    intro hnil
    have := congrArg List.length hnil
    simp at this

theorem encode_ne_nil (t : Tree) : t.encode ≠ [] := by
  rw [encode]
  split
  · exact List.cons_ne_nil _ _
  · exact nodeOf_ne_nil t.items

theorem encode_eq_nodeOf (h : t.isEmpty = false) : t.encode = nodeOf t.items := by
  simp [encode, h]

/-- A descent from a child is a descent from its parent, which takes the child from the list if
only its hash stands in the parent. -/
theorem descent_of_child (hchild : child.isEmpty = false)
    (h : Leads node path (.below (itemOf child.items).view rest))
    (tail : Descent child.encode rest taken answer) :
    Descent node path
      (if child.encode.length < 32 then taken else child.encode :: taken) answer := by
  have hnode := encode_eq_nodeOf hchild
  by_cases hshort : child.encode.length < 32
  · rw [if_pos hshort]
    rw [hnode] at hshort tail
    rw [view_itemOf_of_lt hshort] at h
    exact .embedded h hshort tail
  · rw [if_neg hshort]
    rw [hnode] at hshort tail ⊢
    rw [view_itemOf_of_le hshort] at h
    exact .named h tail

theorem step_pair (compact target : Bytes) (path : List Nibble) :
    step [compact, target] path = some (stepAlong compact target path) := rfl

theorem leads_of_step {s : Step} (hnode : t.isEmpty = false)
    (hsize : t.encode.length < UInt64.size)
    (hstep : step (t.items.map Item.view) key = some s) : Leads t.encode key s := by
  rw [encode_eq_nodeOf hnode] at hsize ⊢
  have hfits : (encodeItems t.items).length < UInt64.size := by
    rw [nodeOf, wrapList, List.length_append] at hsize
    omega
  exact ⟨t.items.map Item.view, decodeList_wrapList hfits, hstep⟩

theorem leads_leaf (hvalue : value ≠ [])
    (hsize : (leaf path value).encode.length < UInt64.size) :
    Leads (leaf path value).encode key (if key = path then .found value else .absent) := by
  have hviews : (leaf path value).items.map Item.view = [compact true path, value] := rfl
  have hfound : Step.ofValue value = .found value := if_neg (by simpa using hvalue)
  apply leads_of_step rfl hsize
  rw [hviews, step_pair, stepAlong, compactPath_compact, hfound]
  simp only [if_true]

theorem leads_extension (hsize : (extension path child).encode.length < UInt64.size) :
    Leads (extension path child).encode key
      (if path.isPrefixOf key then .below (itemOf child.items).view (key.drop path.length)
        else .absent) := by
  have hviews : (extension path child).items.map Item.view =
      [compact false path, (itemOf child.items).view] := rfl
  apply leads_of_step rfl hsize
  rw [hviews, step_pair, stepAlong, compactPath_compact]
  simp only [Bool.false_eq_true, if_false]

theorem leads_branch_nil (hsize : (branch children value).encode.length < UInt64.size) :
    Leads (branch children value).encode [] (.ofValue value) := by
  apply leads_of_step rfl hsize
  simp [items, step, stepAt]

theorem leads_branch_cons (hsize : (branch children value).encode.length < UInt64.size) :
    Leads (branch children value).encode (n :: key)
      (if (children n).isEmpty then .absent
        else .below (itemOf (children n).items).view key) := by
  apply leads_of_step rfl hsize
  have hview := view_itemOf_ne_nil (children n).items
  by_cases hn : (children n).isEmpty
  · simp [items, step, stepAt, hn]
  · simp [items, step, stepAt, hn, hview]

/-- Every path makes a descent from the node of a trie to what the trie stores there, by way of
the nodes that are known by their hashes. -/
theorem descent_of_wellFormed (h : t.WellFormed) (key : List Nibble) (hnode : t.isEmpty = false) :
    Descent t.encode key (t.later key) (t.find key) := by
  induction h generalizing key with
  | empty => cases hnode
  | @leaf path value hvalue hsize =>
      have hlead : Leads (leaf path value).encode key _ := leads_leaf hvalue hsize
      rw [find, later]
      by_cases hkey : key = path
      · rw [if_pos hkey] at hlead ⊢
        exact .found hlead
      · rw [if_neg hkey] at hlead ⊢
        exact .absent hlead
  | @extension path children value hpath hchild hsize ih =>
      have hlead : Leads (extension path (branch children value)).encode key _ :=
        leads_extension hsize
      rw [find, later]
      by_cases hown : path.isPrefixOf key = true
      · rw [if_pos hown] at hlead
        rw [if_pos hown, if_pos hown]
        have tail := ih (key.drop path.length) rfl
        exact descent_of_child rfl hlead tail
      · rw [if_neg hown] at hlead
        rw [if_neg hown, if_neg hown]
        exact .absent hlead
  | @branch children value hchildren hsize ih =>
      cases key with
      | nil =>
          have hlead : Leads (branch children value).encode [] _ := leads_branch_nil hsize
          rw [Step.ofValue] at hlead
          rw [find, later]
          split
          · next hvalue =>
              rw [if_pos hvalue] at hlead
              exact .absent hlead
          · next hvalue =>
              rw [if_neg hvalue] at hlead
              exact .found hlead
      | cons n key =>
          have hlead : Leads (branch children value).encode (n :: key) _ :=
            leads_branch_cons hsize
          rw [find, later]
          cases hn : (children n).isEmpty with
          | true =>
              rw [if_pos hn] at hlead
              rw [isEmpty_iff.mp hn]
              exact .absent hlead
          | false =>
              rw [if_neg (Bool.not_eq_true _ ▸ hn)] at hlead
              exact descent_of_child hn hlead (ih n key hn)

/-- The value that a trie stores at a key. -/
def get (t : Tree) (key : Hash) : Option Bytes := t.find (nibbles key.toList)

/-- The proof for a key. -/
def proofOf (t : Tree) (key : Hash) : List Bytes := t.proof (nibbles key.toList)

theorem proofOf_eq_cons (hnode : t ≠ .empty) (key : Hash) :
    t.proofOf key = t.encode :: t.later (nibbles key.toList) := by
  rw [proofOf, proof, if_neg (mt isEmpty_iff.mp hnode)]

/-- The proof for a key proves what the trie stores there, whatever nodes follow. -/
theorem lookup_proofOf (h : t.WellFormed) (hnode : t ≠ .empty) (key : Hash)
    (surplus : List Bytes) : lookup t.root key (t.proofOf key ++ surplus) = .ok (t.get key) := by
  have hbool : t.isEmpty = false := Bool.eq_false_iff.mpr (mt isEmpty_iff.mp hnode)
  have run := descent_of_wellFormed h (nibbles key.toList) hbool
  apply lookup_eq_ok_iff.mpr
  refine ⟨t.encode, t.later (nibbles key.toList), surplus, ?_, rfl, run⟩
  rw [proofOf_eq_cons hnode, List.cons_append]

/-- The trie that stores one value at one key. -/
def single (key : Hash) (value : Bytes) : Tree := .leaf (nibbles key.toList) value

theorem get_single (key : Hash) (value : Bytes) : (single key value).get key = some value :=
  if_pos rfl

theorem length_encode_single_le (key : Hash) (value : Bytes) :
    (single key value).encode.length ≤ value.length + 100 := by
  let is := [compact true (nibbles key.toList), value].map Item.string
  have hpath := length_compact_le true (nibbles key.toList)
  have hitems := length_encodeItems_string_le [compact true (nibbles key.toList), value]
  have hnode : (nodeOf is).length ≤ (encodeItems is).length + 9 := length_nodeOf_le is
  have hencode : (single key value).encode = nodeOf is := rfl
  rw [length_nibbles, key.length_toList] at hpath
  simp only [List.map_cons, List.map_nil, List.sum_cons, List.sum_nil, List.length_cons,
    List.length_nil, is] at hitems hnode
  rw [hencode]
  simp only [List.map_cons, List.map_nil, is]
  omega

theorem wellFormed_single {key : Hash} {value : Bytes} (hvalue : value ≠ [])
    (hsize : value.length < UInt32.size) : (single key value).WellFormed := by
  have hnode := length_encode_single_le key value
  have hbound : UInt32.size + 100 < UInt64.size := by decide
  apply WellFormed.leaf hvalue
  rw [single] at hnode
  omega

end Tree
end UnlockProof.Trie

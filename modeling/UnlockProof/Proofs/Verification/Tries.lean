import UnlockProof.Proofs.Header.Encoding
import UnlockProof.Proofs.Trie.Tree
import UnlockProof.Proofs.Verification.Agreement

/-!
# Proofs from tries

What a trie stores is what the proofs that are read off it prove, and no other nodes prove
anything else below its root, unless one of them has the hash of a node of the trie. For a storage
trie this is the value of a slot, and for a state trie the account of an address. So a record that
is read off two tries is accepted, and it proves what they hold.

## Implementation notes

The trie without nodes has a root but no proof that is walked, so it stands apart from the others.
-/

namespace UnlockProof.Verification

variable {t : Trie.Tree} {slot : Hash} {address : Address} {value : U256} {a : Account}
  {answer : Option Bytes} {nodes : List Bytes}

/-- Says that a storage trie gives a slot its value; a slot that is not stored is zero. -/
def HoldsValue (t : Trie.Tree) (slot : Hash) (value : U256) : Prop :=
  t.get (keccak256 slot.toList) = some (Rlp.encodeNat 32 value.toNat) ∨
    t.get (keccak256 slot.toList) = none ∧ value = 0

/-- Says that a state trie gives an address its account. -/
def HoldsAccount (t : Trie.Tree) (address : Address) (a : Account) : Prop :=
  t.get (keccak256 address.toList) = some a.encode

theorem lookup_eq_or_hasCollision (h : t.WellFormed) (hnode : t ≠ .empty) {key : Hash}
    (hlookup : Trie.lookup t.root key nodes = .ok answer) :
    answer = t.get key ∨ HasCollision nodes (t.proofOf key) := by
  have hproof := Trie.Tree.lookup_proofOf h hnode key []
  rw [List.append_nil] at hproof
  exact Trie.eq_of_lookup_eq_ok hlookup hproof

theorem slotValue_of_holdsValue (h : HoldsValue t slot value) :
    slotValue (t.get (keccak256 slot.toList)) = .ok value := by
  rcases h with hstored | ⟨hnone, rfl⟩
  · rw [hstored]
    exact decodeValue_encodeNat value
  · rw [hnone]
    rfl

theorem verifyStorage_of_holdsValue (h : t.WellFormed) (hnode : t ≠ .empty)
    (hvalue : HoldsValue t slot value) (surplus : List Bytes) :
    verifyStorage t.root slot (t.proofOf (keccak256 slot.toList) ++ surplus) = .ok value := by
  have hlookup := Trie.Tree.lookup_proofOf h hnode (keccak256 slot.toList) surplus
  exact verifyStorage_eq_ok_iff.mpr (Or.inr ⟨_, hlookup, slotValue_of_holdsValue hvalue⟩)

theorem verifyAccount_of_holdsAccount (h : t.WellFormed) (hnode : t ≠ .empty)
    (haccount : HoldsAccount t address a) (surplus : List Bytes) :
    verifyAccount t.root address (t.proofOf (keccak256 address.toList) ++ surplus) = .ok a := by
  have hlookup := Trie.Tree.lookup_proofOf h hnode (keccak256 address.toList) surplus
  rw [haccount] at hlookup
  exact verifyAccount_eq_ok_iff.mpr hlookup

theorem verifyAccount_of_get_eq_none (h : t.WellFormed) (hnode : t ≠ .empty)
    (hnone : t.get (keccak256 address.toList) = none) (surplus : List Bytes) :
    verifyAccount t.root address (t.proofOf (keccak256 address.toList) ++ surplus) =
      .error (.accountNotFound address) := by
  have hlookup := Trie.Tree.lookup_proofOf h hnode (keccak256 address.toList) surplus
  rw [verifyAccount, accountLeaf, hlookup, hnone]
  rfl

/-- The record that a header and two tries give for a slot of a contract, with further nodes behind
both proofs. -/
def recordOf (headerData : Bytes) (state storage : Trie.Tree) (contract : Address) (a : Account)
    (slot : Hash) (surplus : List Bytes) : Record :=
  ⟨headerData, state.proofOf (keccak256 contract.toList) ++ surplus, a.encode,
    storage.proofOf (keccak256 slot.toList) ++ surplus⟩

/-- A record is accepted if its header has the root of a state trie, and an account of this trie
the root of a storage trie. It proves what the tries hold. -/
theorem verifyUnlock_recordOf {state storage : Trie.Tree} {h : Header} {headerData : Bytes}
    (hextra : h.extraData.length < Nat.pow 2 63) (he : h.encode = .ok headerData)
    (hstate : state.WellFormed) (hstate' : state ≠ .empty) (hroot : h.stateRoot = state.root)
    (haccount : HoldsAccount state address a) (hstorage : storage.WellFormed)
    (hstorage' : storage ≠ .empty) (hroot' : a.storageRoot = storage.root)
    (hvalue : HoldsValue storage slot value) (surplus : List Bytes) :
    verifyUnlock (recordOf headerData state storage address a slot surplus) address slot =
      .ok ⟨keccak256 headerData, h.number, h.stateRoot, a, slot, value⟩ := by
  have hsummary := headerSummary_encode hextra he
  have hverify := verifyAccount_of_holdsAccount hstate hstate' haccount surplus
  have hverify' := verifyStorage_of_holdsValue hstorage hstorage' hvalue surplus
  rw [← hroot] at hverify
  rw [← hroot'] at hverify'
  exact verifyUnlock_eq_ok_iff.mpr ⟨hsummary, hverify, rfl, hverify', rfl, rfl⟩

/-- A state trie of one account. -/
def accountTrie (address : Address) (a : Account) : Trie.Tree :=
  .single (keccak256 address.toList) a.encode

/-- A storage trie of one slot. -/
def slotTrie (slot : Hash) (value : U256) : Trie.Tree :=
  .single (keccak256 slot.toList) (Rlp.encodeNat 32 value.toNat)

theorem wellFormed_accountTrie (address : Address) (a : Account) :
    (accountTrie address a).WellFormed := by
  have hsize := a.length_encode_le
  exact Trie.Tree.wellFormed_single a.encode_ne_nil (Nat.lt_of_le_of_lt hsize (by decide))

theorem wellFormed_slotTrie (slot : Hash) (value : U256) : (slotTrie slot value).WellFormed := by
  have hsize := Rlp.length_encodeNat_le 32 value.toNat
  have hne := Rlp.encode_ne_nil (.string (minimalBigEndian 32 value.toNat))
  exact Trie.Tree.wellFormed_single hne (Nat.lt_of_le_of_lt hsize (by decide))

theorem holdsAccount_accountTrie (address : Address) (a : Account) :
    HoldsAccount (accountTrie address a) address a := Trie.Tree.get_single _ _

theorem holdsValue_slotTrie (slot : Hash) (value : U256) :
    HoldsValue (slotTrie slot value) slot value := Or.inl (Trie.Tree.get_single _ _)

/-- The address of 20 equal bytes. -/
def uniform (b : UInt8) : Address := ⟨List.replicate 20 b, List.length_replicate⟩

/-- An account with one slot. -/
def slotAccount (slot : Hash) (value : U256) : Account :=
  ⟨1, 0, (slotTrie slot value).root, Account.emptyCodeHash⟩

/-- A header over a state of one account, which has one slot. -/
def slotHeader (address : Address) (slot : Hash) (value : U256) : Header :=
  { Header.genesis with
    stateRoot := (accountTrie address (slotAccount slot value)).root, reportedHash := none }

/-- The record that proves the one slot of the one account. -/
def slotRecord (address : Address) (slot : Hash) (value : U256) (surplus : List Bytes) : Record :=
  recordOf (slotHeader address slot value).encodeFields
    (accountTrie address (slotAccount slot value)) (slotTrie slot value) address
    (slotAccount slot value) slot surplus

theorem encode_slotHeader (address : Address) (slot : Hash) (value : U256) :
    (slotHeader address slot value).encode = .ok (slotHeader address slot value).encodeFields := by
  apply Header.encode_eq_ok_iff.mpr
  refine ⟨?_, rfl⟩
  simp [Header.HasContiguousTail, Header.tailPresence, slotHeader, Header.genesis]

theorem length_extraData_slotHeader (address : Address) (slot : Hash) (value : U256) :
    (slotHeader address slot value).extraData.length = 32 := length_bigEndian 32 _

/-- Every value of every slot of every contract is proven by some record, whatever nodes follow. -/
theorem verifyUnlock_slotRecord (address : Address) (slot : Hash) (value : U256)
    (surplus : List Bytes) :
    verifyUnlock (slotRecord address slot value surplus) address slot =
      .ok ⟨keccak256 (slotHeader address slot value).encodeFields, 0,
        (accountTrie address (slotAccount slot value)).root, slotAccount slot value, slot,
        value⟩ := by
  have hextra : (slotHeader address slot value).extraData.length < Nat.pow 2 63 := by
    rw [length_extraData_slotHeader]
    decide
  exact verifyUnlock_recordOf (h := slotHeader address slot value) hextra
    (encode_slotHeader address slot value) (wellFormed_accountTrie address _) nofun rfl
    (holdsAccount_accountTrie address _) (wellFormed_slotTrie slot value) nofun rfl
    (holdsValue_slotTrie slot value) surplus

/-- The walk agrees with the trie. The nodes of a key that are known by their hashes prove what
the trie stores at the key, and other nodes that are accepted prove the same, unless one of them
and a node of the trie are different and have one hash. So a slot has the value that its storage
trie holds, and an address the account that the state trie holds. -/
theorem agrees_with_tree (h : t.WellFormed) (hnode : t ≠ .empty) :
    (∀ key, Trie.lookup t.root key (t.proofOf key) = .ok (t.get key) ∧
      ∀ nodes answer, Trie.lookup t.root key nodes = .ok answer →
        answer = t.get key ∨ HasCollision nodes (t.proofOf key)) ∧
    (∀ slot value, HoldsValue t slot value →
      verifyStorage t.root slot (t.proofOf (keccak256 slot.toList)) = .ok value ∧
      ∀ nodes value', verifyStorage t.root slot nodes = .ok value' →
        value' = value ∨
          HasCollision ([0x80] :: nodes) ([0x80] :: t.proofOf (keccak256 slot.toList))) ∧
    (∀ address a, HoldsAccount t address a →
      verifyAccount t.root address (t.proofOf (keccak256 address.toList)) = .ok a ∧
      ∀ nodes a', verifyAccount t.root address nodes = .ok a' →
        a' = a ∨ HasCollision nodes (t.proofOf (keccak256 address.toList))) ∧
    ∀ address, t.get (keccak256 address.toList) = none →
      verifyAccount t.root address (t.proofOf (keccak256 address.toList)) =
        .error (.accountNotFound address) := by
  refine ⟨?_, ?_, ?_, ?_⟩
  · intro key
    have hproof := Trie.Tree.lookup_proofOf h hnode key []
    rw [List.append_nil] at hproof
    refine ⟨hproof, ?_⟩
    intro nodes answer hlookup
    exact lookup_eq_or_hasCollision h hnode hlookup
  · intro slot value hvalue
    have hproof := verifyStorage_of_holdsValue h hnode hvalue []
    rw [List.append_nil] at hproof
    refine ⟨hproof, ?_⟩
    intro nodes value' hnodes
    exact value_eq_or_hasCollision hnodes hproof
  · intro address a haccount
    have hproof := verifyAccount_of_holdsAccount h hnode haccount []
    rw [List.append_nil] at hproof
    refine ⟨hproof, ?_⟩
    intro nodes a' hnodes
    exact account_eq_or_hasCollision hnodes hproof
  · intro address hnone
    have hproof := verifyAccount_of_get_eq_none h hnode hnone []
    rwa [List.append_nil] at hproof

/-- A storage trie of one root node: its extension holds a branch, and this holds two leaves. -/
def nested : Trie.Tree :=
  .extension ((Trie.nibbles (keccak256 (bytesOfU256 0).toList).toList).take 63)
    (.branch (fun n =>
      if n = 3 then .leaf [] (Rlp.encodeNat 32 5)
      else if n = 4 then .leaf [] (Rlp.encodeNat 32 7)
      else .empty) [])

theorem wellFormed_nested : nested.WellFormed := by
  apply Trie.Tree.WellFormed.extension
  · decide +kernel
  · apply Trie.Tree.WellFormed.branch
    · intro n
      split
      · exact .leaf (by decide +kernel) (by decide +kernel)
      · split
        · exact .leaf (by decide +kernel) (by decide +kernel)
        · exact .empty
    · decide +kernel
  · decide +kernel

/-- Slot zero is proven to be five and slot one to be zero by the root node alone, and an account
is proven by the root node of its own trie. -/
theorem agrees_with_tree_nested :
    verifyStorage nested.root (bytesOfU256 0) [nested.encode] = .ok 5 ∧
      verifyStorage nested.root (bytesOfU256 1) [nested.encode] = .ok 0 ∧
      verifyAccount (accountTrie (uniform 1) (slotAccount (bytesOfU256 0) 5)).root (uniform 1)
        [(accountTrie (uniform 1) (slotAccount (bytesOfU256 0) 5)).encode] =
        .ok (slotAccount (bytesOfU256 0) 5) := by
  obtain ⟨-, hstorage, -, -⟩ := agrees_with_tree wellFormed_nested nofun
  obtain ⟨-, -, haccount, -⟩ := agrees_with_tree
    (wellFormed_accountTrie (uniform 1) (slotAccount (bytesOfU256 0) 5)) nofun
  have hzero := hstorage (bytesOfU256 0) 5 (Or.inl (by decide +kernel))
  have hone := hstorage (bytesOfU256 1) 0 (Or.inr (by decide +kernel))
  have hproof : nested.proofOf (keccak256 (bytesOfU256 0).toList) = [nested.encode] := by
    decide +kernel
  have hproof' : nested.proofOf (keccak256 (bytesOfU256 1).toList) = [nested.encode] := by
    decide +kernel
  rw [hproof] at hzero
  rw [hproof'] at hone
  have hsingle := haccount (uniform 1) (slotAccount (bytesOfU256 0) 5)
    (holdsAccount_accountTrie (uniform 1) (slotAccount (bytesOfU256 0) 5))
  exact ⟨hzero.1, hone.1, hsingle.1⟩

end UnlockProof.Verification

import UnlockProof.Proofs.Verification.Steps

/-!
# What a root fixes

Two accepted proofs below one root agree, or different nodes of one hash are found among them. This
holds for the account below a state root and for the value of a slot below a storage root.

## Implementation notes

An empty proof is accepted for an empty storage without a walk. Its hash is that of the byte 128,
so this byte counts among the strings that are shown.
-/

namespace UnlockProof.Verification

variable {root : Hash} {contract : Address} {slot : Hash} {proof proof' : List Bytes}
  {a a' : Account} {value value' : U256}

/-- Two proofs below one state root prove the same account. -/
theorem account_eq_or_hasCollision (h : verifyAccount root contract proof = .ok a)
    (h' : verifyAccount root contract proof' = .ok a') : a = a' ∨ HasCollision proof proof' := by
  have hlookup := verifyAccount_eq_ok_iff.mp h
  have hlookup' := verifyAccount_eq_ok_iff.mp h'
  rcases Trie.eq_of_lookup_eq_ok hlookup hlookup' with hleaf | hcollision
  · exact Or.inl (Account.encode_injective (Option.some.inj hleaf))
  · exact Or.inr hcollision

/-- The root of an empty storage is the hash of the empty string's encoding. -/
theorem keccak256_emptyString : keccak256 [0x80] = Account.emptyStorageRoot := by decide +kernel

/-- No walk starts at an empty string. -/
theorem not_descent_emptyString {path : List Trie.Nibble} {taken : List Bytes}
    {answer : Option Bytes} : ¬ Trie.Descent [0x80] path taken answer := by
  have hlist : ∀ items, Rlp.decodeList [0x80] ≠ .ok items := nofun
  have hlead : ∀ s, ¬ Trie.Leads [0x80] path s := by
    rintro s ⟨items, hitems, -⟩
    exact hlist items hitems
  intro run
  cases run with
  | found h => exact hlead _ h
  | absent h => exact hlead _ h
  | embedded h => exact hlead _ h
  | named h => exact hlead _ h

/-- A walk below the root of an empty storage starts with a node that is not the empty string but
has its hash. -/
theorem hasCollision_of_lookup_emptyStorageRoot {key : Hash} {answer : Option Bytes}
    (h : Trie.lookup Account.emptyStorageRoot key proof = .ok answer) :
    ∃ node ∈ proof, Collide [0x80] node := by
  obtain ⟨node, taken, surplus, rfl, hroot, run⟩ := Trie.lookup_eq_ok_iff.mp h
  have hhash : keccak256 [0x80] = keccak256 node := keccak256_emptyString.trans hroot.symm
  refine ⟨node, List.mem_cons_self, ?_, hhash⟩
  rintro rfl
  exact not_descent_emptyString run

/-- Two proofs below one storage root prove the same value of a slot. -/
theorem value_eq_or_hasCollision (h : verifyStorage root slot proof = .ok value)
    (h' : verifyStorage root slot proof' = .ok value') :
    value = value' ∨ HasCollision ([0x80] :: proof) ([0x80] :: proof') := by
  rcases verifyStorage_eq_ok_iff.mp h with ⟨-, hroot, hzero⟩ | ⟨answer, hlookup, hvalue⟩
  · rcases verifyStorage_eq_ok_iff.mp h' with ⟨-, -, hzero'⟩ | ⟨answer', hlookup', -⟩
    · exact Or.inl (hzero.trans hzero'.symm)
    · rw [hroot] at hlookup'
      obtain ⟨node, hnode, hcollide⟩ := hasCollision_of_lookup_emptyStorageRoot hlookup'
      exact Or.inr ⟨[0x80], List.mem_cons_self, node, List.mem_cons_of_mem _ hnode, hcollide⟩
  · rcases verifyStorage_eq_ok_iff.mp h' with ⟨-, hroot', -⟩ | ⟨answer', hlookup', hvalue'⟩
    · rw [hroot'] at hlookup
      obtain ⟨node, hnode, hne, hhash⟩ := hasCollision_of_lookup_emptyStorageRoot hlookup
      have hcollide : Collide node [0x80] := ⟨hne.symm, hhash.symm⟩
      exact Or.inr ⟨node, List.mem_cons_of_mem _ hnode, [0x80], List.mem_cons_self, hcollide⟩
    · rcases Trie.eq_of_lookup_eq_ok hlookup hlookup' with rfl | hcollision
      · exact Or.inl (Except.ok.inj (hvalue.symm.trans hvalue'))
      · apply Or.inr
        exact hcollision.mono (List.subset_cons_self _ _) (List.subset_cons_self _ _)

end UnlockProof.Verification

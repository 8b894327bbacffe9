import UnlockProof.Proofs.Verification.Tries

/-!
# What a block hash fixes

Two accepted records of one block hash prove the same, or different byte strings of one hash are
found among what they show. So nothing that is accepted for a block depends on who has put the
record together.
-/

namespace UnlockProof.Verification

variable {contract : Address} {slot : Hash} {r r' : Record} {v v' : Verified}

attribute [ext] Verified

/-- The byte strings of a record that the check hashes. -/
def hashed (r : Record) : List Bytes := r.headerData :: (r.accountProof ++ r.storageProof)

theorem headerData_mem_hashed (r : Record) : r.headerData ∈ [0x80] :: hashed r := by
  simp [hashed]

theorem accountProof_subset_hashed (r : Record) : r.accountProof ⊆ [0x80] :: hashed r := by
  intro node hnode
  simp [hashed, hnode]

theorem storageProof_subset_hashed (r : Record) :
    [0x80] :: r.storageProof ⊆ [0x80] :: hashed r := by
  apply List.cons_subset_cons
  intro node hnode
  simp [hashed, hnode]

/-- Two accepted records of one block prove the same, whatever bytes and surplus nodes they hold,
unless different byte strings of one hash are found among what they show. -/
theorem verified_eq_or_hasCollision (h : verifyUnlock r contract slot = .ok v)
    (h' : verifyUnlock r' contract slot = .ok v') (hblock : v.blockHash = v'.blockHash) :
    v = v' ∨ HasCollision ([0x80] :: hashed r) ([0x80] :: hashed r') := by
  obtain ⟨hheader, haccount, -, hvalue, hhash, hslot⟩ := verifyUnlock_eq_ok_iff.mp h
  obtain ⟨hheader', haccount', -, hvalue', hhash', hslot'⟩ := verifyUnlock_eq_ok_iff.mp h'
  have hdata : keccak256 r.headerData = keccak256 r'.headerData :=
    hhash.symm.trans (hblock.trans hhash')
  -- Each link carries equality to the next one, or shows a collision.
  rcases eq_or_collide hdata with hdata | hcollide
  · rw [← hdata, hheader] at hheader'
    obtain ⟨hroot, hnumber⟩ := Prod.mk.inj (Except.ok.inj hheader')
    rw [← hroot] at haccount'
    rcases account_eq_or_hasCollision haccount haccount' with heq | hcollision
    · rw [← heq] at hvalue'
      rcases value_eq_or_hasCollision hvalue hvalue' with hval | hcollision
      · have hkey : v.storageKey = v'.storageKey := hslot.trans hslot'.symm
        exact Or.inl (Verified.ext hblock hnumber hroot heq hkey hval)
      · apply Or.inr
        exact hcollision.mono (storageProof_subset_hashed r) (storageProof_subset_hashed r')
    · apply Or.inr
      exact hcollision.mono (accountProof_subset_hashed r) (accountProof_subset_hashed r')
  · exact Or.inr ⟨_, headerData_mem_hashed r, _, headerData_mem_hashed r', hcollide⟩

/-- Two records of one block, of which the second holds a node that is not looked at. -/
theorem verified_eq_or_hasCollision_surplus :
    slotRecord (uniform 1) (bytesOfU256 0) 5 [] ≠
        slotRecord (uniform 1) (bytesOfU256 0) 5 [[0xff]] ∧
      ∃ v v',
        verifyUnlock (slotRecord (uniform 1) (bytesOfU256 0) 5 []) (uniform 1) (bytesOfU256 0) =
          .ok v ∧
        verifyUnlock (slotRecord (uniform 1) (bytesOfU256 0) 5 [[0xff]]) (uniform 1)
          (bytesOfU256 0) = .ok v' ∧
        (v = v' ∨ HasCollision ([0x80] :: hashed (slotRecord (uniform 1) (bytesOfU256 0) 5 []))
          ([0x80] :: hashed (slotRecord (uniform 1) (bytesOfU256 0) 5 [[0xff]]))) := by
  have haccept := verifyUnlock_slotRecord (uniform 1) (bytesOfU256 0) 5 []
  have haccept' := verifyUnlock_slotRecord (uniform 1) (bytesOfU256 0) 5 [[0xff]]
  refine ⟨?_, _, _, haccept, haccept', verified_eq_or_hasCollision haccept haccept' rfl⟩
  intro h
  have hproof := congrArg (fun r : Record => r.accountProof.length) h
  simp [slotRecord, recordOf] at hproof

end UnlockProof.Verification

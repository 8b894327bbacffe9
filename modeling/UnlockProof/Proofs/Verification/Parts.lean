import UnlockProof.Proofs.Verification.Tries

/-!
# A record and its parts

The check of a record accepts what the checks of its parts accept, one after the other, and it
proves what they prove. The account data adds nothing to what is proven, but only one byte string
is accepted as account data beside the other parts.

## Implementation notes

The check compares the account data with the leaf before it reads the leaf, and the check of an
account reads the leaf alone. The two agree because an account has one encoding.
-/

namespace UnlockProof.Verification

variable {headerData data : Bytes} {root : Hash} {number : UInt64} {r : Record} {contract : Address}
  {slot : Hash} {v : Verified}

/-- A header names a root and a number exactly if it is a list of at least 15 items, of which the
fourth is the root and the ninth, of at most eight bytes, spells the number. -/
theorem headerSummary_eq_ok_iff_getElem? :
    headerSummary headerData = .ok (root, number) ↔
      ∃ items digits, Rlp.decodeList headerData = .ok items ∧ 15 ≤ items.length ∧
        items[3]? = some root.toList ∧ items[8]? = some digits ∧ digits.length ≤ 8 ∧
        ofBigEndian digits = number.toNat := by
  rw [headerSummary_eq_ok_iff]
  constructor
  · rintro ⟨items, hitems, hcount, hroot, hwidth, rfl⟩
    have hthird : items[3]? = some items[3] := List.getElem?_eq_getElem (by omega)
    have heighth : items[8]? = some items[8] := List.getElem?_eq_getElem (by omega)
    rw [List.getD_eq_getElem?_getD, hthird] at hroot
    rw [List.getD_eq_getElem?_getD, heighth] at hwidth ⊢
    have hvalue : (UInt64.ofNat (ofBigEndian items[8])).toNat = ofBigEndian items[8] :=
      UInt64.toNat_ofNat_of_lt' (ofBigEndian_lt_of_length_le hwidth)
    exact ⟨items, items[8], hitems, hcount, hthird.trans (congrArg some hroot), heighth, hwidth,
      hvalue.symm⟩
  · rintro ⟨items, digits, hitems, hcount, hthird, heighth, hwidth, hvalue⟩
    have hroot : items.getD 3 [] = root.toList := by rw [List.getD_eq_getElem?_getD, hthird]; rfl
    have hdigits : items.getD 8 [] = digits := by rw [List.getD_eq_getElem?_getD, heighth]; rfl
    rw [← hdigits] at hwidth hvalue
    refine ⟨items, hitems, hcount, hroot, hwidth, ?_⟩
    rw [hvalue, UInt64.ofNat_toNat]

/-- Beside the other parts of an accepted record no other account data is accepted. -/
theorem verifyUnlock_of_accountData_ne (h : verifyUnlock r contract slot = .ok v)
    (hdata : data ≠ r.accountData) :
    verifyUnlock { r with accountData := data } contract slot = .error .accountDataMismatch := by
  obtain ⟨hheader, haccount, hencode, -, -, -⟩ := verifyUnlock_eq_ok_iff.mp h
  -- The walk does not read the account data, so it comes to the same leaf for any other.
  have hleaf : accountLeaf v.stateRoot contract r.accountProof = .ok r.accountData := by
    rw [accountLeaf_eq_ok_iff, hencode]
    exact verifyAccount_eq_ok_iff.mp haccount
  rw [verifyUnlock]
  simp only [hheader, hleaf, bind, Except.bind, ne_eq, hdata.symm, not_false_eq_true, if_true]
  rfl

/-- A record is accepted with a result exactly if each part is. The header is a list of at least
15 items that names the state root and the number, the hash is that of the header, the account is
proven below the state root and its encoding is the account data, and the value is proven below the
storage root of this account, for the slot that is asked for. So the account data of an accepted
record cannot be replaced. -/
theorem verifyUnlock_iff_parts (r : Record) (contract : Address) (slot : Hash) :
    (∀ v, verifyUnlock r contract slot = .ok v ↔
      (∃ items digits, Rlp.decodeList r.headerData = .ok items ∧ 15 ≤ items.length ∧
        items[3]? = some v.stateRoot.toList ∧ items[8]? = some digits ∧ digits.length ≤ 8 ∧
        ofBigEndian digits = v.blockNumber.toNat) ∧
      v.blockHash = keccak256 r.headerData ∧
      verifyAccount v.stateRoot contract r.accountProof = .ok v.account ∧
      r.accountData = v.account.encode ∧
      verifyStorage v.account.storageRoot slot r.storageProof = .ok v.storageValue ∧
      v.storageKey = slot) ∧
    ∀ v data, verifyUnlock r contract slot = .ok v → data ≠ r.accountData →
      verifyUnlock { r with accountData := data } contract slot =
        .error .accountDataMismatch := by
  constructor
  · intro v
    rw [verifyUnlock_eq_ok_iff, headerSummary_eq_ok_iff_getElem?]
    constructor
    · rintro ⟨hheader, haccount, hdata, hvalue, hhash, hslot⟩
      exact ⟨hheader, hhash, haccount, hdata, hvalue, hslot⟩
    · rintro ⟨hheader, hhash, haccount, hdata, hvalue, hslot⟩
      exact ⟨hheader, haccount, hdata, hvalue, hhash, hslot⟩
  · intro v data h hdata
    exact verifyUnlock_of_accountData_ne h hdata

/-- The record of one slot with its account data and without any. -/
theorem verifyUnlock_iff_parts_slotRecord :
    (∃ v, verifyUnlock (slotRecord (uniform 1) (bytesOfU256 0) 5 []) (uniform 1) (bytesOfU256 0) =
        .ok v ∧
      verifyAccount v.stateRoot (uniform 1)
        (slotRecord (uniform 1) (bytesOfU256 0) 5 []).accountProof = .ok v.account) ∧
      [] ≠ (slotRecord (uniform 1) (bytesOfU256 0) 5 []).accountData ∧
      verifyUnlock { slotRecord (uniform 1) (bytesOfU256 0) 5 [] with accountData := [] }
        (uniform 1) (bytesOfU256 0) = .error .accountDataMismatch := by
  have haccept := verifyUnlock_slotRecord (uniform 1) (bytesOfU256 0) 5 []
  obtain ⟨hparts, hother⟩ := verifyUnlock_iff_parts (slotRecord (uniform 1) (bytesOfU256 0) 5 [])
    (uniform 1) (bytesOfU256 0)
  obtain ⟨-, -, haccount, -, -, -⟩ := (hparts _).mp haccept
  have hdata : [] ≠ (slotRecord (uniform 1) (bytesOfU256 0) 5 []).accountData :=
    (slotAccount (bytesOfU256 0) 5).encode_ne_nil.symm
  exact ⟨⟨_, haccept, haccount⟩, hdata, hother _ _ haccept hdata⟩

end UnlockProof.Verification

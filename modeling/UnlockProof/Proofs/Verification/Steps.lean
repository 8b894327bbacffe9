import UnlockProof.Proofs.Account
import UnlockProof.Proofs.Header.Payloads
import UnlockProof.Proofs.Trie.Descent
import UnlockProof.Verification

/-!
# The links of an unlock proof

A check succeeds exactly if each of its links holds: the header names a state root and a number,
the account is proven below the state root, its bytes are those of the record, and the value is
proven below the storage root of the account.
-/

namespace UnlockProof.Verification
open Outcome

variable {headerData stored : Bytes} {root : Hash} {number : UInt64} {address : Address}
  {slot : Hash} {proof : List Bytes} {a : Account} {value : U256} {answer : Option Bytes}

theorem headerSummary_eq_ok_iff :
    headerSummary headerData = .ok (root, number) ↔
      ∃ items, Rlp.decodeList headerData = .ok items ∧ 15 ≤ items.length ∧
        items.getD 3 [] = root.toList ∧ (items.getD 8 []).length ≤ 8 ∧
        number = UInt64.ofNat (ofBigEndian (items.getD 8 [])) := by
  simp only [headerSummary, bind_eq_ok_iff, mapError_eq_ok_iff, check_eq_ok_iff]
  constructor
  · rintro ⟨items, hitems, hcount, hmatch⟩
    have hcount : 15 ≤ items.length := Nat.le_of_not_lt hcount
    split at hmatch
    · cases hmatch
    · next stateRoot hroot =>
        rw [check_eq_ok_iff, pure_eq_ok_iff] at hmatch
        obtain ⟨hwidth, heq⟩ := hmatch
        obtain ⟨rfl, rfl⟩ := Prod.mk.inj heq
        have hroot := FixedBytes.ofList?_eq_some_iff.mp hroot
        exact ⟨items, hitems, hcount, hroot, Nat.le_of_not_lt hwidth, rfl⟩
  · rintro ⟨items, hitems, hcount, hroot, hwidth, rfl⟩
    refine ⟨items, hitems, Nat.not_lt_of_le hcount, ?_⟩
    rw [hroot, FixedBytes.ofList?_toList]
    exact check_eq_ok_iff.mpr ⟨Nat.not_lt_of_le hwidth, rfl⟩

/-- The state root and the number of a header are read back from its encoding. -/
theorem headerSummary_encode {h : Header} (hextra : h.extraData.length < Nat.pow 2 63)
    (he : h.encode = .ok headerData) :
    headerSummary headerData = .ok (h.stateRoot, h.number) := by
  have hitems := Header.decodeList_encode hextra he
  have hcount : 15 ≤ h.payloads.length := by
    rw [Header.length_payloads_eq_add]
    exact Nat.le_add_right 15 _
  have hroot : h.payloads.getD 3 [] = h.stateRoot.toList := rfl
  have hnumber : h.payloads.getD 8 [] = minimalBigEndian 8 h.number.toNat := rfl
  have hwidth := length_minimalBigEndian_le 8 h.number.toNat
  have hvalue := ofBigEndian_minimalBigEndian (toNat_lt_pow_eight h.number)
  apply headerSummary_eq_ok_iff.mpr
  refine ⟨h.payloads, hitems, hcount, hroot, ?_, ?_⟩
  · rw [hnumber]
    exact hwidth
  · rw [hnumber, hvalue, UInt64.ofNat_toNat]

theorem accountLeaf_eq_ok_iff {leaf : Bytes} :
    accountLeaf root address proof = .ok leaf ↔
      Trie.lookup root (keccak256 address.toList) proof = .ok (some leaf) := by
  simp only [accountLeaf, bind_eq_ok_iff, mapError_eq_ok_iff]
  constructor
  · rintro ⟨answer, hlookup, hmatch⟩
    cases answer with
    | none => cases hmatch
    | some leaf' =>
        cases hmatch
        exact hlookup
  · intro h
    exact ⟨some leaf, h, rfl⟩

/-- An account is proven exactly if its encoding is found at the hash of its address. -/
theorem verifyAccount_eq_ok_iff :
    verifyAccount root address proof = .ok a ↔
      Trie.lookup root (keccak256 address.toList) proof = .ok (some a.encode) := by
  simp only [verifyAccount, bind_eq_ok_iff, mapError_eq_ok_iff, accountLeaf_eq_ok_iff,
    Account.decode_eq_ok_iff]
  constructor
  · rintro ⟨leaf, hlookup, hleaf⟩
    rw [← hleaf]
    exact hlookup
  · intro h
    exact ⟨a.encode, h, rfl⟩

/-- The number of a slot, from what its storage trie holds. -/
def slotValue : Option Bytes → Except Fault U256
  | some stored => decodeValue stored
  | none => .ok 0

theorem decodeValue_encodeNat (value : U256) :
    decodeValue (Rlp.encodeNat 32 value.toNat) = .ok value := by
  have hlen := length_minimalBigEndian_le 32 value.toNat
  have hfits : (minimalBigEndian 32 value.toNat).length < UInt64.size :=
    Nat.lt_of_le_of_lt hlen (by decide)
  have hstring : Rlp.decodeBytes (Rlp.encodeNat 32 value.toNat) =
      .ok (minimalBigEndian 32 value.toNat) := Rlp.decodeBytes_eq_ok_iff.mpr ⟨hfits, rfl⟩
  simp only [decodeValue, bind_eq_ok_iff, mapError_eq_ok_iff, check_eq_ok_iff, pure_eq_ok_iff]
  refine ⟨_, hstring, Nat.not_lt_of_le hlen, ?_⟩
  rw [ofBigEndian_minimalBigEndian (toNat_lt_pow_thirtyTwo value), BitVec.ofNat_toNat,
    BitVec.setWidth_eq]

/-- A value is proven exactly if the walk comes to what it is stored as, or if there is nothing to
walk and the storage is empty. -/
theorem verifyStorage_eq_ok_iff :
    verifyStorage root slot proof = .ok value ↔
      (proof = [] ∧ root = Account.emptyStorageRoot ∧ value = 0) ∨
      ∃ answer, Trie.lookup root (keccak256 slot.toList) proof = .ok answer ∧
        slotValue answer = .ok value := by
  have hwalk : (∃ answer, Trie.lookup root (keccak256 slot.toList) proof = .ok answer ∧
      slotValue answer = .ok value) → proof ≠ [] := by
    rintro ⟨answer, hlookup, -⟩ rfl
    cases hlookup
  rw [verifyStorage]
  by_cases hempty : proof.isEmpty ∧ root = Account.emptyStorageRoot
  · obtain ⟨hproof, hroot⟩ := hempty
    have hproof : proof = [] := List.isEmpty_iff.mp hproof
    rw [if_pos ⟨List.isEmpty_iff.mpr hproof, hroot⟩, pure_eq_ok_iff]
    constructor
    · rintro rfl
      exact Or.inl ⟨hproof, hroot, rfl⟩
    · rintro (⟨-, -, rfl⟩ | h)
      · rfl
      · exact absurd hproof (hwalk h)
  · rw [if_neg hempty]
    simp only [bind_eq_ok_iff, mapError_eq_ok_iff]
    constructor
    · rintro ⟨answer, hlookup, hmatch⟩
      refine Or.inr ⟨answer, hlookup, ?_⟩
      cases answer with
      | none => exact hmatch
      | some stored => exact hmatch
    · rintro (⟨hproof, hroot, -⟩ | ⟨answer, hlookup, hvalue⟩)
      · exact absurd ⟨List.isEmpty_iff.mpr hproof, hroot⟩ hempty
      · refine ⟨answer, hlookup, ?_⟩
        cases answer with
        | none => exact hvalue
        | some stored => exact hvalue

/-- A record is accepted exactly if its header names the state root and the number, its account
data is the encoding of the account that is proven below the state root, and the value is proven
below the storage root of that account. -/
theorem verifyUnlock_eq_ok_iff {r : Record} {contract : Address} {v : Verified} :
    verifyUnlock r contract slot = .ok v ↔
      headerSummary r.headerData = .ok (v.stateRoot, v.blockNumber) ∧
      verifyAccount v.stateRoot contract r.accountProof = .ok v.account ∧
      r.accountData = v.account.encode ∧
      verifyStorage v.account.storageRoot slot r.storageProof = .ok v.storageValue ∧
      v.blockHash = keccak256 r.headerData ∧ v.storageKey = slot := by
  simp only [verifyUnlock, bind_eq_ok_iff, check_eq_ok_iff, mapError_eq_ok_iff, pure_eq_ok_iff,
    accountLeaf_eq_ok_iff, verifyAccount_eq_ok_iff, Account.decode_eq_ok_iff, Prod.exists]
  constructor
  · rintro ⟨root, number, hheader, leaf, hlookup, hdata, account, hleaf, value, hvalue, heq⟩
    have hdata : leaf = r.accountData := Classical.not_not.mp hdata
    rw [← heq]
    rw [hleaf] at hlookup hdata
    exact ⟨hheader, hlookup, hdata.symm, hvalue, rfl, rfl⟩
  · rintro ⟨hheader, haccount, hdata, hvalue, hhash, hslot⟩
    rw [← hslot] at hvalue ⊢
    refine ⟨_, _, hheader, _, haccount, Classical.not_not.mpr hdata.symm, _, rfl, _, hvalue, ?_⟩
    rw [← hhash]

end UnlockProof.Verification

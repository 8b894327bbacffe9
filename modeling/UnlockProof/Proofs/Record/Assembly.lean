import UnlockProof.Proofs.Account
import UnlockProof.Proofs.Header.Payloads
import UnlockProof.Record.Assembly

/-!
# Assembled records

A record holds its parts as they are. What assembling checks of the header and of the account holds
of everything that is encoded here, so only missing and empty nodes can keep a record from being
built.
-/

namespace UnlockProof.Record
open Outcome

variable {headerData : Bytes} {header : Header} {proof : StateProof} {r : Record}

/-- The record of an encoded header and a state proof. -/
def ofParts (headerData : Bytes) (proof : StateProof) : Record :=
  ⟨headerData, proof.accountProof, proof.account.encode, proof.storageProof⟩

/-- Puts the parts of a record together again. -/
def reassemble (r : Record) : Except Failure Record :=
  assemble r.headerData r.accountProof r.accountData r.storageProof

theorem checkNodes_eq_ok_iff {list : NodeList} {nodes : List Bytes} :
    checkNodes list nodes = .ok () ↔ nodes ≠ [] ∧ ∀ node ∈ nodes, node ≠ [] := by
  rw [checkNodes]
  by_cases hempty : nodes = []
  · simp [hempty]
  · simp only [List.isEmpty_iff, hempty, if_false, ne_eq, not_false_eq_true, true_and]
    have hnone : nodes.findIdx? List.isEmpty = none ↔ ∀ node ∈ nodes, node.isEmpty = false :=
      List.findIdx?_eq_none_iff
    cases hindex : nodes.findIdx? List.isEmpty with
    | some index => simpa [hindex] using hnone
    | none => simpa [hindex] using hnone

/-- Says that a node of a list is empty and that none in front of it is. -/
def FirstEmpty (nodes : List Bytes) (index : Nat) : Prop :=
  nodes[index]? = some [] ∧ ∀ j < index, nodes[j]? ≠ some []

theorem findIdx?_isEmpty_eq_some_iff {nodes : List Bytes} {index : Nat} :
    nodes.findIdx? List.isEmpty = some index ↔ FirstEmpty nodes index := by
  rw [List.findIdx?_eq_some_iff_getElem, FirstEmpty]
  constructor
  · rintro ⟨hlen, hempty, hfront⟩
    refine ⟨?_, ?_⟩
    · rw [List.getElem?_eq_getElem hlen, List.isEmpty_iff.mp hempty]
    · intro j hj hnil
      rw [List.getElem?_eq_getElem (Nat.lt_trans hj hlen)] at hnil
      exact hfront j hj (List.isEmpty_iff.mpr (Option.some.inj hnil))
  · rintro ⟨hempty, hfront⟩
    obtain ⟨hlen, hnil⟩ := List.getElem?_eq_some_iff.mp hempty
    refine ⟨hlen, List.isEmpty_iff.mpr hnil, ?_⟩
    intro j hj hnil
    apply hfront j hj
    rw [List.getElem?_eq_getElem (Nat.lt_trans hj hlen), List.isEmpty_iff.mp hnil]

/-- A list of nodes is refused if there is none, or else for its first empty node. -/
theorem checkNodes_eq_error_iff {list : NodeList} {nodes : List Bytes} {f : Failure} :
    checkNodes list nodes = .error f ↔
      (nodes = [] ∧ f = .schema (.noNodes list)) ∨
      ∃ index, FirstEmpty nodes index ∧ f = .invalidInput (.emptyNode list index) := by
  rw [checkNodes]
  by_cases hempty : nodes = []
  · subst nodes
    simp [FirstEmpty, eq_comm]
  · simp only [List.isEmpty_iff, hempty, if_false, false_and, false_or,
      ← findIdx?_isEmpty_eq_some_iff]
    cases nodes.findIdx? List.isEmpty with
    | none => simp
    | some index => simp [eq_comm]

/-- What is checked of a header that is read as a list. -/
theorem checkHeader_of_decodeList {items : List Bytes}
    (h : Rlp.decodeList headerData = .ok items) :
    checkHeader headerData = .ok () ↔ 15 ≤ items.length ∧ items.length ≤ 21 ∧
      ∀ p ∈ hashPositions, (items.getD p []).length = 32 := by
  have hleast : Fork.frontier.fieldCount = 15 := rfl
  have hmost : Fork.prague.fieldCount = 21 := rfl
  have hfind : hashPositions.find? (fun p => (items.getD p []).length ≠ 32) = none ↔
      ∀ p ∈ hashPositions, (items.getD p []).length = 32 := by
    simp
  rw [checkHeader, h]
  by_cases hcount : items.length < Fork.frontier.fieldCount ∨ Fork.prague.fieldCount < items.length
  · simp only [if_pos hcount, reduceCtorEq, false_iff]
    rintro ⟨hfew, hmany, -⟩
    omega
  · have hrange : 15 ≤ items.length ∧ items.length ≤ 21 := by omega
    simp only [if_neg hcount, hrange, true_and, ← hfind]
    cases hashPositions.find? fun p => (items.getD p []).length ≠ 32 with
    | none => simp
    | some p => simp

/-- The encoding of a header passes the check of its fields. -/
theorem checkHeader_encode (hextra : header.extraData.length < Nat.pow 2 63)
    (he : header.encode = .ok headerData) : checkHeader headerData = .ok () := by
  have hcount := header.length_payloads_eq_add
  have htail := header.length_reduceOption_tailPayloads_le
  apply (checkHeader_of_decodeList (Header.decodeList_encode hextra he)).mpr
  refine ⟨by omega, by omega, ?_⟩
  simp only [hashPositions, List.forall_mem_cons]
  exact ⟨header.parentHash.length_toList, header.unclesHash.length_toList,
    header.stateRoot.length_toList, header.transactionsRoot.length_toList,
    header.receiptsRoot.length_toList, header.mixHash.length_toList, List.forall_mem_nil _⟩

theorem assemble_eq_ok_iff {accountProof storageProof : List Bytes} {accountData : Bytes} :
    assemble headerData accountProof accountData storageProof = .ok r ↔
      checkNodes .account accountProof = .ok () ∧ checkNodes .storage storageProof = .ok () ∧
      checkHeader headerData = .ok () ∧ (∃ a, Account.decode accountData = .ok a) ∧
      r = ⟨headerData, accountProof, accountData, storageProof⟩ := by
  simp only [assemble, bind_eq_ok_iff]
  constructor
  · rintro ⟨_, haccount, _, hstorage, _, hheader, hmatch⟩
    cases hdecode : Account.decode accountData with
    | error f =>
        rw [hdecode] at hmatch
        cases hmatch
    | ok a =>
        rw [hdecode] at hmatch
        exact ⟨haccount, hstorage, hheader, ⟨a, rfl⟩, (pure_eq_ok_iff.mp hmatch).symm⟩
  · rintro ⟨haccount, hstorage, hheader, ⟨a, hdecode⟩, hr⟩
    refine ⟨(), haccount, (), hstorage, (), hheader, ?_⟩
    rw [hdecode]
    exact pure_eq_ok_iff.mpr hr.symm

/-- A record of an encoded header is not built for the first of these causes: the header has no
encoding, or a list of nodes is refused. What is checked of the header and of the account is never
a cause. -/
theorem build_eq_error_iff {f : Failure} (hextra : header.extraData.length < Nat.pow 2 63) :
    build header proof = .error f ↔
      header.encodeOrFail = .error f ∨ ∃ headerData, header.encode = .ok headerData ∧
        (checkNodes .account proof.accountProof = .error f ∨
          checkNodes .account proof.accountProof = .ok () ∧
            checkNodes .storage proof.storageProof = .error f) := by
  simp only [build, assemble, bind_eq_error_iff, Header.encodeOrFail, mapError_eq_ok_iff]
  constructor
  · rintro (hgap | ⟨headerData, he, haccount | ⟨_, haccount, hstorage | ⟨_, -, hrest⟩⟩⟩)
    · exact Or.inl hgap
    · exact Or.inr ⟨headerData, he, Or.inl haccount⟩
    · exact Or.inr ⟨headerData, he, Or.inr ⟨haccount, hstorage⟩⟩
    · have hdecode : Account.decode proof.account.encode = .ok proof.account :=
        Account.decode_eq_ok_iff.mpr rfl
      rcases hrest with hheader | ⟨_, -, hread⟩
      · rw [checkHeader_encode hextra he] at hheader
        cases hheader
      · rw [hdecode] at hread
        cases hread
  · rintro (hgap | ⟨headerData, he, haccount | ⟨haccount, hstorage⟩⟩)
    · exact Or.inl hgap
    · exact Or.inr ⟨headerData, he, Or.inl haccount⟩
    · exact Or.inr ⟨headerData, he, Or.inr ⟨(), haccount, Or.inl hstorage⟩⟩

/-- A record is built of the encoding of the header and the state proof as it is. -/
theorem build_eq_ok_iff :
    build header proof = .ok r ↔ ∃ headerData, header.encode = .ok headerData ∧
      checkNodes .account proof.accountProof = .ok () ∧
      checkNodes .storage proof.storageProof = .ok () ∧ checkHeader headerData = .ok () ∧
      r = ofParts headerData proof := by
  have haccount : ∃ a, Account.decode proof.account.encode = .ok a :=
    ⟨proof.account, Account.decode_eq_ok_iff.mpr rfl⟩
  simp only [build, bind_eq_ok_iff, Header.encodeOrFail, mapError_eq_ok_iff, assemble_eq_ok_iff,
    haccount, true_and]
  rfl

theorem eq_ofParts_of_build (h : build header proof = .ok r) :
    ∃ headerData, header.encode = .ok headerData ∧ r = ofParts headerData proof := by
  obtain ⟨headerData, he, -, -, -, hr⟩ := build_eq_ok_iff.mp h
  exact ⟨headerData, he, hr⟩

/-- A record is built if the header has an encoding and there are nodes, none of them empty. -/
theorem build_of_encode (hextra : header.extraData.length < Nat.pow 2 63)
    (he : header.encode = .ok headerData)
    (haccount : proof.accountProof ≠ [] ∧ ∀ node ∈ proof.accountProof, node ≠ [])
    (hstorage : proof.storageProof ≠ [] ∧ ∀ node ∈ proof.storageProof, node ≠ []) :
    build header proof = .ok (ofParts headerData proof) := by
  apply build_eq_ok_iff.mpr
  exact ⟨headerData, he, checkNodes_eq_ok_iff.mpr haccount, checkNodes_eq_ok_iff.mpr hstorage,
    checkHeader_encode hextra he, rfl⟩

end UnlockProof.Record

import UnlockProof.Proofs.Header.Tail
import UnlockProof.Proofs.Record.Assembly

/-!
# Records that are refused

A record of a header and a state proof is built unless there is a defect in one of three parts: the
tail of the header has a gap, or the nodes of the account or those of the slot are missing or have
an empty one among them. The parts are looked at in this order, and the first defect is the failure.
What is encoded here is never refused for its shape.
-/

namespace UnlockProof.Record

variable {header : Header} {proof : StateProof} {list : NodeList} {nodes : List Bytes}
  {f : Failure} {fault : InputFault}

/-- Says that there are nodes and that none is empty. -/
def HasNodes (nodes : List Bytes) : Prop := nodes ≠ [] ∧ ∀ node ∈ nodes, node ≠ []

instance : Decidable (HasNodes nodes) := inferInstanceAs (Decidable (_ ∧ _))

/-- The failures of a list of nodes. -/
inductive NodesRefused (list : NodeList) (nodes : List Bytes) : Failure → Prop
  /-- There are none. -/
  | missing (hnodes : nodes = []) : NodesRefused list nodes (.schema (.noNodes list))
  /-- A node is empty, and the first such one is named. -/
  | empty {index} (hindex : FirstEmpty nodes index) :
      NodesRefused list nodes (.invalidInput (.emptyNode list index))

/-- The failures of a header and a state proof, each for a defect with none in front of it. -/
inductive Refused (header : Header) (proof : StateProof) : Failure → Prop
  /-- The field behind the first gap of the tail is named. -/
  | gap {gap} (hgap : header.FirstGap gap) :
      Refused header proof (.encodingMismatch gap.present.name (.tailGap gap.absent))
  /-- The nodes of the account are refused below a header without a gap. -/
  | account {f : Failure} (hheader : header.HasContiguousTail)
      (hnodes : NodesRefused .account proof.accountProof f) : Refused header proof f
  /-- The nodes of the slot are refused behind those of an account that are not. -/
  | storage {f : Failure} (hheader : header.HasContiguousTail)
      (haccount : HasNodes proof.accountProof)
      (hnodes : NodesRefused .storage proof.storageProof f) : Refused header proof f

theorem checkNodes_eq_error_iff_refused :
    checkNodes list nodes = .error f ↔ NodesRefused list nodes f := by
  rw [checkNodes_eq_error_iff]
  constructor
  · rintro (⟨hnodes, rfl⟩ | ⟨index, hindex, rfl⟩)
    · exact .missing hnodes
    · exact .empty hindex
  · intro h
    cases h with
    | missing hnodes => exact Or.inl ⟨hnodes, rfl⟩
    | empty hindex => exact Or.inr ⟨_, hindex, rfl⟩

/-- Only an empty node makes an input to blame. -/
theorem NodesRefused.eq_emptyNode (h : NodesRefused list nodes (.invalidInput fault)) :
    ∃ index, fault = .emptyNode list index := by
  cases h with
  | empty hindex => exact ⟨_, rfl⟩

theorem Refused.eq_emptyNode (h : Refused header proof (.invalidInput fault)) :
    ∃ list index, fault = .emptyNode list index := by
  cases h with
  | account _ hnodes => exact ⟨.account, hnodes.eq_emptyNode⟩
  | storage _ _ hnodes => exact ⟨.storage, hnodes.eq_emptyNode⟩

theorem exists_build_iff (hextra : header.extraData.length < Nat.pow 2 63) :
    (∃ r, build header proof = .ok r) ↔
      header.HasContiguousTail ∧ HasNodes proof.accountProof ∧ HasNodes proof.storageProof := by
  constructor
  · rintro ⟨r, h⟩
    obtain ⟨headerData, he, haccount, hstorage, -⟩ := build_eq_ok_iff.mp h
    exact ⟨Header.exists_encode_iff.mp ⟨headerData, he⟩, checkNodes_eq_ok_iff.mp haccount,
      checkNodes_eq_ok_iff.mp hstorage⟩
  · rintro ⟨hheader, haccount, hstorage⟩
    obtain ⟨headerData, he⟩ := Header.exists_encode_iff.mpr hheader
    exact ⟨_, build_of_encode hextra he haccount hstorage⟩

theorem build_eq_error_iff_refused (hextra : header.extraData.length < Nat.pow 2 63) :
    build header proof = .error f ↔ Refused header proof f := by
  rw [build_eq_error_iff hextra, Header.encodeOrFail_eq_error_iff]
  simp only [checkNodes_eq_error_iff_refused]
  constructor
  · rintro (⟨gap, hgap, rfl⟩ | ⟨headerData, he, haccount | ⟨haccount, hstorage⟩⟩)
    · exact .gap hgap
    · exact .account (Header.exists_encode_iff.mp ⟨headerData, he⟩) haccount
    · exact .storage (Header.exists_encode_iff.mp ⟨headerData, he⟩)
        (checkNodes_eq_ok_iff.mp haccount) hstorage
  · intro h
    cases h with
    | gap hgap => exact Or.inl ⟨_, hgap, rfl⟩
    | account hheader hnodes =>
        obtain ⟨headerData, he⟩ := Header.exists_encode_iff.mpr hheader
        exact Or.inr ⟨headerData, he, Or.inl hnodes⟩
    | storage hheader haccount hnodes =>
        obtain ⟨headerData, he⟩ := Header.exists_encode_iff.mpr hheader
        exact Or.inr ⟨headerData, he, Or.inr ⟨checkNodes_eq_ok_iff.mpr haccount, hnodes⟩⟩

/-- What comes of a header and a state proof. A record is built if and only if the tail has no gap
and both lists have nodes and no empty one, and then its parts are the encoded header, the nodes as
they are and the encoded account. Otherwise the failure is that of the first defect. An input is
blamed for empty nodes only and never for the shape of the header or of the account. -/
theorem build_fails_by_first_defect (header : Header) (proof : StateProof)
    (hextra : header.extraData.length < Nat.pow 2 63) :
    ((∃ r, build header proof = .ok r) ↔
        header.HasContiguousTail ∧ HasNodes proof.accountProof ∧ HasNodes proof.storageProof) ∧
      (∀ r, build header proof = .ok r →
        header.encode = .ok r.headerData ∧ r.accountProof = proof.accountProof ∧
          r.accountData = proof.account.encode ∧ r.storageProof = proof.storageProof) ∧
      (∀ f, build header proof = .error f ↔ Refused header proof f) ∧
      (∀ fault, build header proof = .error (.invalidInput fault) →
        ∃ list index, fault = .emptyNode list index) := by
  refine ⟨exists_build_iff hextra, ?_, fun f => build_eq_error_iff_refused hextra, ?_⟩
  · intro r h
    obtain ⟨headerData, he, rfl⟩ := eq_ofParts_of_build h
    exact ⟨he, rfl, rfl, rfl⟩
  · intro fault h
    exact ((build_eq_error_iff_refused hextra).mp h).eq_emptyNode

/-- A state proof with given nodes. -/
def bareProof (accountProof storageProof : List Bytes) : StateProof where
  address := Header.genesis.beneficiary
  accountProof := accountProof
  account := ⟨0, 0, Account.emptyStorageRoot, Account.emptyCodeHash⟩
  storageKey := bytesOfU256 0
  storageValue := 0
  storageProof := storageProof

/-- A header that has a root of withdrawals and no base fee. -/
def gappedHeader : Header :=
  { Header.genesis with withdrawalsRoot := some (bytesOfU256 0) }

theorem firstGap_gappedHeader : gappedHeader.FirstGap ⟨.baseFeePerGas, .withdrawalsRoot⟩ :=
  ⟨[], [], _, rfl, nofun, Bool.false_ne_true, nofun, rfl⟩

/-- The defects in their order: a gap is named although there are no nodes, missing nodes of the
account although the slot has an empty one, and an empty node of the slot if all else is there. -/
theorem build_fails_by_first_defect_bareProof :
    build gappedHeader (bareProof [] []) =
        .error (.encodingMismatch "withdrawals_root" (.tailGap .baseFeePerGas)) ∧
      build Header.genesis (bareProof [] [[]]) = .error (.schema (.noNodes .account)) ∧
      build Header.genesis (bareProof [[0xc0]] [[0xc0], []]) =
        .error (.invalidInput (.emptyNode .storage 1)) ∧
      ∃ r, build Header.genesis (bareProof [[0xc0]] [[0xc0]]) = .ok r := by
  have hgapped : gappedHeader.extraData.length < Nat.pow 2 63 := by decide
  have hextra : Header.genesis.extraData.length < Nat.pow 2 63 := by decide
  have hheader := Header.exists_encode_iff.mp ⟨_, Header.encode_genesis⟩
  refine ⟨?_, ?_, ?_, ?_⟩
  · obtain ⟨-, -, hfails, -⟩ := build_fails_by_first_defect _ (bareProof [] []) hgapped
    exact (hfails _).mpr (.gap firstGap_gappedHeader)
  · obtain ⟨-, -, hfails, -⟩ := build_fails_by_first_defect _ (bareProof [] [[]]) hextra
    exact (hfails _).mpr (.account hheader (.missing rfl))
  · obtain ⟨-, -, hfails, -⟩ :=
      build_fails_by_first_defect _ (bareProof [[0xc0]] [[0xc0], []]) hextra
    have hindex : FirstEmpty [[0xc0], []] 1 := ⟨rfl, by decide⟩
    exact (hfails _).mpr (.storage hheader (by decide) (.empty hindex))
  · obtain ⟨hbuilt, -⟩ := build_fails_by_first_defect _ (bareProof [[0xc0]] [[0xc0]]) hextra
    exact hbuilt.mpr ⟨hheader, by decide, by decide⟩

end UnlockProof.Record

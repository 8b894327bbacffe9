import UnlockProof.Generation
import UnlockProof.Proofs.Answer
import UnlockProof.Proofs.Record.Assembly
import UnlockProof.Proofs.Record.Transport
import UnlockProof.Proofs.Verification.Tries

/-!
# Generated proofs

What is generated is read back as the header and the state proof that the endpoint has answered.
A check of it succeeds exactly if the two walks find the answered account and a value, and then it
shows the fields of the answered header.
-/

namespace UnlockProof
open Outcome

variable {e : Endpoint} {g : Generator} {contract : Address} {slot : Hash} {block : UInt64}
  {header : Header} {proof : StateProof} {r : Record} {key : LogicalKey} {text : String}

theorem Endpoint.fetchProof_eq_ok_iff :
    (e.fetchProof contract slot block).outcome = .ok proof ↔
      ∃ answer, (e.proof ⟨contract, [slot], block⟩).outcome = .ok answer ∧
        answer.toStateProof block = .ok proof ∧ proof.accountProof ≠ [] := by
  simp only [fetchProof, Reply.andThen, bind_eq_ok_iff, ProofAnswer.toNonemptyProof,
    check_eq_ok_iff, pure_eq_ok_iff, List.isEmpty_iff]
  constructor
  · rintro ⟨answer, hanswer, proof', hproof, hnodes, rfl⟩
    exact ⟨answer, hanswer, hproof, hnodes⟩
  · rintro ⟨answer, hanswer, hproof, hnodes⟩
    exact ⟨answer, hanswer, proof, hproof, hnodes, rfl⟩

theorem Endpoint.fetchHeader_eq_ok_iff :
    (e.fetchHeader block).outcome = .ok header ↔
      ∃ answer, (e.block block).outcome = .ok (some answer) ∧ answer.toHeader = .ok header ∧
        header.number = block := by
  simp only [fetchHeader, Reply.andThen, bind_eq_ok_iff]
  constructor
  · rintro ⟨answer?, hanswer, hheader⟩
    cases answer? with
    | none => cases hheader
    | some answer =>
        simp only [BlockAnswer.toHeaderOf, bind_eq_ok_iff, check_eq_ok_iff, pure_eq_ok_iff]
          at hheader
        obtain ⟨header', hheader, hnumber, rfl⟩ := hheader
        exact ⟨answer, hanswer, hheader, Classical.not_not.mp hnumber⟩
  · rintro ⟨answer, hanswer, hheader, hnumber⟩
    refine ⟨some answer, hanswer, ?_⟩
    simp only [BlockAnswer.toHeaderOf, bind_eq_ok_iff, check_eq_ok_iff, pure_eq_ok_iff]
    exact ⟨header, hheader, Classical.not_not.mpr hnumber, rfl⟩

namespace Generator

theorem checkHeader_eq_ok_iff :
    g.checkHeader header = .ok () ↔
      (g.checksHash = true → ∃ computed, header.checkReportedHash = .ok computed) := by
  rw [checkHeader]
  cases g.checksHash with
  | true => simp [map_eq_ok_iff]
  | false => simp

/-- A transport text is generated exactly if both answers are there in typed form, the hash of the
header is as it should be, and the record of both is built and written. -/
theorem generate_eq_ok_iff :
    g.generate e key block = .ok text ↔
      ∃ proof header r,
        (e.fetchProof g.contract (key.slot g.mappingSlot) block).outcome = .ok proof ∧
        (e.fetchHeader block).outcome = .ok header ∧ g.checkHeader header = .ok () ∧
        Record.build header proof = .ok r ∧ r.serialize = .ok text := by
  simp only [generate, build, bind_eq_ok_iff, Prod.exists, Reply.both_eq_ok_iff]
  constructor
  · rintro ⟨r, ⟨proof, header, ⟨hproof, hheader⟩, _, hcheck, hbuild⟩, htext⟩
    exact ⟨proof, header, r, hproof, hheader, hcheck, hbuild, htext⟩
  · rintro ⟨proof, header, r, hproof, hheader, hcheck, hbuild, htext⟩
    exact ⟨r, ⟨proof, header, ⟨hproof, hheader⟩, (), hcheck, hbuild⟩, htext⟩

end Generator

/-- The endpoint that answers every question with one header and one state proof. -/
def Endpoint.constant (header : Header) (proof : StateProof) : Endpoint where
  proof _ := ⟨.ok (.ofStateProof proof), 0⟩
  block _ := ⟨.ok (some (.ofHeader header)), 0⟩

theorem Endpoint.fetchProof_constant (hnodes : proof.accountProof ≠ []) (contract : Address)
    (slot : Hash) (block : UInt64) :
    ((constant header proof).fetchProof contract slot block).outcome = .ok proof :=
  fetchProof_eq_ok_iff.mpr ⟨_, rfl, ProofAnswer.toStateProof_ofStateProof proof block, hnodes⟩

theorem Endpoint.fetchHeader_constant :
    ((constant header proof).fetchHeader header.number).outcome = .ok header :=
  fetchHeader_eq_ok_iff.mpr ⟨_, rfl, BlockAnswer.toHeader_ofHeader header, rfl⟩

/-- A text is generated from the answers of the right block if they have all nodes and the sizes of
the record can be expressed. -/
theorem Generator.exists_generate_constant {headerData : Bytes}
    (hextra : header.extraData.length < Nat.pow 2 63) (he : header.encode = .ok headerData)
    (hcheck : g.checkHeader header = .ok ())
    (haccount : proof.accountProof ≠ [] ∧ ∀ node ∈ proof.accountProof, node ≠ [])
    (hstorage : proof.storageProof ≠ [] ∧ ∀ node ∈ proof.storageProof, node ≠ [])
    (hrep : (Record.ofParts headerData proof).isRepresentable = true) (key : LogicalKey) :
    ∃ text, g.generate (.constant header proof) key header.number = .ok text := by
  have hproof : ((Endpoint.constant header proof).fetchProof g.contract (key.slot g.mappingSlot)
      header.number).outcome = .ok proof :=
    Endpoint.fetchProof_constant haccount.1 _ _ _
  have hheader : ((Endpoint.constant header proof).fetchHeader header.number).outcome =
      .ok header := Endpoint.fetchHeader_constant
  have hbuild := Record.build_of_encode hextra he haccount hstorage
  have hschema := Record.toSchema?_eq_some_iff.mpr ⟨hrep, rfl⟩
  have htext := Record.serialize_eq_ok_iff.mpr ⟨_, hschema, rfl⟩
  exact ⟨_, generate_eq_ok_iff.mpr ⟨proof, header, _, hproof, hheader, hcheck, hbuild, htext⟩⟩

/-- The state proof of the one slot of the one account. -/
def StateProof.ofSlot (address : Address) (slot : Hash) (value : U256) : StateProof where
  address := address
  accountProof := [(Verification.accountTrie address (Verification.slotAccount slot value)).encode]
  account := Verification.slotAccount slot value
  storageKey := slot
  storageValue := value
  storageProof := [(Verification.slotTrie slot value).encode]

/-- The header over that account, with its own hash as the reported one. -/
def Header.ofSlot (address : Address) (slot : Hash) (value : U256) : Header :=
  { Verification.slotHeader address slot value with
    reportedHash := some (keccak256 (Verification.slotHeader address slot value).encodeFields) }

theorem verifyAccount_ofSlot (address : Address) (slot : Hash) (value : U256) :
    Verification.verifyAccount (Header.ofSlot address slot value).stateRoot address
      (StateProof.ofSlot address slot value).accountProof =
      .ok (StateProof.ofSlot address slot value).account :=
  Verification.verifyAccount_of_holdsAccount
    (Verification.wellFormed_accountTrie address (Verification.slotAccount slot value)) nofun
    (Verification.holdsAccount_accountTrie address (Verification.slotAccount slot value)) []

theorem verifyStorage_ofSlot (address : Address) (slot : Hash) (value : U256) :
    Verification.verifyStorage (StateProof.ofSlot address slot value).account.storageRoot slot
      (StateProof.ofSlot address slot value).storageProof = .ok value :=
  Verification.verifyStorage_of_holdsValue (Verification.wellFormed_slotTrie slot value) nofun
    (Verification.holdsValue_slotTrie slot value) []

theorem encode_ofSlot (address : Address) (slot : Hash) (value : U256) :
    (Header.ofSlot address slot value).encode =
      .ok (Header.ofSlot address slot value).encodeFields :=
  Verification.encode_slotHeader address slot value

theorem length_extraData_ofSlot (address : Address) (slot : Hash) (value : U256) :
    (Header.ofSlot address slot value).extraData.length = 32 :=
  Verification.length_extraData_slotHeader address slot value

theorem checkHeader_ofSlot (g : Generator) (address : Address) (slot : Hash) (value : U256) :
    g.checkHeader (Header.ofSlot address slot value) = .ok () := by
  apply Generator.checkHeader_eq_ok_iff.mpr
  intro _
  refine ⟨_, Header.checkReportedHash_eq_ok_iff.mpr ⟨_, encode_ofSlot address slot value, rfl, ?_⟩⟩
  intro reported hreported
  exact (Option.some.inj hreported).symm

theorem isRepresentable_ofSlot (address : Address) (slot : Hash) (value : U256) :
    (Record.ofParts (Header.ofSlot address slot value).encodeFields
      (.ofSlot address slot value)).isRepresentable = true := by
  have hheader := Header.length_encode_le (encode_ofSlot address slot value)
  have haccount := (Verification.slotAccount slot value).length_encode_le
  have hstate := Trie.Tree.length_encode_single_le (keccak256 address.toList)
    (Verification.slotAccount slot value).encode
  have hvalue := Rlp.length_encodeNat_le 32 value.toNat
  have hslot := Trie.Tree.length_encode_single_le (keccak256 slot.toList)
    (Rlp.encodeNat 32 value.toNat)
  have hbound : 2000 < Record.lengthBound := by decide
  have hone : 1 < Record.lengthBound := by decide
  rw [length_extraData_ofSlot] at hheader
  apply Record.isRepresentable_iff.mpr
  refine ⟨Nat.lt_of_le_of_lt hheader (by omega), ⟨hone, ?_⟩, Nat.lt_of_le_of_lt haccount (by omega),
    ⟨hone, ?_⟩⟩
  · intro n hn
    rw [List.mem_singleton.mp hn]
    exact Nat.lt_of_le_of_lt hstate (by omega)
  · intro n hn
    rw [List.mem_singleton.mp hn]
    exact Nat.lt_of_le_of_lt hslot (by omega)

/-- For every configuration and transfer, some answers give a text, whatever value they say the
slot of the transfer has. -/
theorem Generator.exists_generate_ofSlot (c : Config) (key : LogicalKey) (value : U256) :
    ∃ text, c.generator.generate
      (.constant (.ofSlot c.contract (key.slot c.mappingSlot) value)
        (.ofSlot c.contract (key.slot c.mappingSlot) value)) key 0 = .ok text := by
  have hextra : (Header.ofSlot c.contract (key.slot c.mappingSlot) value).extraData.length <
      Nat.pow 2 63 := by
    rw [length_extraData_ofSlot]
    decide
  have hnode (t : Trie.Tree) : [t.encode] ≠ [] ∧ ∀ node ∈ [t.encode], node ≠ [] := by
    refine ⟨List.cons_ne_nil _ _, ?_⟩
    intro node hmem
    rw [List.mem_singleton.mp hmem]
    exact t.encode_ne_nil
  exact exists_generate_constant hextra (encode_ofSlot _ _ value)
    (checkHeader_ofSlot c.generator _ _ value) (hnode _) (hnode _)
    (isRepresentable_ofSlot _ _ value) key

/-- A record of an encoded header and a state proof is accepted exactly if the walks find the
account of the state proof and a value. -/
theorem Verification.verifyUnlock_ofParts_iff {headerData : Bytes} {v : Verified}
    (hextra : header.extraData.length < Nat.pow 2 63) (he : header.encode = .ok headerData) :
    verifyUnlock (Record.ofParts headerData proof) contract slot = .ok v ↔
      verifyAccount header.stateRoot contract proof.accountProof = .ok proof.account ∧
      verifyStorage proof.account.storageRoot slot proof.storageProof = .ok v.storageValue ∧
      v.blockHash = keccak256 headerData ∧ v.blockNumber = header.number ∧
      v.stateRoot = header.stateRoot ∧ v.account = proof.account ∧ v.storageKey = slot := by
  have hsummary := headerSummary_encode hextra he
  rw [verifyUnlock_eq_ok_iff, Record.ofParts]
  constructor
  · rintro ⟨hheader, haccount, hdata, hvalue, hhash, hslot⟩
    rw [hsummary] at hheader
    obtain ⟨hroot, hnumber⟩ := Prod.mk.inj (Except.ok.inj hheader)
    have hsame : proof.account = v.account := Account.encode_injective hdata
    rw [← hsame] at haccount hvalue
    rw [← hroot] at haccount
    exact ⟨haccount, hvalue, hhash, hnumber.symm, hroot.symm, hsame.symm, hslot⟩
  · rintro ⟨haccount, hvalue, hhash, hnumber, hroot, hsame, hslot⟩
    rw [hnumber, hroot, hsame]
    exact ⟨hsummary, haccount, rfl, hvalue, hhash, hslot⟩

/-- What is generated for a configuration travels as it was answered: the block has a header of
the wanted number, the proof has its typed form, and the transport text is read back as the
encodings of both with all nodes as they are. The hash of the header is that of the encoding, and
the reported one where it is checked. The record is accepted exactly if the walks below the state
root of that header find the answered account and, below its storage root, a value. -/
theorem Generator.generate_agrees_with_verifyUnlock {c : Config}
    (h : c.generator.generate e key block = .ok text) :
    ∃ proofAnswer blockAnswer header proof headerData,
      (e.proof ⟨c.contract, [key.slot c.mappingSlot], block⟩).outcome = .ok proofAnswer ∧
      (e.block block).outcome = .ok (some blockAnswer) ∧
      blockAnswer.toHeader = .ok header ∧ header.number = block ∧
      proofAnswer.toStateProof block = .ok proof ∧ header.encode = .ok headerData ∧
      Record.deserialize text = .ok (Record.ofParts headerData proof) ∧
      header.hash = .ok (keccak256 headerData) ∧
      (c.checksHash = true → ∀ reported, header.reportedHash = some reported →
        keccak256 headerData = reported) ∧
      ∀ v, Verification.verifyUnlock (Record.ofParts headerData proof) c.contract
          (key.slot c.mappingSlot) = .ok v ↔
        Verification.verifyAccount header.stateRoot c.contract proof.accountProof =
          .ok proof.account ∧
        Verification.verifyStorage proof.account.storageRoot (key.slot c.mappingSlot)
          proof.storageProof = .ok v.storageValue ∧
        v.blockHash = keccak256 headerData ∧ v.blockNumber = block ∧
        v.stateRoot = header.stateRoot ∧ v.account = proof.account ∧
        v.storageKey = key.slot c.mappingSlot := by
  obtain ⟨proof, header, r, hproof, hheader, hcheck, hbuild, htext⟩ := generate_eq_ok_iff.mp h
  obtain ⟨proofAnswer, hproofAnswer, htyped, -⟩ := Endpoint.fetchProof_eq_ok_iff.mp hproof
  obtain ⟨blockAnswer, hblockAnswer, htoHeader, hnumber⟩ :=
    Endpoint.fetchHeader_eq_ok_iff.mp hheader
  obtain ⟨headerData, he, rfl⟩ := Record.eq_ofParts_of_build hbuild
  have hhash : header.hash = .ok (keccak256 headerData) := by
    rw [Header.hash, he]
    rfl
  have hreported : c.checksHash = true → ∀ reported, header.reportedHash = some reported →
      keccak256 headerData = reported := by
    intro hchecks reported hrep
    obtain ⟨computed, hcomputed⟩ := checkHeader_eq_ok_iff.mp hcheck hchecks
    obtain ⟨bs, he', rfl, hsame⟩ := Header.checkReportedHash_eq_ok_iff.mp hcomputed
    obtain rfl := Except.ok.inj (he.symm.trans he')
    exact (hsame reported hrep).symm
  -- The schema bounds the header, so that its encoding is read back whole.
  have hextra : header.extraData.length < Nat.pow 2 63 := by
    have hdata : headerData.length < Record.lengthBound :=
      Record.length_headerData_of_serialize htext
    have hbound : Record.lengthBound < Nat.pow 2 63 := by decide
    have hle := Header.length_extraData_le he
    omega
  refine ⟨proofAnswer, blockAnswer, header, proof, headerData, hproofAnswer, hblockAnswer,
    htoHeader, hnumber, htyped, he, Record.deserialize_of_serialize htext, hhash, hreported, ?_⟩
  intro v
  rw [← hnumber]
  exact Verification.verifyUnlock_ofParts_iff hextra he

/-- A configuration that checks hashes. -/
def Config.sample : Config where
  endpoint := ⟨['h', 't', 't', 'p'], some ⟨[], [], some (.named ['n', 'o', 'd', 'e']), none⟩, ['/'],
    none, none⟩
  contract := Verification.uniform 1
  mappingSlot := 7
  timeout := none
  checksHash := true

/-- A transfer of 1000 units. -/
def LogicalKey.sample : LogicalKey := ⟨Verification.uniform 2, Verification.uniform 3, 1, 1000⟩

/-- A transfer that is marked as processed: a text is generated, it is read back, and the record in
it is accepted with the mark. -/
theorem Generator.generate_agrees_with_verifyUnlock_sample :
    ∃ text r v,
      Config.sample.generator.generate
        (.constant (.ofSlot (Verification.uniform 1) (LogicalKey.sample.slot 7) 1)
          (.ofSlot (Verification.uniform 1) (LogicalKey.sample.slot 7) 1))
        LogicalKey.sample 0 = .ok text ∧
      Record.deserialize text = .ok r ∧
      Verification.verifyUnlock r (Verification.uniform 1) (LogicalKey.sample.slot 7) = .ok v ∧
      v.storageValue = 1 := by
  obtain ⟨text, htext⟩ := exists_generate_ofSlot Config.sample LogicalKey.sample 1
  obtain ⟨proofAnswer, blockAnswer, header, proof, headerData, hproofAnswer, hblockAnswer,
    htoHeader, hnumber, htyped, -, hread, -, -, hverify⟩ := generate_agrees_with_verifyUnlock htext
  have hproof : StateProof.ofSlot (Verification.uniform 1) (LogicalKey.sample.slot 7) 1 =
      proof := by
    have hanswer := Except.ok.inj hproofAnswer
    rw [← hanswer, ProofAnswer.toStateProof_ofStateProof] at htyped
    exact Except.ok.inj htyped
  have hheader : Header.ofSlot (Verification.uniform 1) (LogicalKey.sample.slot 7) 1 =
      header := by
    have hanswer := Option.some.inj (Except.ok.inj hblockAnswer)
    rw [← hanswer, BlockAnswer.toHeader_ofHeader] at htoHeader
    exact Except.ok.inj htoHeader
  have haccount := verifyAccount_ofSlot (Verification.uniform 1) (LogicalKey.sample.slot 7) 1
  have hvalue := verifyStorage_ofSlot (Verification.uniform 1) (LogicalKey.sample.slot 7) 1
  rw [hproof, hheader] at haccount
  rw [hproof] at hvalue
  have haccept := (hverify ⟨keccak256 headerData, 0, header.stateRoot, proof.account,
    LogicalKey.sample.slot 7, 1⟩).mpr ⟨haccount, hvalue, rfl, rfl, rfl, rfl, rfl⟩
  exact ⟨text, _, _, htext, hread, haccept, rfl⟩

end UnlockProof

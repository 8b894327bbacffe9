import UnlockProof.Proofs.Header.Payloads

/-!
# What the encoding of a header keeps

A header has an encoding exactly if its tail is contiguous. The encoding is read back as the
payloads of the header, so it determines every field but the reported hash, and a reported hash
that is checked determines the header as a whole unless two encodings collide.
-/

namespace UnlockProof.Header
open Rlp

theorem exists_encode_iff {h : Header} : (∃ bs, h.encode = .ok bs) ↔ h.HasContiguousTail := by
  constructor
  · rintro ⟨bs, he⟩
    exact (encode_eq_ok_iff.mp he).1
  · intro hc
    exact ⟨h.encodeFields, encode_eq_ok_iff.mpr ⟨hc, rfl⟩⟩

theorem eq_of_withoutReport_eq {h g : Header} (hw : h.withoutReport = g.withoutReport)
    (hr : h.reportedHash = g.reportedHash) : h = g := by
  have hset (k : Header) : k = { k.withoutReport with reportedHash := k.reportedHash } := rfl
  rw [hset h, hset g, hw, hr]

/-- Headers with one encoding differ in the reported hash only. -/
theorem withoutReport_eq_of_encode_eq {h g : Header}
    (hh : h.extraData.length < Nat.pow 2 63) (hg : g.extraData.length < Nat.pow 2 63)
    {bs : Bytes} (heh : h.encode = .ok bs) (heg : g.encode = .ok bs) :
    h.withoutReport = g.withoutReport := by
  have hpayloads : h.payloads = g.payloads := by
    have hread := decodeList_encode hh heh
    rw [decodeList_encode hg heg] at hread
    exact (Except.ok.inj hread).symm
  exact withoutReport_eq_of_payloads_eq (exists_encode_iff.mp ⟨bs, heh⟩)
    (exists_encode_iff.mp ⟨bs, heg⟩) hpayloads

/-- Headers that are checked against one reported hash are equal or their encodings collide. -/
theorem eq_or_collide_of_checkReportedHash {h g : Header}
    (hh : h.extraData.length < Nat.pow 2 63) (hg : g.extraData.length < Nat.pow 2 63)
    {reported a b : Hash} (hrh : h.reportedHash = some reported)
    (hrg : g.reportedHash = some reported) (hch : h.checkReportedHash = .ok a)
    (hcg : g.checkReportedHash = .ok b) :
    h = g ∨ ∃ bs cs, h.encode = .ok bs ∧ g.encode = .ok cs ∧ Collide bs cs := by
  obtain ⟨bs, heh, rfl, hreph⟩ := checkReportedHash_eq_ok_iff.mp hch
  obtain ⟨cs, heg, rfl, hrepg⟩ := checkReportedHash_eq_ok_iff.mp hcg
  have hhash : keccak256 bs = keccak256 cs :=
    (hreph reported hrh).symm.trans (hrepg reported hrg)
  rcases eq_or_collide hhash with rfl | hcollide
  · have hw := withoutReport_eq_of_encode_eq hh hg heh heg
    exact Or.inl (eq_of_withoutReport_eq hw (hrh.trans hrg.symm))
  · exact Or.inr ⟨bs, cs, heh, heg, hcollide⟩

/-- The encoding of a header is faithful: it exists exactly for contiguous tails, is read back as
the payloads in their order, and determines the header up to the reported hash. -/
theorem encode_faithful (h g : Header) (hh : h.extraData.length < Nat.pow 2 63)
    (hg : g.extraData.length < Nat.pow 2 63) :
    ((∃ bs, h.encode = .ok bs) ↔ h.HasContiguousTail) ∧
      (∀ bs, h.encode = .ok bs → decodeList bs = .ok h.payloads) ∧
      (∀ bs, h.encode = .ok bs → g.encode = .ok bs → h.withoutReport = g.withoutReport) ∧
      (∀ reported a b, h.reportedHash = some reported → g.reportedHash = some reported →
        h.checkReportedHash = .ok a → g.checkReportedHash = .ok b →
        h = g ∨ ∃ bs cs, h.encode = .ok bs ∧ g.encode = .ok cs ∧ Collide bs cs) := by
  refine ⟨exists_encode_iff, ?_, ?_, ?_⟩
  · intro bs he
    exact decodeList_encode hh he
  · intro bs heh heg
    exact withoutReport_eq_of_encode_eq hh hg heh heg
  · intro reported a b hrh hrg hch hcg
    exact eq_or_collide_of_checkReportedHash hh hg hrh hrg hch hcg

/-- The header of the first block of the main chain. -/
def genesis : Header where
  parentHash := bytesOfU256 0
  unclesHash := bytesOfU256 0x1dcc4de8dec75d7aab85b567b6ccd41ad312451b948a7413f0a142fd40d49347
  beneficiary := ⟨List.replicate 20 0, List.length_replicate⟩
  stateRoot := bytesOfU256 0xd7f8974fb5ac78d9ac099b9ad5018bedc2ce0a72dad1827a1709da30580f0544
  transactionsRoot :=
    bytesOfU256 0x56e81f171bcc55a6ff8345e692c0f86e5b48e01b996cadc001622fb5e363b421
  receiptsRoot := bytesOfU256 0x56e81f171bcc55a6ff8345e692c0f86e5b48e01b996cadc001622fb5e363b421
  logsBloom := ⟨List.replicate 256 0, List.length_replicate⟩
  difficulty := 0x400000000
  number := 0
  gasLimit := 5000
  gasUsed := 0
  timestamp := 0
  extraData := bigEndian 32 0x11bbe8db4e347b4e8c937c1c8370e4b5ed33adb3db69cbdb7a38e1e50b1b82fa
  mixHash := bytesOfU256 0
  nonce := bytesOfUInt64 0x42
  baseFeePerGas := none
  withdrawalsRoot := none
  blobGasUsed := none
  excessBlobGas := none
  parentBeaconBlockRoot := none
  requestsHash := none
  reportedHash :=
    some (bytesOfU256 0xd4e56740f876aef8c010b86a40d5f56745a118d0906a34e69aec8c0db1cb8fa3)

theorem encode_genesis : genesis.encode = .ok genesis.encodeFields :=
  encode_eq_ok_iff.mpr ⟨by simp [HasContiguousTail, tailPresence, genesis], rfl⟩

theorem checkReportedHash_genesis :
    genesis.checkReportedHash =
      .ok (bytesOfU256 0xd4e56740f876aef8c010b86a40d5f56745a118d0906a34e69aec8c0db1cb8fa3) := by
  apply checkReportedHash_eq_ok_iff.mpr
  refine ⟨genesis.encodeFields, encode_genesis, by decide +kernel, ?_⟩
  intro reported h
  exact (Option.some.inj h).symm

/-- The statement at the first header of the main chain, once beside the same header without its
report and once against its own reported hash. -/
theorem encode_faithful_genesis :
    (∃ bs, genesis.encode = .ok bs) ∧
      decodeList genesis.encodeFields = .ok genesis.payloads ∧
      genesis.withoutReport = genesis.withoutReport.withoutReport ∧
      (genesis = genesis ∨ ∃ bs cs, genesis.encode = .ok bs ∧ genesis.encode = .ok cs ∧
        Collide bs cs) := by
  have hextra : genesis.extraData.length < Nat.pow 2 63 := by decide
  obtain ⟨hexists, hread, hinj, -⟩ := encode_faithful genesis genesis.withoutReport hextra hextra
  obtain ⟨-, -, -, hreported⟩ := encode_faithful genesis genesis hextra hextra
  refine ⟨⟨_, encode_genesis⟩, hread _ encode_genesis, hinj _ encode_genesis encode_genesis, ?_⟩
  exact hreported _ _ _ rfl rfl checkReportedHash_genesis checkReportedHash_genesis

end UnlockProof.Header

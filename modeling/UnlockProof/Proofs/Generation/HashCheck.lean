import UnlockProof.Proofs.Failure
import UnlockProof.Proofs.Generation
import UnlockProof.Proofs.Record.Refusal

/-!
# The check of the reported hash

The check of the hash only filters: runs with and without it differ exactly where a block reports
another hash than that of its header. Without the check it has no influence which hash is reported.
Yet every report is read, and one that is no hash at all keeps a block from being used, with the
check and without it.

## Implementation notes

The check encodes a header once more than the record does. A header without an encoding fails in
either place with the same failure, so that a run does not tell where the gap was found.
-/

namespace UnlockProof
open Outcome

variable {c : Config} {e : Endpoint} {g : Generator} {key : LogicalKey} {block : UInt64}
  {b : BlockAnswer} {header : Header} {proof : StateProof} {f : Failure}
  {computed reported : Hash} {s : Option String} {r : Option Hash} {text : String}

/-- Says that a header has a hash and reports another one. -/
structure Header.ReportsOther (h : Header) (computed reported : Hash) : Prop where
  hash : h.hashOrFail = .ok computed
  report : h.reportedHash = some reported
  other : reported ≠ computed

theorem Header.ReportsOther.checkReportedHash (h : header.ReportsOther computed reported) :
    header.checkReportedHash =
      .error (.encodingMismatch "hash" (.hash header.number computed reported)) := by
  rw [Header.checkReportedHash, h.hash, h.report]
  exact if_pos h.other

/-- Every other header passes the check as soon as it has a hash. -/
theorem Header.checkReportedHash_of_hash (hhash : header.hashOrFail = .ok computed)
    (h : ∀ reported, ¬ header.ReportsOther computed reported) :
    header.checkReportedHash = .ok computed := by
  rw [checkReportedHash, hhash]
  cases hreport : header.reportedHash with
  | none => rfl
  | some reported =>
      have hsame : ¬ reported ≠ computed := fun hother => h reported ⟨hhash, hreport, hother⟩
      exact if_neg hsame

theorem Record.failsOnly_checkNodes (list : NodeList) (nodes : List Bytes) :
    FailsOnly (fun f => ¬ f.BlamesAnswer) (checkNodes list nodes) := by
  intro f hf
  rcases checkNodes_eq_error_iff.mp hf with ⟨-, rfl⟩ | ⟨index, -, rfl⟩
  · exact Failure.not_blamesAnswer_schema _
  · exact Failure.not_blamesAnswer_invalidInput _

theorem Record.failsOnly_checkHeader (headerData : Bytes) :
    FailsOnly (fun f => ¬ f.BlamesAnswer) (checkHeader headerData) := by
  have hinput (fault : InputFault) :
      FailsOnly (fun f => ¬ f.BlamesAnswer) (.error (.invalidInput fault) : Except Failure Unit) :=
    failsOnly_error_iff.mpr (Failure.not_blamesAnswer_invalidInput fault)
  rw [checkHeader]
  split
  · exact hinput _
  · split
    · exact hinput _
    · split
      · exact hinput _
      · exact failsOnly_ok

/-- What is checked of a record never blames the answer. -/
theorem Record.failsOnly_assemble (headerData : Bytes) (accountProof : List Bytes)
    (accountData : Bytes) (storageProof : List Bytes) :
    FailsOnly (fun f => ¬ f.BlamesAnswer)
      (assemble headerData accountProof accountData storageProof) := by
  simp only [assemble, failsOnly_bind_iff, failsOnly_checkNodes, failsOnly_checkHeader, true_and]
  intro _ _ _ _ _ _
  split
  · exact failsOnly_throw_iff.mpr (Failure.not_blamesAnswer_invalidInput _)
  · exact failsOnly_pure

/-- Only a header without a hash makes a record blame the answer. -/
theorem Record.failsOnly_build (hhash : header.hashOrFail = .ok computed) :
    FailsOnly (fun f => ¬ f.BlamesAnswer) (build header proof) := by
  obtain ⟨headerData, he, -⟩ := map_eq_ok_iff.mp hhash
  rw [build, he]
  exact failsOnly_bind_iff.mpr ⟨failsOnly_ok, fun _ _ => failsOnly_assemble _ _ _ _⟩

theorem Record.build_eq_error_of_hashOrFail (hhash : header.hashOrFail = .error f) :
    build header proof = .error f := by
  rw [build, map_eq_error_iff.mp hhash]
  rfl

/-- A configuration that does or does not check hashes. -/
def Config.checking (c : Config) (checksHash : Bool) : Config :=
  { c with checksHash := checksHash }

namespace Generator

/-- The transport text of a header and a state proof that are there. -/
def finish (g : Generator) (proof : StateProof) (header : Header) : Except Failure String := do
  g.checkHeader header
  let r ← Record.build header proof
  r.serialize

theorem generate_eq_finish (g : Generator) (e : Endpoint) (key : LogicalKey) (block : UInt64) :
    g.generate e key block =
      Reply.both (e.fetchProof g.contract (key.slot g.mappingSlot) block) (e.fetchHeader block) >>=
        fun fetched => g.finish fetched.1 fetched.2 := by
  simp only [generate, build, bind_assoc]
  rfl

theorem finish_of_unchecked (hg : g.checksHash = false) :
    g.finish proof header = Record.build header proof >>= Record.serialize := by
  rw [finish, checkHeader, hg]
  rfl

theorem finish_of_reportsOther (hg : g.checksHash = true)
    (h : header.ReportsOther computed reported) :
    g.finish proof header =
      .error (.encodingMismatch "hash" (.hash header.number computed reported)) := by
  rw [finish, checkHeader, hg, if_pos rfl, h.checkReportedHash]
  rfl

/-- A header that does not report another hash is not affected by the check. -/
theorem finish_of_not_reportsOther
    (h : ∀ computed reported, ¬ header.ReportsOther computed reported) :
    g.finish proof header = Record.build header proof >>= Record.serialize := by
  cases hg : g.checksHash with
  | false => exact finish_of_unchecked hg
  | true =>
      rw [finish, checkHeader, hg, if_pos rfl]
      cases hhash : header.hashOrFail with
      | ok computed =>
          rw [Header.checkReportedHash_of_hash hhash (h computed)]
          rfl
      | error f =>
          rw [Record.build_eq_error_of_hashOrFail hhash, Header.checkReportedHash, hhash]
          rfl

/-- Without the check, the answer is not blamed once the header has a hash. -/
theorem failsOnly_finish (hg : g.checksHash = false) (hhash : header.hashOrFail = .ok computed) :
    FailsOnly (fun f => ¬ f.BlamesAnswer) (g.finish proof header) := by
  rw [finish_of_unchecked hg]
  refine failsOnly_bind_iff.mpr ⟨Record.failsOnly_build hhash, ?_⟩
  intro r _ f hf
  rw [r.failsOnly_serialize f hf]
  exact Failure.not_blamesAnswer_schema _

/-- Says that both fetches succeed and that the header reports another hash than it has. -/
def FindsOtherHash (g : Generator) (e : Endpoint) (key : LogicalKey) (block : UInt64)
    (computed reported : Hash) : Prop :=
  ∃ proof header,
    (e.fetchProof g.contract (key.slot g.mappingSlot) block).outcome = .ok proof ∧
    (e.fetchHeader block).outcome = .ok header ∧ header.ReportsOther computed reported

theorem generate_of_fetches
    (hproof : (e.fetchProof g.contract (key.slot g.mappingSlot) block).outcome = .ok proof)
    (hheader : (e.fetchHeader block).outcome = .ok header) :
    g.generate e key block = g.finish proof header := by
  rw [generate_eq_finish, Reply.both_eq_ok_iff.mpr ⟨hproof, hheader⟩]
  rfl

theorem generate_of_findsOtherHash (hg : g.checksHash = true)
    (h : g.FindsOtherHash e key block computed reported) :
    g.generate e key block =
      .error (.encodingMismatch "hash" (.hash block computed reported)) := by
  obtain ⟨proof, header, hproof, hheader, hother⟩ := h
  obtain ⟨-, -, -, hnumber⟩ := Endpoint.fetchHeader_eq_ok_iff.mp hheader
  rw [generate_of_fetches hproof hheader, finish_of_reportsOther hg hother, hnumber]

theorem generate_of_not_findsOtherHash
    (h : ∀ computed reported, ¬ g.FindsOtherHash e key block computed reported) :
    g.generate e key block =
      Reply.both (e.fetchProof g.contract (key.slot g.mappingSlot) block) (e.fetchHeader block) >>=
        fun fetched => Record.build fetched.2 fetched.1 >>= Record.serialize := by
  rw [generate_eq_finish]
  cases hfetch : Reply.both (e.fetchProof g.contract (key.slot g.mappingSlot) block)
      (e.fetchHeader block) with
  | error f => rfl
  | ok fetched =>
      obtain ⟨hproof, hheader⟩ := Reply.both_eq_ok_iff.mp hfetch
      apply finish_of_not_reportsOther
      intro computed reported hother
      exact h computed reported ⟨_, _, hproof, hheader, hother⟩

/-- Runs with and without the check are equal exactly if no other hash is found. -/
theorem generate_checking_eq_iff :
    (c.checking true).generator.generate e key block =
        (c.checking false).generator.generate e key block ↔
      ∀ computed reported, ¬ c.generator.FindsOtherHash e key block computed reported := by
  constructor
  · intro hsame computed reported hfinds
    have hchecked : (c.checking true).generator.generate e key block = _ :=
      generate_of_findsOtherHash rfl hfinds
    obtain ⟨proof, header, hproof, hheader, hother⟩ := hfinds
    have hunchecked : (c.checking false).generator.generate e key block = _ :=
      generate_of_fetches hproof hheader
    rw [hchecked, hunchecked] at hsame
    exact failsOnly_finish rfl hother.hash _ hsame.symm (Failure.blamesAnswer_encodingMismatch _ _)
  · intro hnone
    have hchecked : (c.checking true).generator.generate e key block = _ :=
      generate_of_not_findsOtherHash hnone
    have hunchecked : (c.checking false).generator.generate e key block = _ :=
      generate_of_not_findsOtherHash hnone
    exact hchecked.trans hunchecked.symm

end Generator

/-- A header with another report. -/
def Header.reporting (h : Header) (r : Option Hash) : Header := { h with reportedHash := r }

/-- An answer about a block with another text for its hash, or without one. -/
def BlockAnswer.reporting (b : BlockAnswer) (s : Option String) : BlockAnswer :=
  { b with hash := s }

/-- The reported hash is the field that is read last, and no other field depends on it. -/
theorem BlockAnswer.toHeader_eq_bind (b : BlockAnswer) :
    b.toHeader = (b.reporting none).toHeader >>= fun h =>
      (Field.optionalHash "hash" b.hash).map h.reporting := by
  have hnone : Field.optionalHash "hash" (b.reporting none).hash = pure none := rfl
  simp only [toHeader, hnone, bind_assoc, pure_bind]
  rfl

theorem BlockAnswer.toHeader_reporting {r₀ : Option Hash}
    (hb : Field.optionalHash "hash" b.hash = .ok r₀) (hs : Field.optionalHash "hash" s = .ok r) :
    (b.reporting s).toHeader = b.toHeader.map fun h => h.reporting r := by
  have hs' : Field.optionalHash "hash" (b.reporting s).hash = .ok r := hs
  have hnone : (b.reporting s).reporting none = b.reporting none := rfl
  rw [toHeader_eq_bind (b.reporting s), toHeader_eq_bind b, hs', hb, hnone]
  cases (b.reporting none).toHeader with
  | error f => rfl
  | ok header => rfl

/-- A report that is no hash is named if every other field is read. -/
theorem BlockAnswer.toHeader_of_malformed (hb : Field.optionalHash "hash" b.hash = .error f)
    (h : (b.reporting none).toHeader = .ok header) : b.toHeader = .error f := by
  rw [toHeader_eq_bind, h, hb]
  rfl

theorem BlockAnswer.toHeaderOf_reporting {answer : Option BlockAnswer}
    (hb : ∀ b, answer = some b → ∃ r₀, Field.optionalHash "hash" b.hash = .ok r₀)
    (hs : Field.optionalHash "hash" s = .ok r) :
    toHeaderOf block (answer.map fun b => b.reporting s) =
      (toHeaderOf block answer).map fun h => h.reporting r := by
  cases answer with
  | none => rfl
  | some b =>
      obtain ⟨r₀, hb⟩ := hb b rfl
      rw [Option.map_some, toHeaderOf, toHeaderOf, toHeader_reporting hb hs]
      cases b.toHeader with
      | error f => rfl
      | ok header =>
          change (if (header.reporting r).number ≠ block then _ else _) =
            Except.map _ (if header.number ≠ block then _ else _)
          have hsame : (header.reporting r).number = header.number := rfl
          rw [hsame]
          split
          · rfl
          · rfl

theorem BlockAnswer.exists_report_of_toHeader (h : b.toHeader = .ok header) :
    ∃ r, Field.optionalHash "hash" b.hash = .ok r := by
  rw [toHeader_eq_bind] at h
  obtain ⟨others, -, hreport⟩ := bind_eq_ok_iff.mp h
  obtain ⟨r, hr, -⟩ := map_eq_ok_iff.mp hreport
  exact ⟨r, hr⟩

/-- A reply with a result of its outcome. -/
def Reply.map {α β : Type} (h : α → β) (reply : Reply α) : Reply β :=
  ⟨reply.outcome.map h, reply.waits⟩

/-- An endpoint whose blocks report another hash, or none. -/
def Endpoint.reporting (e : Endpoint) (s : Option String) : Endpoint where
  proof := e.proof
  block n := (e.block n).map fun answer => answer.map fun b => b.reporting s

/-- Says that the hash that is reported for a block has its form, if there is one. -/
def Endpoint.ReportsHash (e : Endpoint) (block : UInt64) : Prop :=
  ∀ b, (e.block block).outcome = .ok (some b) → ∃ r, Field.optionalHash "hash" b.hash = .ok r

theorem Generator.exists_toHeader_of_generate (h : g.generate e key block = .ok text)
    (hb : (e.block block).outcome = .ok (some b)) : ∃ header, b.toHeader = .ok header := by
  obtain ⟨-, header, -, -, hheader, -⟩ := generate_eq_ok_iff.mp h
  obtain ⟨answer, hanswer, htyped, -⟩ := Endpoint.fetchHeader_eq_ok_iff.mp hheader
  obtain rfl := Option.some.inj (Except.ok.inj (hb.symm.trans hanswer))
  exact ⟨header, htyped⟩

/-- Nothing is generated from a block whose reported hash has not its form. -/
theorem Generator.reportsHash_of_generate (h : g.generate e key block = .ok text) :
    e.ReportsHash block := by
  intro b hb
  obtain ⟨header, htyped⟩ := exists_toHeader_of_generate h hb
  exact BlockAnswer.exists_report_of_toHeader htyped

theorem Endpoint.fetchProof_reporting (e : Endpoint) (s : Option String) (contract : Address)
    (slot : Hash) (block : UInt64) :
    (e.reporting s).fetchProof contract slot block = e.fetchProof contract slot block := rfl

theorem Endpoint.fetchHeader_reporting (he : e.ReportsHash block)
    (hs : Field.optionalHash "hash" s = .ok r) :
    (e.reporting s).fetchHeader block = (e.fetchHeader block).map fun h => h.reporting r := by
  have houtcome : ((e.reporting s).fetchHeader block).outcome =
      (e.fetchHeader block).outcome.map fun h => h.reporting r := by
    change ((e.block block).outcome.map _) >>= _ = ((e.block block).outcome >>= _).map _
    cases hanswer : (e.block block).outcome with
    | error f => rfl
    | ok answer =>
        apply BlockAnswer.toHeaderOf_reporting _ hs
        intro b hb
        exact he b (hanswer.trans (congrArg _ hb))
  rw [Reply.map, ← houtcome]
  rfl

theorem Reply.both_map {α β γ : Type} (first : Reply α) (second : Reply β) (h : β → γ) :
    both first (second.map h) = (both first second).map fun ab => (ab.1, h ab.2) := by
  have hfirst : isFoundFirst first (second.map h) = isFoundFirst first second := rfl
  rw [both, both, hfirst, map]
  cases first.outcome with
  | error f =>
    cases second.outcome with
    | error f' => rfl
    | ok b => rfl
  | ok a =>
    cases second.outcome with
    | error f' => rfl
    | ok b => rfl

/-- Without the check, it has no influence which hash is reported. -/
theorem Generator.generate_reporting (hg : g.checksHash = false) (he : e.ReportsHash block)
    (hs : Field.optionalHash "hash" s = .ok r) :
    g.generate (e.reporting s) key block = g.generate e key block := by
  have hfinish (proof : StateProof) (header : Header) :
      g.finish proof (header.reporting r) = g.finish proof header := by
    rw [finish_of_unchecked hg, finish_of_unchecked hg]
    rfl
  rw [generate_eq_finish, generate_eq_finish, Endpoint.fetchProof_reporting,
    Endpoint.fetchHeader_reporting he hs, Reply.both_map]
  cases Reply.both (e.fetchProof g.contract (key.slot g.mappingSlot) block)
      (e.fetchHeader block) with
  | error f => rfl
  | ok fetched => exact hfinish fetched.1 fetched.2

/-- Where a text is generated without the report, a report that is no hash is what a run fails for,
with the check and without it. -/
theorem Generator.generate_of_malformed (hb : (e.block block).outcome = .ok (some b))
    (hf : Field.optionalHash "hash" b.hash = .error f)
    (h : g.generate (e.reporting none) key block = .ok text) :
    g.generate e key block = .error f := by
  obtain ⟨proof, -, -, hproof, -⟩ := generate_eq_ok_iff.mp h
  have hwithout : ((e.reporting none).block block).outcome = .ok (some (b.reporting none)) := by
    change (e.block block).outcome.map _ = _
    rw [hb]
    rfl
  obtain ⟨header, htyped⟩ := exists_toHeader_of_generate h hwithout
  have hfails : (e.fetchHeader block).outcome = .error f := by
    rw [Endpoint.fetchHeader_of_answer hb, BlockAnswer.toHeaderOf,
      BlockAnswer.toHeader_of_malformed hf htyped]
    rfl
  rw [Endpoint.fetchProof_reporting] at hproof
  rw [generate_eq_finish, Reply.both, hproof, hfails]
  rfl

/-- The check of the reported hash only filters. Runs with and without it have the same result
exactly if the header does not report another hash than it has, and the check refuses every other
header for its hash. Without the check it makes no difference which hash is reported, or whether
one is. The one exception is a report that is no hash: it is read although it is not compared, so
nothing is generated from such a block, and where it is all that is wrong the run fails for it. -/
theorem Generator.check_only_filters (c : Config) (e : Endpoint) (key : LogicalKey)
    (block : UInt64) :
    ((c.checking true).generator.generate e key block =
        (c.checking false).generator.generate e key block ↔
      ∀ computed reported, ¬ c.generator.FindsOtherHash e key block computed reported) ∧
    (∀ computed reported, c.generator.FindsOtherHash e key block computed reported →
      (c.checking true).generator.generate e key block =
        .error (.encodingMismatch "hash" (.hash block computed reported))) ∧
    (∀ s r, e.ReportsHash block → Field.optionalHash "hash" s = .ok r →
      (c.checking false).generator.generate (e.reporting s) key block =
        (c.checking false).generator.generate e key block) ∧
    ∀ b f, (e.block block).outcome = .ok (some b) → Field.optionalHash "hash" b.hash = .error f →
      (∃ m, f = .encodingMismatch "hash" m) ∧
      (∀ text, (c.checking false).generator.generate e key block ≠ .ok text) ∧
      ∀ text, (c.checking false).generator.generate (e.reporting none) key block = .ok text →
        (c.checking false).generator.generate e key block = .error f := by
  refine ⟨generate_checking_eq_iff, ?_, ?_, ?_⟩
  · intro computed reported hfinds
    exact generate_of_findsOtherHash rfl hfinds
  · intro s r he hs
    exact generate_reporting rfl he hs
  · intro b f hb hf
    have hnamed : FailsOnly (fun f => ∃ m, f = .encodingMismatch "hash" m)
        (Field.optionalHash "hash" b.hash) := Field.failsOnly_optionalHash fun m => ⟨m, rfl⟩
    refine ⟨hnamed f hf, ?_, ?_⟩
    · intro text htext
      obtain ⟨r, hr⟩ := reportsHash_of_generate htext b hb
      cases hf.symm.trans hr
    · intro text htext
      exact generate_of_malformed hb hf htext

/-- The first block of the main chain, and a proof with nodes that prove nothing. -/
def Endpoint.genesis : Endpoint := .constant .genesis (Record.bareProof [[0xc0]] [[0xc0]])

theorem Generator.exists_generate_genesis (g : Generator) :
    ∃ text, g.generate .genesis LogicalKey.sample 0 = .ok text := by
  have hextra : Header.genesis.extraData.length < Nat.pow 2 63 := by decide
  have hcheck : g.checkHeader .genesis = .ok () :=
    checkHeader_eq_ok_iff.mpr fun _ => ⟨_, Header.checkReportedHash_genesis⟩
  have hheader := Header.length_encode_le Header.encode_genesis
  have haccount := (Record.bareProof [[0xc0]] [[0xc0]]).account.length_encode_le
  have hnodes : Record.HasNodes (Record.bareProof [[0xc0]] [[0xc0]]).accountProof := by decide
  refine exists_generate_constant hextra Header.encode_genesis hcheck hnodes hnodes ?_ _
  apply Record.isRepresentable_iff.mpr
  exact ⟨Nat.lt_of_le_of_lt hheader (by decide), by decide,
    Nat.lt_of_le_of_lt haccount (by decide), by decide⟩

/-- The hash of the first block. -/
def Header.genesisHash : Hash :=
  bytesOfU256 0xd4e56740f876aef8c010b86a40d5f56745a118d0906a34e69aec8c0db1cb8fa3

theorem Header.reportsOther_genesis :
    (genesis.reporting (some (bytesOfU256 0))).ReportsOther genesisHash (bytesOfU256 0) where
  hash := by
    obtain ⟨bs, he, hhash, -⟩ := checkReportedHash_eq_ok_iff.mp checkReportedHash_genesis
    have he' : (genesis.reporting (some (bytesOfU256 0))).encode = .ok bs := he
    rw [hashOrFail, encodeOrFail, he', genesisHash, ← hhash]
    rfl
  report := rfl
  other := by decide

/-- The hash of zeros as a report. -/
def zeroReport : Option String := some (Hex.text (bytesOfU256 0).toList)

theorem Field.optionalHash_zeroReport :
    optionalHash "hash" zeroReport = .ok (some (bytesOfU256 0)) :=
  optionalHash_of_renders (.some (Hex.renders_text _))

/-- The first block with its own hash, with the hash of zeros, with none and with a text without
digits. -/
theorem Generator.check_only_filters_genesis :
    ∃ text,
      (Config.sample.checking true).generator.generate .genesis LogicalKey.sample 0 = .ok text ∧
      (Config.sample.checking true).generator.generate (Endpoint.genesis.reporting zeroReport)
          LogicalKey.sample 0 =
        .error (.encodingMismatch "hash" (.hash 0 Header.genesisHash (bytesOfU256 0))) ∧
      (Config.sample.checking false).generator.generate (Endpoint.genesis.reporting zeroReport)
          LogicalKey.sample 0 = .ok text ∧
      (Config.sample.checking false).generator.generate (Endpoint.genesis.reporting none)
          LogicalKey.sample 0 = .ok text ∧
      (Config.sample.checking false).generator.generate (Endpoint.genesis.reporting (some "0x"))
          LogicalKey.sample 0 = .error (.encodingMismatch "hash" (.form .hash (.width 0))) := by
  have hfetched : (Endpoint.genesis.fetchHeader 0).outcome = .ok Header.genesis :=
    Endpoint.fetchHeader_constant
  obtain ⟨text, htext⟩ := exists_generate_genesis (Config.sample.checking false).generator
  have hgenesis : Endpoint.genesis.ReportsHash 0 := reportsHash_of_generate htext
  obtain ⟨hsame, -, hreports, -⟩ :=
    check_only_filters Config.sample .genesis LogicalKey.sample 0
  obtain ⟨-, hrefused, -⟩ := check_only_filters Config.sample
    (Endpoint.genesis.reporting zeroReport) LogicalKey.sample 0
  obtain ⟨-, -, -, hmalformed⟩ := check_only_filters Config.sample
    (Endpoint.genesis.reporting (some "0x")) LogicalKey.sample 0
  have hnone := (hreports none none hgenesis rfl).trans htext
  refine ⟨text, ?_, ?_, ?_, hnone, ?_⟩
  · rw [hsame.mpr, htext]
    rintro computed reported ⟨-, header, -, hheader, hother⟩
    obtain rfl := Except.ok.inj (hfetched.symm.trans hheader)
    cases Header.checkReportedHash_genesis.symm.trans hother.checkReportedHash
  · apply hrefused
    refine ⟨Record.bareProof [[0xc0]] [[0xc0]], _, ?_, ?_, Header.reportsOther_genesis⟩
    · rw [Endpoint.fetchProof_reporting]
      exact Endpoint.fetchProof_constant (List.cons_ne_nil _ _) _ _ _
    · rw [Endpoint.fetchHeader_reporting hgenesis Field.optionalHash_zeroReport, Reply.map,
        hfetched]
      rfl
  · rw [hreports _ _ hgenesis Field.optionalHash_zeroReport, htext]
  · obtain ⟨-, -, hfails⟩ := hmalformed _ _ rfl rfl
    exact hfails text hnone

/-- A report of one byte fails the run without the check, and the same answers give a text as soon
as the report is left out or is a hash. -/
theorem Generator.malformed_report_has_influence :
    (Config.sample.checking false).generator.generate (Endpoint.genesis.reporting (some "0x12"))
        LogicalKey.sample 0 = .error (.encodingMismatch "hash" (.form .hash (.width 1))) ∧
      ∃ text,
        (Config.sample.checking false).generator.generate
            ((Endpoint.genesis.reporting (some "0x12")).reporting none)
            LogicalKey.sample 0 = .ok text ∧
        (Config.sample.checking false).generator.generate
            ((Endpoint.genesis.reporting (some "0x12")).reporting zeroReport)
            LogicalKey.sample 0 = .ok text := by
  obtain ⟨text, htext⟩ := exists_generate_genesis (Config.sample.checking false).generator
  have hgenesis : Endpoint.genesis.ReportsHash 0 := reportsHash_of_generate htext
  have hagain (s : Option String) :
      (Endpoint.genesis.reporting (some "0x12")).reporting s = Endpoint.genesis.reporting s := rfl
  have hnone : (Config.sample.checking false).generator.generate (Endpoint.genesis.reporting none)
      LogicalKey.sample 0 = .ok text := (generate_reporting rfl hgenesis rfl).trans htext
  refine ⟨generate_of_malformed rfl rfl hnone, text, ?_, ?_⟩
  · rw [hagain, hnone]
  · rw [hagain, generate_reporting rfl hgenesis Field.optionalHash_zeroReport, htext]

end UnlockProof

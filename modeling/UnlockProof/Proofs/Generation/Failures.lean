import UnlockProof.Proofs.Failure
import UnlockProof.Proofs.Generation

/-!
# Failures of a generation

A generation fails in its first stage that fails: one of the two fetches, the check of the header,
the record or its text. The failures up to the record blame the answer, and a text that cannot be
written blames the schema. Only the record itself can blame an input, and it does so exactly for an
empty node in the proof that was fetched. So the blame for an input does not mean that the caller
gave it. This holds of every endpoint that is to blame itself for not answering, and so of one that
is asked over HTTP.
-/

namespace UnlockProof
open Outcome

variable {e : Endpoint} {g : Generator} {block : UInt64} {header : Header} {proof : StateProof}
  {key : LogicalKey} {f : Failure} {fault : InputFault}

/-- Says that a list of a state proof has the first empty node, where the nodes of the account come
before those of the slot. -/
def StateProof.FirstEmptyNode (proof : StateProof) : NodeList → Nat → Prop
  | .account, index => Record.FirstEmpty proof.accountProof index
  | .storage, index =>
      (∀ node ∈ proof.accountProof, node ≠ []) ∧ Record.FirstEmpty proof.storageProof index

/-- To build a record blames an input exactly for an empty node. -/
theorem Record.build_eq_invalidInput_iff (hextra : header.extraData.length < Nat.pow 2 63)
    (hnodes : proof.accountProof ≠ []) :
    build header proof = .error (.invalidInput fault) ↔
      (∃ headerData, header.encode = .ok headerData) ∧
        ∃ list index, proof.FirstEmptyNode list index ∧ fault = .emptyNode list index := by
  rw [build_eq_error_iff hextra]
  simp only [checkNodes_eq_error_iff, checkNodes_eq_ok_iff, reduceCtorEq, and_false, false_or,
    Failure.invalidInput.injEq]
  constructor
  · rintro (hgap | ⟨headerData, he, ⟨index, hempty, hfault⟩ | ⟨⟨-, hall⟩, index, hempty, hfault⟩⟩)
    · exact absurd (header.failsOnly_encodeOrFail _ hgap) (Failure.not_blamesAnswer_invalidInput _)
    · exact ⟨⟨headerData, he⟩, .account, index, hempty, hfault⟩
    · exact ⟨⟨headerData, he⟩, .storage, index, ⟨hall, hempty⟩, hfault⟩
  · rintro ⟨⟨headerData, he⟩, list, index, hempty, hfault⟩
    refine Or.inr ⟨headerData, he, ?_⟩
    cases list with
    | account => exact Or.inl ⟨index, hempty, hfault⟩
    | storage => exact Or.inr ⟨⟨hnodes, hempty.1⟩, index, hempty.2, hfault⟩

/-- The state proof of the one slot with an empty node behind the one that proves the value. -/
def StateProof.ofSlotWithSurplus (address : Address) (slot : Hash) (value : U256) : StateProof :=
  { ofSlot address slot value with
    storageProof := [(Verification.slotTrie slot value).encode, []] }

theorem StateProof.firstEmptyNode_ofSlotWithSurplus (address : Address) (slot : Hash)
    (value : U256) : (ofSlotWithSurplus address slot value).FirstEmptyNode .storage 1 := by
  refine ⟨?_, rfl, ?_⟩
  · intro node hmem
    rw [List.mem_singleton.mp hmem]
    exact Trie.Tree.encode_ne_nil _
  · intro j hj hempty
    rw [Nat.lt_one_iff.mp hj] at hempty
    exact Trie.Tree.encode_ne_nil _ (Option.some.inj hempty)

theorem Endpoint.isEnvironmental_constant (header : Header) (proof : StateProof) :
    (constant header proof).IsEnvironmental where
  proof _ := failsOnly_ok
  block _ := failsOnly_ok

theorem Endpoint.fetchHeader_ofSlot (address : Address) (slot : Hash) (value : U256)
    (proof : StateProof) :
    ((constant (.ofSlot address slot value) proof).fetchHeader 0).outcome =
      .ok (.ofSlot address slot value) := fetchHeader_constant

namespace Generator

theorem failsOnly_checkHeader (g : Generator) (header : Header) :
    FailsOnly Failure.BlamesAnswer (g.checkHeader header) := by
  rw [checkHeader]
  split
  · exact failsOnly_map_iff.mpr header.failsOnly_checkReportedHash
  · exact failsOnly_ok

/-- A generation fails as the first of its stages does. -/
theorem generate_eq_error_iff :
    g.generate e key block = .error f ↔
      Reply.both (e.fetchProof g.contract (key.slot g.mappingSlot) block) (e.fetchHeader block) =
          .error f ∨
        ∃ proof header,
          (e.fetchProof g.contract (key.slot g.mappingSlot) block).outcome = .ok proof ∧
          (e.fetchHeader block).outcome = .ok header ∧
          (g.checkHeader header = .error f ∨ g.checkHeader header = .ok () ∧
            (Record.build header proof = .error f ∨
              ∃ r, Record.build header proof = .ok r ∧ r.serialize = .error f)) := by
  simp only [generate, build, bind_eq_error_iff, bind_eq_ok_iff, Prod.exists, Reply.both_eq_ok_iff]
  constructor
  · rintro ((hfetch | ⟨proof, header, ⟨hproof, hheader⟩, hcheck | ⟨_, hcheck, hbuild⟩⟩) |
      ⟨r, ⟨proof, header, ⟨hproof, hheader⟩, _, hcheck, hbuild⟩, hwrite⟩)
    · exact Or.inl hfetch
    · exact Or.inr ⟨proof, header, hproof, hheader, Or.inl hcheck⟩
    · exact Or.inr ⟨proof, header, hproof, hheader, Or.inr ⟨hcheck, Or.inl hbuild⟩⟩
    · exact Or.inr ⟨proof, header, hproof, hheader, Or.inr ⟨hcheck, Or.inr ⟨r, hbuild, hwrite⟩⟩⟩
  · rintro (hfetch | ⟨proof, header, hproof, hheader, hcheck |
      ⟨hcheck, hbuild | ⟨r, hbuild, hwrite⟩⟩⟩)
    · exact Or.inl (Or.inl hfetch)
    · exact Or.inl (Or.inr ⟨proof, header, ⟨hproof, hheader⟩, Or.inl hcheck⟩)
    · exact Or.inl (Or.inr ⟨proof, header, ⟨hproof, hheader⟩, Or.inr ⟨(), hcheck, hbuild⟩⟩)
    · exact Or.inr ⟨r, ⟨proof, header, ⟨hproof, hheader⟩, (), hcheck, hbuild⟩, hwrite⟩

/-- The fetches blame nothing but the answer if the endpoint blames itself for not answering. -/
theorem failsOnly_fetches (he : e.IsEnvironmental) :
    FailsOnly Failure.BlamesAnswer
      (Reply.both (e.fetchProof g.contract (key.slot g.mappingSlot) block)
        (e.fetchHeader block)) :=
  Reply.failsOnly_both
    (Endpoint.failsOnly_fetchProof he g.contract (key.slot g.mappingSlot) block)
    (Endpoint.failsOnly_fetchHeader he block)

/-- Behind fetches that blame nothing but the answer, an input is blamed exactly for the first empty
node of the proof. -/
theorem generate_eq_invalidInput_iff_of_fetches
    (hfetches : FailsOnly Failure.BlamesAnswer
      (Reply.both (e.fetchProof g.contract (key.slot g.mappingSlot) block) (e.fetchHeader block)))
    (hextra : ∀ header, (e.fetchHeader block).outcome = .ok header →
      header.extraData.length < Nat.pow 2 63) :
    g.generate e key block = .error (.invalidInput fault) ↔
      ∃ proof header headerData list index,
        (e.fetchProof g.contract (key.slot g.mappingSlot) block).outcome = .ok proof ∧
        (e.fetchHeader block).outcome = .ok header ∧ g.checkHeader header = .ok () ∧
        header.encode = .ok headerData ∧ proof.FirstEmptyNode list index ∧
        fault = .emptyNode list index := by
  have hblame := Failure.not_blamesAnswer_invalidInput fault
  rw [generate_eq_error_iff]
  constructor
  · -- Every stage but the record blames the answer or the schema.
    rintro (hfetch | ⟨proof, header, hproof, hheader, hcheck |
      ⟨hcheck, hbuild | ⟨r, -, hwrite⟩⟩⟩)
    · exact absurd (hfetches _ hfetch) hblame
    · exact absurd (g.failsOnly_checkHeader header _ hcheck) hblame
    · obtain ⟨answer, -, -, hnodes⟩ := Endpoint.fetchProof_eq_ok_iff.mp hproof
      obtain ⟨⟨headerData, hencode⟩, list, index, hempty, hfault⟩ :=
        (Record.build_eq_invalidInput_iff (hextra header hheader) hnodes).mp hbuild
      exact ⟨proof, header, headerData, list, index, hproof, hheader, hcheck, hencode, hempty,
        hfault⟩
    · cases r.failsOnly_serialize _ hwrite
  · rintro ⟨proof, header, headerData, list, index, hproof, hheader, hcheck, hencode, hempty,
      hfault⟩
    obtain ⟨answer, -, -, hnodes⟩ := Endpoint.fetchProof_eq_ok_iff.mp hproof
    have hbuild := (Record.build_eq_invalidInput_iff (hextra header hheader) hnodes).mpr
      ⟨⟨headerData, hencode⟩, list, index, hempty, hfault⟩
    exact Or.inr ⟨proof, header, hproof, hheader, Or.inr ⟨hcheck, Or.inl hbuild⟩⟩

/-- A generation blames an input exactly for the first empty node of the proof that it has fetched,
after both fetches have succeeded and the header has passed its check. An endpoint that is to blame
itself for not answering never makes it blame another input. -/
theorem generate_eq_invalidInput_iff (he : e.IsEnvironmental)
    (hextra : ∀ header, (e.fetchHeader block).outcome = .ok header →
      header.extraData.length < Nat.pow 2 63) :
    g.generate e key block = .error (.invalidInput fault) ↔
      ∃ proof header headerData list index,
        (e.fetchProof g.contract (key.slot g.mappingSlot) block).outcome = .ok proof ∧
        (e.fetchHeader block).outcome = .ok header ∧ g.checkHeader header = .ok () ∧
        header.encode = .ok headerData ∧ proof.FirstEmptyNode list index ∧
        fault = .emptyNode list index :=
  generate_eq_invalidInput_iff_of_fetches (failsOnly_fetches he) hextra

/-- The value of the slot is proved, and yet the empty node behind makes an input to blame. -/
theorem generate_eq_invalidInput_iff_surplus :
    Config.sample.generator.generate
        (.constant (.ofSlot (Verification.uniform 1) (LogicalKey.sample.slot 7) 1)
          (.ofSlotWithSurplus (Verification.uniform 1) (LogicalKey.sample.slot 7) 1))
        LogicalKey.sample 0 =
      .error (.invalidInput (.emptyNode .storage 1)) := by
  have hheader := Endpoint.fetchHeader_ofSlot (Verification.uniform 1) (LogicalKey.sample.slot 7) 1
    (.ofSlotWithSurplus (Verification.uniform 1) (LogicalKey.sample.slot 7) 1)
  apply (generate_eq_invalidInput_iff (Endpoint.isEnvironmental_constant _ _) ?_).mpr
  · exact ⟨_, _, _, .storage, 1, Endpoint.fetchProof_constant (List.cons_ne_nil _ _) _ _ _,
      hheader, checkHeader_ofSlot _ _ _ _, encode_ofSlot _ _ _,
      StateProof.firstEmptyNode_ofSlotWithSurplus _ _ _, rfl⟩
  · intro header hfetch
    rw [← Except.ok.inj (hheader.symm.trans hfetch), length_extraData_ofSlot]
    decide

/-- Over HTTP, whatever comes back, a generation blames an input exactly for the first empty node of
the proof that it has fetched. -/
theorem generate_overHttp_eq_invalidInput_iff (post : Request → Exchange)
    (hextra : ∀ header, ((Endpoint.overHttp post).fetchHeader block).outcome = .ok header →
      header.extraData.length < Nat.pow 2 63) :
    g.generate (.overHttp post) key block = .error (.invalidInput fault) ↔
      ∃ proof header headerData list index,
        ((Endpoint.overHttp post).fetchProof g.contract (key.slot g.mappingSlot) block).outcome =
          .ok proof ∧
        ((Endpoint.overHttp post).fetchHeader block).outcome = .ok header ∧
        g.checkHeader header = .ok () ∧ header.encode = .ok headerData ∧
        proof.FirstEmptyNode list index ∧ fault = .emptyNode list index :=
  generate_eq_invalidInput_iff_of_fetches
    (failsOnly_fetches (Endpoint.isEnvironmental_overHttp post)) hextra

end Generator
end UnlockProof

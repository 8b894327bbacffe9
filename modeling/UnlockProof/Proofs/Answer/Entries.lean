import UnlockProof.Proofs.Answer
import UnlockProof.Proofs.Failure

/-!
# Proofs of one slot

One slot is asked for, so the first storage entry of an answer is its proof and the entries behind
it say nothing. An answer without an entry has no proof, whatever else it says; every other answer
that is not read has a field without its form.
-/

namespace UnlockProof.ProofAnswer

variable {a : ProofAnswer} {p : StateProof} {entry : StorageEntry} {block : UInt64}

/-- An answer with other storage entries. -/
def withEntries (a : ProofAnswer) (entries : List StorageEntry) : ProofAnswer :=
  { a with storageProof := entries }

/-- The entries behind the first one say nothing. -/
theorem toStateProof_withEntries (hentry : a.storageProof.head? = some entry)
    (later : List StorageEntry) (block : UInt64) :
    (a.withEntries (entry :: later)).toStateProof block = a.toStateProof block := by
  obtain ⟨later', hentries⟩ := List.head?_eq_some_iff.mp hentry
  rw [toStateProof, toStateProof, hentries]
  rfl

/-- A proof is unavailable exactly if there is no entry. -/
theorem toStateProof_eq_proofUnavailable_iff {number : UInt64} {cause : Unavailable} :
    a.toStateProof block = .error (.proofUnavailable number cause) ↔
      a.storageProof = [] ∧ number = block ∧ cause = .noStorageEntry := by
  by_cases ha : a.storageProof = []
  · rw [toStateProof_of_eq_nil ha]
    simp only [Except.error.injEq, Failure.proofUnavailable.injEq, ha, true_and]
    rw [eq_comm, eq_comm (a := cause)]
  · have hmismatch := failsOnly_toStateProof_of_ne_nil (p := fun f => ∃ field m,
      f = .encodingMismatch field m) ha (fun field m => ⟨field, m, rfl⟩) block
    simp only [ha, false_and, iff_false]
    intro herror
    obtain ⟨field, m, hfield⟩ := hmismatch _ herror
    cases hfield

/-- A state proof is read from every answer whose fields and first entry render it, in whatever
styles, and the entries behind the first one may be anything. Without an entry, and only then, the
proof of the block that was asked for is unavailable. -/
theorem reads_renderings_by_first_entry (a : ProofAnswer) (block : UInt64) :
    (∀ p, a.Renders p → a.toStateProof block = .ok p) ∧
    (∀ entry later, a.storageProof.head? = some entry →
      (a.withEntries (entry :: later)).toStateProof block = a.toStateProof block) ∧
    ∀ number cause, a.toStateProof block = .error (.proofUnavailable number cause) ↔
      a.storageProof = [] ∧ number = block ∧ cause = .noStorageEntry := by
  refine ⟨?_, ?_, ?_⟩
  · intro p ha
    exact toStateProof_of_renders ha block
  · intro entry later hentry
    exact toStateProof_withEntries hentry later block
  · intro number cause
    exact toStateProof_eq_proofUnavailable_iff

theorem length_sampleAddress : (List.replicate 20 (0xaa : UInt8)).length = 20 :=
  List.length_replicate

/-- A state proof of slot 302. -/
def sampleProof : StateProof where
  address := ⟨List.replicate 20 0xaa, length_sampleAddress⟩
  accountProof := [[0xc0], [0xc1, 0x80]]
  account := ⟨1, 1000, bytesOfU256 5, bytesOfU256 6⟩
  storageKey := bytesOfU256 302
  storageValue := 1
  storageProof := [[0xc0]]

/-- An answer that says what this proof is, with a trimmed key, and has an entry without form
behind. -/
def sample : ProofAnswer :=
  { ofStateProof sampleProof with
    accountProof := ["0XC0", "\t0xC180"]
    balance := .text "01000"
    nonce := .text "0x0001"
    storageProof := [⟨" 0x12e", .text "1", ["0xc0 "]⟩, ⟨"none", .text "", ["c0"]⟩] }

theorem renders_sample : sample.Renders sampleProof := by
  have hbalance : Numeral.IsPlain [0, 1, 0, 0, 0] "01000" := by decide
  have hnonce : Numeral.IsMarked [0, 0, 0, 1] "0x0001" := by decide
  have hkey : Numeral.IsMarked [1, 2, 14] " 0x12e" := by decide
  have hvalue : Numeral.IsPlain [1] "1" := by decide
  have haccount : List.Forall₂ Hex.Renders sampleProof.accountProof sample.accountProof :=
    .cons (by decide) (.cons (by decide) .nil)
  have hstorage : List.Forall₂ Hex.Renders sampleProof.storageProof ["0xc0 "] :=
    .cons (by decide) .nil
  exact { renders_ofStateProof sampleProof with
    accountProof := haccount
    balance := .plain (List.cons_ne_nil _ _) hbalance rfl
    nonce := .marked hnonce rfl
    storageProof := ⟨_, _, rfl, {
      key := .marked hkey (by decide)
      value := .plain (List.cons_ne_nil _ _) hvalue rfl
      proof := hstorage }⟩ }

theorem reads_renderings_by_first_entry_sample :
    sample.toStateProof 7 = .ok sampleProof ∧
      (sample.withEntries [⟨" 0x12e", .text "1", ["0xc0 "]⟩]).toStateProof 7 = .ok sampleProof ∧
      (sample.withEntries []).toStateProof 7 =
        .error (.proofUnavailable 7 .noStorageEntry) := by
  obtain ⟨hread, hfirst, -⟩ := reads_renderings_by_first_entry sample 7
  obtain ⟨-, -, hnone⟩ := reads_renderings_by_first_entry (sample.withEntries []) 7
  refine ⟨hread sampleProof renders_sample, ?_, (hnone 7 .noStorageEntry).mpr ⟨rfl, rfl, rfl⟩⟩
  rw [hfirst _ [] rfl]
  exact hread sampleProof renders_sample

end UnlockProof.ProofAnswer

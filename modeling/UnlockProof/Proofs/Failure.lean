import UnlockProof.Http.Exchange
import UnlockProof.Proofs.Outcome
import UnlockProof.Record.Assembly

/-!
# What failures blame

A failure blames the answer if the endpoint does not deliver or if a field of what it delivers has
no canonical form. All readers of answers fail in this way only, and so does an endpoint that is
asked over HTTP, whatever comes back.

## Implementation notes

The readers of fields are stated for any property of failures that mismatches of their field have,
since the name of the field is all that their failures have in common.
-/

namespace UnlockProof
open Outcome

/-- Says that a failure blames the endpoint or a field of its answer. -/
def Failure.BlamesAnswer (f : Failure) : Prop :=
  f.isEnvironmental = true ∨ ∃ field m, f = .encodingMismatch field m

@[simp] theorem Failure.blamesAnswer_encodingMismatch (field : String) (m : Mismatch) :
    (encodingMismatch field m).BlamesAnswer := Or.inr ⟨field, m, rfl⟩

@[simp] theorem Failure.blamesAnswer_proofUnavailable (block : UInt64) (cause : Unavailable) :
    (proofUnavailable block cause).BlamesAnswer := Or.inl rfl

@[simp] theorem Failure.blamesAnswer_blockNotFound (block : UInt64) :
    (blockNotFound block).BlamesAnswer := Or.inl rfl

theorem Failure.not_blamesAnswer_invalidInput (fault : InputFault) :
    ¬ (invalidInput fault).BlamesAnswer := by
  rintro (henv | ⟨field, m, hf⟩)
  · cases henv
  · cases hf

theorem Failure.not_blamesAnswer_schema (fault : SchemaFault) :
    ¬ (schema fault).BlamesAnswer := by
  rintro (henv | ⟨field, m, hf⟩)
  · cases henv
  · cases hf

namespace Field

variable {p : Failure → Prop} {field s : String} {form : Form}

theorem failsOnly_decodeHex (hp : ∀ m, p (.encodingMismatch field m)) :
    FailsOnly p (decodeHex field form s) := by
  rw [decodeHex]
  split
  · exact failsOnly_error_iff.mpr (hp _)
  · split
    · exact failsOnly_error_iff.mpr (hp _)
    · exact failsOnly_ok

theorem failsOnly_fixed {n : Nat} (hp : ∀ m, p (.encodingMismatch field m)) :
    FailsOnly p (fixed n form field s) := by
  have hbytes : FailsOnly p (decodeHex field form s) := failsOnly_decodeHex hp
  rw [fixed]
  split
  · next f hf => exact failsOnly_error_iff.mpr (hbytes f hf)
  · split
    · exact failsOnly_ok
    · exact failsOnly_error_iff.mpr (hp _)

theorem failsOnly_hash (hp : ∀ m, p (.encodingMismatch field m)) : FailsOnly p (hash field s) :=
  failsOnly_fixed hp

theorem failsOnly_address (hp : ∀ m, p (.encodingMismatch field m)) :
    FailsOnly p (address field s) := failsOnly_fixed hp

theorem failsOnly_bloom (hp : ∀ m, p (.encodingMismatch field m)) : FailsOnly p (bloom field s) :=
  failsOnly_fixed hp

theorem failsOnly_bytes (hp : ∀ m, p (.encodingMismatch field m)) : FailsOnly p (bytes field s) :=
  failsOnly_decodeHex hp

theorem failsOnly_optionalHash {s : Option String} (hp : ∀ m, p (.encodingMismatch field m)) :
    FailsOnly p (optionalHash field s) := by
  cases s with
  | none => exact failsOnly_ok
  | some s => exact failsOnly_map_iff.mpr (failsOnly_hash hp)

theorem failsOnly_quantity {q : Quantity} (hp : ∀ m, p (.encodingMismatch field m)) :
    FailsOnly p (quantity form field q) := .mapError (fun _ => hp _) q.read

theorem failsOnly_narrow {v : U256} (hp : ∀ m, p (.encodingMismatch field m)) :
    FailsOnly p (narrow form field v) := by
  rw [narrow]
  split
  · exact failsOnly_ok
  · exact failsOnly_error_iff.mpr (hp _)

theorem failsOnly_integer {q : Quantity} (hp : ∀ m, p (.encodingMismatch field m)) :
    FailsOnly p (integer field q) := failsOnly_quantity hp

theorem failsOnly_integer64 {q : Quantity} (hp : ∀ m, p (.encodingMismatch field m)) :
    FailsOnly p (integer64 field q) :=
  failsOnly_bind_iff.mpr ⟨failsOnly_quantity hp, fun _ _ => failsOnly_narrow hp⟩

theorem failsOnly_optionalInteger {q : Option Quantity} (hp : ∀ m, p (.encodingMismatch field m)) :
    FailsOnly p (optionalInteger field q) := by
  cases q with
  | none => exact failsOnly_ok
  | some q =>
      simp only [optionalInteger, failsOnly_bind_iff, failsOnly_quantity hp, failsOnly_narrow hp,
        failsOnly_pure, implies_true, and_self]

theorem failsOnly_integerOrZero {q : Option Quantity} (hp : ∀ m, p (.encodingMismatch field m)) :
    FailsOnly p (integerOrZero field q) := by
  cases q with
  | none => exact failsOnly_ok
  | some q => exact failsOnly_quantity hp

theorem failsOnly_nonce {q : Quantity} (hp : ∀ m, p (.encodingMismatch field m)) :
    FailsOnly p (nonce field q) := by
  simp only [nonce, failsOnly_bind_iff, failsOnly_quantity hp, failsOnly_narrow hp,
    failsOnly_pure, implies_true, and_self]

end Field

theorem BlockAnswer.failsOnly_toHeader (b : BlockAnswer) :
    FailsOnly Failure.BlamesAnswer b.toHeader := by
  simp only [toHeader, failsOnly_bind_iff, failsOnly_pure, Failure.blamesAnswer_encodingMismatch,
    Field.failsOnly_hash, Field.failsOnly_address, Field.failsOnly_bloom,
    Field.failsOnly_integerOrZero, Field.failsOnly_integer64, Field.failsOnly_bytes,
    Field.failsOnly_nonce, Field.failsOnly_optionalInteger, Field.failsOnly_optionalHash,
    implies_true, and_self]

namespace ProofAnswer

variable {p : Failure → Prop}

theorem failsOnly_nodesFrom (hp : ∀ field m, p (.encodingMismatch field m)) (field : String)
    (place : Nat) (texts : List String) : FailsOnly p (nodesFrom field place texts) := by
  induction texts generalizing place with
  | nil => exact failsOnly_ok
  | cons s rest ih =>
      simp only [nodesFrom, failsOnly_bind_iff, failsOnly_pure, Field.failsOnly_bytes, ih, hp,
        implies_true, and_self]

/-- With an entry, nothing but the form of a field keeps a proof from being read. -/
theorem failsOnly_toStateProof_of_ne_nil {a : ProofAnswer} (ha : a.storageProof ≠ [])
    (hp : ∀ field m, p (.encodingMismatch field m)) (block : UInt64) :
    FailsOnly p (a.toStateProof block) := by
  rw [toStateProof]
  split
  case h_1 hnil => exact absurd hnil ha
  case h_2 =>
    simp only [storageKey, failsOnly_bind_iff, failsOnly_pure, Field.failsOnly_address,
      Field.failsOnly_hash, Field.failsOnly_integer, Field.failsOnly_integer64,
      failsOnly_nodesFrom, hp, implies_true, and_self]

theorem toStateProof_of_eq_nil {a : ProofAnswer} (ha : a.storageProof = []) (block : UInt64) :
    a.toStateProof block = .error (.proofUnavailable block .noStorageEntry) := by
  rw [toStateProof, ha]

theorem failsOnly_toStateProof (a : ProofAnswer) (block : UInt64) :
    FailsOnly Failure.BlamesAnswer (a.toStateProof block) := by
  by_cases ha : a.storageProof = []
  · rw [toStateProof_of_eq_nil ha, failsOnly_error_iff]
    exact Failure.blamesAnswer_proofUnavailable _ _
  · exact failsOnly_toStateProof_of_ne_nil ha Failure.blamesAnswer_encodingMismatch block

end ProofAnswer

/-- Says that an endpoint that does not answer is to blame for it itself. -/
structure Endpoint.IsEnvironmental (e : Endpoint) : Prop where
  proof : ∀ q, FailsOnly (fun f => f.isEnvironmental = true) (e.proof q).outcome
  block : ∀ n, FailsOnly (fun f => f.isEnvironmental = true) (e.block n).outcome

theorem ErrorObject.isEnvironmental_classify (o : ErrorObject) (block : UInt64) :
    (o.classify block).isEnvironmental = true := by
  rw [classify]
  split
  · rfl
  · split
    · rfl
    · rfl

theorem Exchange.failsOnly_result {α : Type} (ofValue : Json.Value → Except Json.Fault α)
    (method : String) (block : UInt64) (x : Exchange) :
    FailsOnly (fun f => f.isEnvironmental = true) (x.result ofValue method block) := by
  have hnetwork : ∀ fault, (Failure.network method fault).isEnvironmental = true := fun _ => rfl
  rw [result]
  refine failsOnly_bind_iff.mpr ⟨.mapError hnetwork x.envelope, ?_⟩
  intro r _
  split
  · exact failsOnly_throw_iff.mpr (ErrorObject.isEnvironmental_classify _ block)
  · exact failsOnly_pure
  · exact .mapError (fun fault => hnetwork (.resultShape fault)) _

/-- An endpoint that is asked over HTTP is to blame itself for whatever exchange gives no answer. -/
theorem Endpoint.isEnvironmental_overHttp (post : Request → Exchange) :
    (overHttp post).IsEnvironmental where
  proof q := by
    refine failsOnly_bind_iff.mpr ⟨Exchange.failsOnly_result _ _ _ _, ?_⟩
    intro answer _
    cases answer with
    | none => exact failsOnly_error_iff.mpr rfl
    | some answer => exact failsOnly_ok
  block n := Exchange.failsOnly_result _ _ _ _

variable {e : Endpoint}

theorem Endpoint.failsOnly_fetchProof (he : e.IsEnvironmental) (contract : Address) (slot : Hash)
    (block : UInt64) :
    FailsOnly Failure.BlamesAnswer (e.fetchProof contract slot block).outcome := by
  simp only [fetchProof, Reply.andThen, ProofAnswer.toNonemptyProof, failsOnly_bind_iff]
  refine ⟨fun f hf => Or.inl (he.proof _ f hf), ?_⟩
  intro answer _
  refine ⟨answer.failsOnly_toStateProof block, ?_⟩
  intro proof _
  split
  · exact failsOnly_error_iff.mpr (Failure.blamesAnswer_proofUnavailable _ _)
  · exact failsOnly_pure

theorem Endpoint.failsOnly_fetchHeader (he : e.IsEnvironmental) (block : UInt64) :
    FailsOnly Failure.BlamesAnswer (e.fetchHeader block).outcome := by
  simp only [fetchHeader, Reply.andThen, failsOnly_bind_iff]
  refine ⟨fun f hf => Or.inl (he.block _ f hf), ?_⟩
  intro answer _
  cases answer with
  | none => exact failsOnly_error_iff.mpr (Failure.blamesAnswer_blockNotFound block)
  | some answer =>
      refine failsOnly_bind_iff.mpr ⟨answer.failsOnly_toHeader, ?_⟩
      intro header _
      split
      · exact failsOnly_error_iff.mpr (Failure.blamesAnswer_encodingMismatch _ _)
      · exact failsOnly_pure

/-- Waiting for two replies fails as one of them does. -/
theorem Reply.failsOnly_both {α β : Type} {p : Failure → Prop} {first : Reply α}
    {second : Reply β} (h : FailsOnly p first.outcome) (h' : FailsOnly p second.outcome) :
    FailsOnly p (both first second) := by
  rw [both]
  split
  · exact failsOnly_ok
  · next hf _ => exact failsOnly_error_iff.mpr (h _ hf)
  · next _ hg => exact failsOnly_error_iff.mpr (h' _ hg)
  · next hf hg =>
      rw [failsOnly_error_iff]
      split
      · exact h _ hf
      · exact h' _ hg

theorem Header.failsOnly_encodeOrFail (h : Header) :
    FailsOnly Failure.BlamesAnswer h.encodeOrFail :=
  .mapError (fun _ => Failure.blamesAnswer_encodingMismatch _ _) h.encode

theorem Header.failsOnly_checkReportedHash (h : Header) :
    FailsOnly Failure.BlamesAnswer h.checkReportedHash := by
  simp only [checkReportedHash, hashOrFail, failsOnly_bind_iff, failsOnly_map_iff,
    h.failsOnly_encodeOrFail, true_and]
  intro computed _
  split
  · split
    · exact failsOnly_error_iff.mpr (Failure.blamesAnswer_encodingMismatch _ _)
    · exact failsOnly_pure
  · exact failsOnly_pure

/-- A record that is not written does not fit the schema. -/
theorem Record.failsOnly_serialize (r : Record) :
    FailsOnly (fun f => f = .schema .tooLong) r.serialize := by
  rw [serialize]
  split
  · exact failsOnly_ok
  · exact failsOnly_error_iff.mpr rfl

end UnlockProof

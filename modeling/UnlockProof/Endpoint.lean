import UnlockProof.Answer

/-!
# Endpoints

An endpoint answers two questions about the chain: what a block is, and what proves the state of a
contract at a block. Its answers are not trusted until they have their typed form, and an answer
about another block or without any node is no answer.

## Implementation notes

A reply says how often it is looked for in vain before it is there. When two replies are waited for
together, each round looks for both that are still missing, in turns which of them first; the first
failure that is found ends the waiting.
-/

namespace UnlockProof

/-- The question for the state of a contract: some of its slots at a block. -/
structure ProofQuery where
  contract : Address
  slots : List Hash
  block : UInt64
deriving DecidableEq

/-- An outcome, and in how many rounds it is looked for in vain. -/
structure Reply (α : Type) where
  outcome : Except Failure α
  waits : Nat

/-- The answers of an endpoint. A block that it does not know is absent. -/
structure Endpoint where
  proof : ProofQuery → Reply ProofAnswer
  block : UInt64 → Reply (Option BlockAnswer)

namespace Reply
variable {α β : Type}

/-- Works on as soon as a reply is there. -/
def andThen (r : Reply α) (f : α → Except Failure β) : Reply β := ⟨r.outcome >>= f, r.waits⟩

/-- Tells whether the first of two replies is found before the second. In a round that finds both,
the first is looked for first in the rounds of even number. -/
def isFoundFirst (first : Reply α) (second : Reply β) : Bool :=
  first.waits < second.waits || (first.waits == second.waits && first.waits % 2 == 0)

/-- Waits for two replies, or for the first failure of them. -/
def both (first : Reply α) (second : Reply β) : Except Failure (α × β) :=
  match first.outcome, second.outcome with
  | .ok a, .ok b => .ok (a, b)
  | .error f, .ok _ => .error f
  | .ok _, .error g => .error g
  | .error f, .error g => .error (if isFoundFirst first second then f else g)

theorem both_eq_ok_iff {first : Reply α} {second : Reply β} {a : α} {b : β} :
    both first second = .ok (a, b) ↔ first.outcome = .ok a ∧ second.outcome = .ok b := by
  unfold both
  cases first.outcome <;> cases second.outcome <;> simp

end Reply

/-- A proof that must not be absent. -/
def ProofAnswer.orUnavailable (block : UInt64) : Option ProofAnswer → Except Failure ProofAnswer
  | some p => .ok p
  | none => .error (.proofUnavailable block .nullProof)

/-- The state proof in an answer about a contract, which must have a node. -/
def ProofAnswer.toNonemptyProof (contract : Address) (block : UInt64) (p : ProofAnswer) :
    Except Failure StateProof := do
  let proof ← p.toStateProof block
  if proof.accountProof.isEmpty then
    throw (.proofUnavailable block (.emptyAccountProof contract))
  return proof

/-- The header in an answer about a block, which must be that block. -/
def BlockAnswer.toHeaderOf (block : UInt64) : Option BlockAnswer → Except Failure Header
  | none => .error (.blockNotFound block)
  | some b => do
      let header ← b.toHeader
      if header.number ≠ block then
        throw (.encodingMismatch "number" (.number block header.number))
      return header

namespace Endpoint

/-- Asks for the proof of one slot. -/
def fetchProof (e : Endpoint) (contract : Address) (slot : Hash) (block : UInt64) :
    Reply StateProof :=
  (e.proof ⟨contract, [slot], block⟩).andThen (ProofAnswer.toNonemptyProof contract block)

/-- Asks for the header of a block. -/
def fetchHeader (e : Endpoint) (block : UInt64) : Reply Header :=
  (e.block block).andThen (BlockAnswer.toHeaderOf block)

theorem fetchHeader_of_answer {e : Endpoint} {block : UInt64} {b : BlockAnswer}
    (h : (e.block block).outcome = .ok (some b)) :
    (e.fetchHeader block).outcome = BlockAnswer.toHeaderOf block (some b) := by
  rw [fetchHeader, Reply.andThen, h]
  rfl

end Endpoint
end UnlockProof

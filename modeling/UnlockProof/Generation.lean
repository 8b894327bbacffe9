import UnlockProof.Config
import UnlockProof.Endpoint
import UnlockProof.Record.Assembly
import UnlockProof.Transfer

/-!
# Generation of proofs

A generator is set up for one contract. For a transfer and a block it derives the slot that marks
the transfer, asks an endpoint for the proof of that slot and for the header, and puts the record
together. Whether the slot holds anything is left to the verifier.
-/

namespace UnlockProof

/-- What a generator has to know. -/
structure Generator where
  contract : Address
  mappingSlot : U256
  checksHash : Bool
deriving DecidableEq

/-- The generator of a configuration. -/
def Config.generator (c : Config) : Generator := ⟨c.contract, c.mappingSlot, c.checksHash⟩

namespace Generator

/-- The question that is asked about a transfer. -/
def query (g : Generator) (key : LogicalKey) (block : UInt64) : ProofQuery :=
  ⟨g.contract, [key.slot g.mappingSlot], block⟩

/-- Checks a header against its reported hash, if the generator does so. -/
def checkHeader (g : Generator) (header : Header) : Except Failure Unit :=
  if g.checksHash then header.checkReportedHash.map fun _ => () else .ok ()

/-- The record that proves the state of a transfer's slot at a block. -/
def build (g : Generator) (e : Endpoint) (key : LogicalKey) (block : UInt64) :
    Except Failure Record := do
  let (proof, header) ←
    Reply.both (e.fetchProof g.contract (key.slot g.mappingSlot) block) (e.fetchHeader block)
  g.checkHeader header
  Record.build header proof

/-- The transport text of the record that proves the state of a transfer's slot at a block. -/
def generate (g : Generator) (e : Endpoint) (key : LogicalKey) (block : UInt64) :
    Except Failure String :=
  g.build e key block >>= Record.serialize

end Generator
end UnlockProof

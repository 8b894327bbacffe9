import UnlockProof.Document
import UnlockProof.Generation
import UnlockProof.Http.Exchange
import UnlockProof.Proofs.Account
import UnlockProof.Proofs.Header.Encoding
import UnlockProof.Proofs.Trie.Descent
import UnlockProof.Transfer
import UnlockProof.Verification
import UnlockProof.Proofs.Trie.Compact
import UnlockProof.Proofs.Trie.Tree
import UnlockProof.Proofs.Verification.Binding
import UnlockProof.Proofs.Verification.Tries
import UnlockProof.Proofs.Base64
import UnlockProof.Proofs.Record.Transport
import UnlockProof.Proofs.Record.Assembly
import UnlockProof.Proofs.Generation
import UnlockProof.Proofs.Hex
import UnlockProof.Proofs.Answer
import UnlockProof.Proofs.Rlp.Canonical
import UnlockProof.Proofs.Verification.Assembly
import UnlockProof.Proofs.Numeral
import UnlockProof.Proofs.Quantity
import UnlockProof.Proofs.Field.Numbers
import UnlockProof.Proofs.Slot
import UnlockProof.Proofs.Trie.Pinning
import UnlockProof.Proofs.Verification.Parts
import UnlockProof.Proofs.Failure
import UnlockProof.Proofs.Generation.Failures
import UnlockProof.Proofs.Account.Stored
import UnlockProof.Proofs.Header.Tail
import UnlockProof.Proofs.Record.Refusal
import UnlockProof.Proofs.Record.Shape
import UnlockProof.Proofs.Answer.Entries
import UnlockProof.Proofs.Generation.HashCheck
import UnlockProof.Proofs.Record.Extent
import UnlockProof.Proofs.Hex.Reading
import UnlockProof.Proofs.Answer.Mismatch
import UnlockProof.Proofs.Json.Members
import UnlockProof.Proofs.Answer.Members
import UnlockProof.Proofs.Envelope
import UnlockProof.Proofs.Http.Exchange
import UnlockProof.Proofs.Text.LowerCase
import UnlockProof.Proofs.Envelope.Classification
import UnlockProof.Proofs.Envelope.BlockTag
import UnlockProof.Proofs.Transfer
import UnlockProof.Proofs.Trie.Cursor

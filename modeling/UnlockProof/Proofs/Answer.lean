import UnlockProof.Answer
import UnlockProof.Proofs.Field
import UnlockProof.Proofs.Header.Encoding
import UnlockProof.Record.Assembly

/-!
# Answers in any printing style

An answer renders a header or a state proof if each of its fields does, each in a style of its
own. It is brought back into this typed form. Every header and every state proof has such an
answer.
-/

namespace UnlockProof

theorem Quantity.renders_natural (v : UInt64) :
    (Quantity.number (.natural v)).Renders v.toNat := .number rfl

theorem Quantity.renders_text (bs : Bytes) :
    (Quantity.text (Hex.text bs)).Renders (ofBigEndian bs) :=
  .marked (Hex.renders_text bs) (Hex.value_digitsOf bs)

theorem Quantity.renders_text_bytesOfU256 (v : U256) :
    (Quantity.text (Hex.text (bytesOfU256 v).toList)).Renders v.toNat := by
  rw [← ofBigEndian_bytesOfU256]
  exact renders_text (bytesOfU256 v).toList

namespace BlockAnswer

variable {h : Header} {b : BlockAnswer}

/-- A block that says what a header is, each field in a style of its own. -/
structure Renders (h : Header) (b : BlockAnswer) : Prop where
  hash : Option.Rel (fun f s => Hex.Renders f.toList s) h.reportedHash b.hash
  parentHash : Hex.Renders h.parentHash.toList b.parentHash
  sha3Uncles : Hex.Renders h.unclesHash.toList b.sha3Uncles
  miner : Hex.Renders h.beneficiary.toList b.miner
  stateRoot : Hex.Renders h.stateRoot.toList b.stateRoot
  transactionsRoot : Hex.Renders h.transactionsRoot.toList b.transactionsRoot
  receiptsRoot : Hex.Renders h.receiptsRoot.toList b.receiptsRoot
  logsBloom : Hex.Renders h.logsBloom.toList b.logsBloom
  difficulty : Quantity.RendersOrZero h.difficulty.toNat b.difficulty
  number : b.number.Renders h.number.toNat
  gasLimit : b.gasLimit.Renders h.gasLimit.toNat
  gasUsed : b.gasUsed.Renders h.gasUsed.toNat
  timestamp : b.timestamp.Renders h.timestamp.toNat
  extraData : Hex.Renders h.extraData b.extraData
  mixHash : Hex.Renders h.mixHash.toList b.mixHash
  nonce : b.nonce.Renders (ofBigEndian h.nonce.toList)
  baseFeePerGas : Option.Rel (fun v q => q.Renders v.toNat) h.baseFeePerGas b.baseFeePerGas
  withdrawalsRoot :
    Option.Rel (fun f s => Hex.Renders f.toList s) h.withdrawalsRoot b.withdrawalsRoot
  blobGasUsed : Option.Rel (fun v q => q.Renders v.toNat) h.blobGasUsed b.blobGasUsed
  excessBlobGas : Option.Rel (fun v q => q.Renders v.toNat) h.excessBlobGas b.excessBlobGas
  parentBeaconBlockRoot :
    Option.Rel (fun f s => Hex.Renders f.toList s) h.parentBeaconBlockRoot b.parentBeaconBlockRoot
  requestsHash : Option.Rel (fun f s => Hex.Renders f.toList s) h.requestsHash b.requestsHash

/-- A header is read from every block that renders it. -/
theorem toHeader_of_renders (hb : b.Renders h) : b.toHeader = .ok h := by
  simp only [toHeader, Field.hash, Field.address, Field.bloom, Field.bytes,
    Field.fixed_of_renders hb.parentHash, Field.fixed_of_renders hb.sha3Uncles,
    Field.fixed_of_renders hb.miner, Field.fixed_of_renders hb.stateRoot,
    Field.fixed_of_renders hb.transactionsRoot, Field.fixed_of_renders hb.receiptsRoot,
    Field.fixed_of_renders hb.logsBloom, Field.integerOrZero_of_renders hb.difficulty,
    Field.integer64_of_renders hb.number, Field.integer64_of_renders hb.gasLimit,
    Field.integer64_of_renders hb.gasUsed, Field.integer64_of_renders hb.timestamp,
    Field.decodeHex_of_renders hb.extraData, Field.fixed_of_renders hb.mixHash,
    Field.nonce_of_renders hb.nonce, Field.optionalInteger_of_renders hb.baseFeePerGas,
    Field.optionalHash_of_renders hb.withdrawalsRoot,
    Field.optionalInteger_of_renders hb.blobGasUsed,
    Field.optionalInteger_of_renders hb.excessBlobGas,
    Field.optionalHash_of_renders hb.parentBeaconBlockRoot,
    Field.optionalHash_of_renders hb.requestsHash, Field.optionalHash_of_renders hb.hash,
    bind, Except.bind]
  rfl

/-- An answer that says what a header is. -/
def ofHeader (h : Header) : BlockAnswer where
  hash := h.reportedHash.map fun f => Hex.text f.toList
  parentHash := Hex.text h.parentHash.toList
  sha3Uncles := Hex.text h.unclesHash.toList
  miner := Hex.text h.beneficiary.toList
  stateRoot := Hex.text h.stateRoot.toList
  transactionsRoot := Hex.text h.transactionsRoot.toList
  receiptsRoot := Hex.text h.receiptsRoot.toList
  logsBloom := Hex.text h.logsBloom.toList
  difficulty := some (.text (Hex.text (bytesOfU256 h.difficulty).toList))
  number := .number (.natural h.number)
  gasLimit := .number (.natural h.gasLimit)
  gasUsed := .number (.natural h.gasUsed)
  timestamp := .number (.natural h.timestamp)
  extraData := Hex.text h.extraData
  mixHash := Hex.text h.mixHash.toList
  nonce := .text (Hex.text h.nonce.toList)
  baseFeePerGas := h.baseFeePerGas.map fun v => .number (.natural v)
  withdrawalsRoot := h.withdrawalsRoot.map fun f => Hex.text f.toList
  blobGasUsed := h.blobGasUsed.map fun v => .number (.natural v)
  excessBlobGas := h.excessBlobGas.map fun v => .number (.natural v)
  parentBeaconBlockRoot := h.parentBeaconBlockRoot.map fun f => Hex.text f.toList
  requestsHash := h.requestsHash.map fun f => Hex.text f.toList

theorem renders_ofHeader (h : Header) : (ofHeader h).Renders h := by
  have hnumber (v : Option UInt64) : Option.Rel (fun v q => Quantity.Renders v.toNat q) v
      (v.map fun v => .number (.natural v)) := by
    cases v with
    | none => exact .none
    | some v => exact .some (Quantity.renders_natural v)
  have hhash (f : Option Hash) : Option.Rel (fun f s => Hex.Renders f.toList s) f
      (f.map fun f => Hex.text f.toList) := by
    cases f with
    | none => exact .none
    | some f => exact .some (Hex.renders_text f.toList)
  exact {
    hash := hhash _
    parentHash := Hex.renders_text _
    sha3Uncles := Hex.renders_text _
    miner := Hex.renders_text _
    stateRoot := Hex.renders_text _
    transactionsRoot := Hex.renders_text _
    receiptsRoot := Hex.renders_text _
    logsBloom := Hex.renders_text _
    difficulty := Quantity.renders_text_bytesOfU256 _
    number := Quantity.renders_natural _
    gasLimit := Quantity.renders_natural _
    gasUsed := Quantity.renders_natural _
    timestamp := Quantity.renders_natural _
    extraData := Hex.renders_text _
    mixHash := Hex.renders_text _
    nonce := Quantity.renders_text _
    baseFeePerGas := hnumber _
    withdrawalsRoot := hhash _
    blobGasUsed := hnumber _
    excessBlobGas := hnumber _
    parentBeaconBlockRoot := hhash _
    requestsHash := hhash _ }

/-- A header is read back from the answer that says what it is. -/
theorem toHeader_ofHeader (h : Header) : (ofHeader h).toHeader = .ok h :=
  toHeader_of_renders (renders_ofHeader h)

/-- Whatever style a block is printed in, it gives the header that it renders, with the encoding and
the hash of this header. -/
theorem same_header_of_renders (hb : b.Renders h) :
    b.toHeader = .ok h ∧ b.toHeader >>= Header.encodeOrFail = h.encodeOrFail ∧
      b.toHeader >>= Header.hashOrFail = h.hashOrFail := by
  rw [toHeader_of_renders hb]
  exact ⟨rfl, rfl, rfl⟩

/-- A header after the end of mining, when the difficulty and the nonce are zero. -/
def sampleHeader : Header :=
  { Header.genesis with
    difficulty := 0, number := 17034870, gasLimit := 30000000, gasUsed := 255
    extraData := [0xab, 0xcd], nonce := bytesOfUInt64 0, baseFeePerGas := some 7 }

/-- A block that says what this header is, with as many styles as it has numbers. -/
def sample : BlockAnswer :=
  { ofHeader sampleHeader with
    difficulty := none
    number := .text " 17034870\n"
    gasLimit := .text "0X1C9c380"
    gasUsed := .text "00255"
    extraData := "\t0XaBCd "
    nonce := .text "0x"
    baseFeePerGas := some (.text "0x0007") }

theorem renders_sample : sample.Renders sampleHeader := by
  have hnumber : Numeral.IsPlain [1, 7, 0, 3, 4, 8, 7, 0] " 17034870\n" := by decide
  have hgasLimit : Numeral.IsMarked [1, 12, 9, 12, 3, 8, 0] "0X1C9c380" := by decide
  have hgasUsed : Numeral.IsPlain [0, 0, 2, 5, 5] "00255" := by decide
  have hextraData : Numeral.IsMarked [10, 11, 12, 13] "\t0XaBCd " := by decide
  have hnonce : Numeral.IsMarked [] "0x" := by decide
  have hbaseFee : Numeral.IsMarked [0, 0, 0, 7] "0x0007" := by decide
  exact { renders_ofHeader sampleHeader with
    difficulty := rfl
    number := .plain (List.cons_ne_nil _ _) hnumber rfl
    gasLimit := .marked hgasLimit rfl
    gasUsed := .plain (List.cons_ne_nil _ _) hgasUsed rfl
    extraData := hextraData
    nonce := .marked hnonce rfl
    baseFeePerGas := .some (.marked hbaseFee rfl) }

theorem same_header_of_renders_sample :
    sample.toHeader = .ok sampleHeader ∧
      sample.toHeader >>= Header.encodeOrFail = sampleHeader.encodeOrFail ∧
      sample.toHeader >>= Header.hashOrFail = sampleHeader.hashOrFail :=
  same_header_of_renders renders_sample

end BlockAnswer

namespace ProofAnswer

variable {p : StateProof} {a : ProofAnswer}

theorem nodesFrom_of_forall₂ {nodes : List Bytes} {texts : List String}
    (h : List.Forall₂ Hex.Renders nodes texts) (field : String) (place : Nat) :
    nodesFrom field place texts = .ok nodes := by
  induction h generalizing place with
  | nil => rfl
  | cons hnode _ ih =>
      rw [nodesFrom, Field.bytes, Field.decodeHex_of_renders hnode]
      simp only [bind, Except.bind, ih]
      rfl

/-- The entry of a slot that says what the key, the value and the nodes of a state proof are. -/
structure EntryRenders (p : StateProof) (e : StorageEntry) : Prop where
  key : (Quantity.text e.key).Renders (ofBigEndian p.storageKey.toList)
  value : e.value.Renders p.storageValue.toNat
  proof : List.Forall₂ Hex.Renders p.storageProof e.proof

/-- An answer that says what a state proof is, each field in a style of its own. -/
structure Renders (p : StateProof) (a : ProofAnswer) : Prop where
  address : Hex.Renders p.address.toList a.address
  accountProof : List.Forall₂ Hex.Renders p.accountProof a.accountProof
  balance : a.balance.Renders p.account.balance.toNat
  codeHash : Hex.Renders p.account.codeHash.toList a.codeHash
  nonce : a.nonce.Renders p.account.nonce.toNat
  storageHash : Hex.Renders p.account.storageRoot.toList a.storageHash
  storageProof : ∃ e later, a.storageProof = e :: later ∧ EntryRenders p e

theorem storageKey_of_renders {key : Hash} {s : String}
    (h : (Quantity.text s).Renders (ofBigEndian key.toList)) : storageKey s = .ok key := by
  have hvalue : ofBigEndian key.toList < U256.size :=
    Nat.lt_of_lt_of_eq (ofBigEndian_lt_of_length_le (Nat.le_of_eq key.length_toList)) (by decide)
  rw [storageKey, Field.integer, Field.quantity_of_renders h hvalue]
  simp only [bind, Except.bind, bytesOfU256_ofBigEndian]
  rfl

/-- A state proof is read from every answer that renders it. -/
theorem toStateProof_of_renders (ha : a.Renders p) (block : UInt64) :
    a.toStateProof block = .ok p := by
  obtain ⟨e, later, hentry, he⟩ := ha.storageProof
  simp only [toStateProof, hentry, Field.hash, Field.address, Field.integer,
    Field.fixed_of_renders ha.address, nodesFrom_of_forall₂ ha.accountProof,
    Field.integer64_of_renders ha.nonce, Field.quantity_of_renders_toNat ha.balance,
    Field.fixed_of_renders ha.storageHash, Field.fixed_of_renders ha.codeHash,
    storageKey_of_renders he.key, Field.quantity_of_renders_toNat he.value,
    nodesFrom_of_forall₂ he.proof, bind, Except.bind]
  rfl

/-- An answer that says what a state proof is. -/
def ofStateProof (p : StateProof) : ProofAnswer where
  address := Hex.text p.address.toList
  accountProof := p.accountProof.map Hex.text
  balance := .text (Hex.text (bytesOfU256 p.account.balance).toList)
  codeHash := Hex.text p.account.codeHash.toList
  nonce := .number (.natural p.account.nonce)
  storageHash := Hex.text p.account.storageRoot.toList
  storageProof := [{
    key := Hex.text p.storageKey.toList
    value := .text (Hex.text (bytesOfU256 p.storageValue).toList)
    proof := p.storageProof.map Hex.text }]

theorem renders_ofStateProof (p : StateProof) : (ofStateProof p).Renders p := by
  have hnodes (nodes : List Bytes) : List.Forall₂ Hex.Renders nodes (nodes.map Hex.text) := by
    rw [List.forall₂_map_right_iff, List.forall₂_same]
    exact fun node _ => Hex.renders_text node
  exact {
    address := Hex.renders_text _
    accountProof := hnodes _
    balance := Quantity.renders_text_bytesOfU256 _
    codeHash := Hex.renders_text _
    nonce := Quantity.renders_natural _
    storageHash := Hex.renders_text _
    storageProof := ⟨_, [], rfl, {
      key := Quantity.renders_text _
      value := Quantity.renders_text_bytesOfU256 _
      proof := hnodes _ }⟩ }

/-- A state proof is read back from the answer that says what it is. -/
theorem toStateProof_ofStateProof (p : StateProof) (block : UInt64) :
    (ofStateProof p).toStateProof block = .ok p :=
  toStateProof_of_renders (renders_ofStateProof p) block

end ProofAnswer
end UnlockProof

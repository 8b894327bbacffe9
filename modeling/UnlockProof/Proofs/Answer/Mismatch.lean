import UnlockProof.Proofs.Answer
import UnlockProof.Proofs.Failure
import UnlockProof.Proofs.Field.Numbers
import UnlockProof.Proofs.Hex.Reading

/-!
# Blocks with fields that cannot be read

A block has a header exactly if each of its fields, taken alone, has its form. Otherwise the failure
is the one of the first field in the order of the header, the reported hash last, that has not its
form, and it names this field as the answer does. What stands in the fields behind does not matter.

## Implementation notes

The form of a field is said without its reader: a text of so many bytes, or a quantity that stands
for a number below a bound. Of the fields that may be absent the absent ones have their form.
-/

namespace UnlockProof
open Outcome

/-- What is printed in a field, by the form that the field must have. -/
inductive Printed where
  | hash (s : String)
  | optionalHash (s : Option String)
  | address (s : String)
  | bloom (s : String)
  | bytes (s : String)
  | integer64 (q : Quantity)
  | integerOrZero (q : Option Quantity)
  | optionalInteger (q : Option Quantity)
  | nonce (q : Quantity)

namespace Printed

variable {field : String} {f : Failure}

/-- Reads what is printed in a field by the reader for its form. -/
def check (field : String) : Printed → Except Failure Unit
  | hash s => asCheck (Field.hash field s)
  | optionalHash s => asCheck (Field.optionalHash field s)
  | address s => asCheck (Field.address field s)
  | bloom s => asCheck (Field.bloom field s)
  | bytes s => asCheck (Field.bytes field s)
  | integer64 q => asCheck (Field.integer64 field q)
  | integerOrZero q => asCheck (Field.integerOrZero field q)
  | optionalInteger q => asCheck (Field.optionalInteger field q)
  | nonce q => asCheck (Field.nonce field q)

/-- Says that what is printed in a field has the form of the field. -/
def HasForm : Printed → Prop
  | hash s => Hex.IsText 32 s
  | optionalHash s => ∀ t ∈ s, Hex.IsText 32 t
  | address s => Hex.IsText 20 s
  | bloom s => Hex.IsText 256 s
  | bytes s => ∃ n, Hex.IsText n s
  | integer64 q => q.IsBelow UInt64.size
  | integerOrZero q => ∀ r ∈ q, r.IsBelow U256.size
  | optionalInteger q => ∀ r ∈ q, r.IsBelow UInt64.size
  | nonce q => q.IsBelow UInt64.size

/-- What is printed in a field as a value. -/
def toValue : Printed → Json.Value
  | hash s | address s | bloom s | bytes s => .string s
  | optionalHash s => textOrNull s
  | integer64 q | nonce q => q.toValue
  | integerOrZero q | optionalInteger q => quantityOrNull q

end Printed

namespace Field

variable {form : Form} {field s : String} {q : Quantity} {n : Nat}

theorem decodeHex_eq_ok_iff {bs : Bytes} :
    decodeHex field form s = .ok bs ↔ Hex.Renders bs s := by
  constructor
  · intro h
    rw [decodeHex] at h
    split at h
    case h_1 => cases h
    case h_2 digits hdigits =>
      split at h
      case h_1 => cases h
      case h_2 bytes hbytes =>
        obtain rfl := Except.ok.inj h
        exact Numeral.isMarked_iff.mpr ⟨digits, hdigits, Hex.decodeChars_eq_ok_iff.mp hbytes⟩
  · exact decodeHex_of_renders

theorem fixed_eq_ok_iff {f : FixedBytes n} :
    fixed n form field s = .ok f ↔ Hex.Renders f.toList s := by
  constructor
  · intro h
    rw [fixed] at h
    split at h
    case h_1 => cases h
    case h_2 bs hbs =>
      split at h
      case h_1 g hg =>
        obtain rfl := Except.ok.inj h
        rw [← FixedBytes.ofList?_eq_some_iff.mp hg]
        exact decodeHex_eq_ok_iff.mp hbs
      case h_2 => cases h
  · exact fixed_of_renders

theorem exists_fixed_iff : (∃ f, fixed n form field s = .ok f) ↔ Hex.IsText n s := by
  rw [Hex.isText_iff]
  constructor
  · rintro ⟨f, hf⟩
    exact ⟨f.toList, f.length_toList, fixed_eq_ok_iff.mp hf⟩
  · rintro ⟨bs, hlen, hbs⟩
    exact ⟨⟨bs, hlen⟩, fixed_eq_ok_iff.mpr hbs⟩

theorem exists_bytes_iff : (∃ bs, bytes field s = .ok bs) ↔ ∃ n, Hex.IsText n s := by
  simp only [Hex.isText_iff, bytes, decodeHex_eq_ok_iff]
  constructor
  · rintro ⟨bs, hbs⟩
    exact ⟨_, bs, rfl, hbs⟩
  · rintro ⟨n, bs, -, hbs⟩
    exact ⟨bs, hbs⟩

/-- What has no value to read has its form. -/
theorem exists_optionalHash_iff {o : Option String} :
    (∃ f, optionalHash field o = .ok f) ↔ ∀ t ∈ o, Hex.IsText 32 t := by
  cases o with
  | none => simp [optionalHash]
  | some t =>
      simp only [optionalHash, map_eq_ok_iff, Option.mem_some_iff, forall_eq']
      rw [← @exists_fixed_iff .hash field]
      constructor
      · rintro ⟨-, f, hf, -⟩
        exact ⟨f, hf⟩
      · rintro ⟨f, hf⟩
        exact ⟨_, f, hf, rfl⟩

theorem exists_quantity_iff :
    (∃ v, quantity form field q = .ok v) ↔ q.IsBelow U256.size := by
  have hlt (v : U256) : v.toNat < U256.size := v.isLt
  simp only [Quantity.isBelow_iff (Nat.le_refl _), quantity_eq_ok_iff, hlt, and_true]

/-- A number is narrowed exactly if it has at most 64 bits. -/
theorem exists_narrow_iff {α : Type} {g : UInt64 → α} :
    (∃ a, (do return g (← narrow form field (← quantity form field q))) = .ok a) ↔
      q.IsBelow UInt64.size := by
  rw [Quantity.isBelow_iff (by decide)]
  simp only [bind_eq_ok_iff, pure_eq_ok_iff, quantity_eq_ok_iff, narrow_eq_ok_iff]
  constructor
  · rintro ⟨-, v, hv, w, hw, -⟩
    exact ⟨v, hv, hw ▸ w.toNat_lt⟩
  · rintro ⟨v, hv, hlt⟩
    exact ⟨_, v, hv, UInt64.ofNat v.toNat, (UInt64.toNat_ofNat_of_lt' hlt).symm, rfl⟩

theorem exists_integer64_iff :
    (∃ w, integer64 field q = .ok w) ↔ q.IsBelow UInt64.size := by
  rw [← @exists_narrow_iff .integer field q UInt64 id]
  simp only [integer64, bind_eq_ok_iff, pure_eq_ok_iff, id, exists_eq_right]

theorem exists_optionalInteger_iff {o : Option Quantity} :
    (∃ w, optionalInteger field o = .ok w) ↔ ∀ r ∈ o, r.IsBelow UInt64.size := by
  cases o with
  | none => simp [optionalInteger]
  | some r =>
      simp only [Option.mem_some_iff, forall_eq']
      exact exists_narrow_iff

theorem exists_integerOrZero_iff {o : Option Quantity} :
    (∃ v, integerOrZero field o = .ok v) ↔ ∀ r ∈ o, r.IsBelow U256.size := by
  cases o with
  | none => simp [integerOrZero]
  | some r =>
      simp only [Option.mem_some_iff, forall_eq']
      exact exists_quantity_iff

theorem exists_nonce_iff : (∃ f, nonce field q = .ok f) ↔ q.IsBelow UInt64.size :=
  exists_narrow_iff

end Field

namespace Printed

/-- The reader for the form of a field accepts what has this form. -/
theorem check_eq_ok_iff (p : Printed) : p.check field = .ok () ↔ p.HasForm := by
  cases p with
  | hash s => exact asCheck_eq_ok_iff.trans Field.exists_fixed_iff
  | optionalHash s => exact asCheck_eq_ok_iff.trans Field.exists_optionalHash_iff
  | address s => exact asCheck_eq_ok_iff.trans Field.exists_fixed_iff
  | bloom s => exact asCheck_eq_ok_iff.trans Field.exists_fixed_iff
  | bytes s => exact asCheck_eq_ok_iff.trans Field.exists_bytes_iff
  | integer64 q => exact asCheck_eq_ok_iff.trans Field.exists_integer64_iff
  | integerOrZero q => exact asCheck_eq_ok_iff.trans Field.exists_integerOrZero_iff
  | optionalInteger q => exact asCheck_eq_ok_iff.trans Field.exists_optionalInteger_iff
  | nonce q => exact asCheck_eq_ok_iff.trans Field.exists_nonce_iff

/-- The reader for the form of a field fails by naming this field. -/
theorem exists_mismatch_of_check {p : Printed} (h : p.check field = .error f) :
    ∃ m, f = .encodingMismatch field m := by
  have hnamed : FailsOnly (fun f => ∃ m, f = .encodingMismatch field m) (p.check field) := by
    have hp (m : Mismatch) : ∃ m', Failure.encodingMismatch field m = .encodingMismatch field m' :=
      ⟨m, rfl⟩
    cases p with
    | hash s => exact failsOnly_map_iff.mpr (Field.failsOnly_hash hp)
    | optionalHash s => exact failsOnly_map_iff.mpr (Field.failsOnly_optionalHash hp)
    | address s => exact failsOnly_map_iff.mpr (Field.failsOnly_address hp)
    | bloom s => exact failsOnly_map_iff.mpr (Field.failsOnly_bloom hp)
    | bytes s => exact failsOnly_map_iff.mpr (Field.failsOnly_bytes hp)
    | integer64 q => exact failsOnly_map_iff.mpr (Field.failsOnly_integer64 hp)
    | integerOrZero q => exact failsOnly_map_iff.mpr (Field.failsOnly_integerOrZero hp)
    | optionalInteger q => exact failsOnly_map_iff.mpr (Field.failsOnly_optionalInteger hp)
    | nonce q => exact failsOnly_map_iff.mpr (Field.failsOnly_nonce hp)
  exact hnamed f h

end Printed

namespace BlockAnswer

variable {b : BlockAnswer} {f : Failure}

/-- The fields of a block by their names, in the order of the header and the reported hash last. -/
def fields (b : BlockAnswer) : List (String × Printed) :=
  [("parentHash", .hash b.parentHash), ("sha3Uncles", .hash b.sha3Uncles),
    ("miner", .address b.miner), ("stateRoot", .hash b.stateRoot),
    ("transactionsRoot", .hash b.transactionsRoot), ("receiptsRoot", .hash b.receiptsRoot),
    ("logsBloom", .bloom b.logsBloom), ("difficulty", .integerOrZero b.difficulty),
    ("number", .integer64 b.number), ("gasLimit", .integer64 b.gasLimit),
    ("gasUsed", .integer64 b.gasUsed), ("timestamp", .integer64 b.timestamp),
    ("extraData", .bytes b.extraData), ("mixHash", .hash b.mixHash), ("nonce", .nonce b.nonce),
    ("baseFeePerGas", .optionalInteger b.baseFeePerGas),
    ("withdrawalsRoot", .optionalHash b.withdrawalsRoot),
    ("blobGasUsed", .optionalInteger b.blobGasUsed),
    ("excessBlobGas", .optionalInteger b.excessBlobGas),
    ("parentBeaconBlockRoot", .optionalHash b.parentBeaconBlockRoot),
    ("requestsHash", .optionalHash b.requestsHash), ("hash", .optionalHash b.hash)]

/-- The fields under their names as they are written, with the reported hash first. -/
def printedMembers (b : BlockAnswer) : List (String × Json.Value) :=
  (b.fields.map fun e => (e.1, e.2.toValue)).rotate 21

theorem toValue_eq_ofMembers (b : BlockAnswer) : b.toValue = .ofMembers b.printedMembers := rfl

/-- To read the header of a block is to check its fields one after the other. -/
theorem asCheck_toHeader (b : BlockAnswer) :
    asCheck b.toHeader = b.fields.forM fun e => e.2.check e.1 := by
  rw [toHeader, fields]
  simp only [List.forM, Printed.check]
  -- One step for each field; what a field is read as does not matter to the checks behind it.
  iterate 22 refine asCheck_bind fun _ => ?_
  rfl

/-- Says that a failure is that of the first field without its form, all fields in front of it
having theirs, and names it. -/
def FirstMismatch (fields : List (String × Printed)) (f : Failure) : Prop :=
  ∃ before name p after m, fields = before ++ (name, p) :: after ∧ (∀ e ∈ before, e.2.HasForm) ∧
    ¬ p.HasForm ∧ p.check name = .error f ∧ f = .encodingMismatch name m

theorem exists_toHeader_iff :
    (∃ h, b.toHeader = .ok h) ↔ ∀ e ∈ b.fields, e.2.HasForm := by
  rw [← asCheck_eq_ok_iff, asCheck_toHeader, forM_eq_ok_iff]
  simp only [Printed.check_eq_ok_iff]

theorem toHeader_eq_error_iff : b.toHeader = .error f ↔ FirstMismatch b.fields f := by
  rw [← asCheck_eq_error_iff, asCheck_toHeader, forM_eq_error_iff]
  simp only [Printed.check_eq_ok_iff]
  constructor
  · rintro ⟨before, ⟨name, p⟩, after, hfields, hbefore, hfails⟩
    obtain ⟨m, hm⟩ := Printed.exists_mismatch_of_check hfails
    refine ⟨before, name, p, after, m, hfields, hbefore, ?_, hfails, hm⟩
    intro hform
    rw [(Printed.check_eq_ok_iff p).mpr hform] at hfails
    cases hfails
  · rintro ⟨before, name, p, after, -, hfields, hbefore, -, hfails, -⟩
    exact ⟨before, (name, p), after, hfields, hbefore, hfails⟩

/-- A block is read or blames its first bad field. The fields are those under whose names the block
is written. Each of them, taken alone, is accepted by the reader for its form exactly if it has this
form. The header is read if and only if all fields have theirs. Otherwise the failure is a mismatch
that names the first field in the order of the header, the reported hash last, that has not its
form; it is the failure of this field alone. -/
theorem toHeader_blames_first_field (b : BlockAnswer) :
    b.toValue = .ofMembers b.printedMembers ∧
      (∀ e ∈ b.fields, e.2.check e.1 = .ok () ↔ e.2.HasForm) ∧
      ((∃ h, b.toHeader = .ok h) ↔ ∀ e ∈ b.fields, e.2.HasForm) ∧
      ∀ f, b.toHeader = .error f ↔ FirstMismatch b.fields f := by
  refine ⟨toValue_eq_ofMembers b, ?_, exists_toHeader_iff, fun f => toHeader_eq_error_iff⟩
  intro e _
  exact Printed.check_eq_ok_iff e.2

/-- The sample block with three fields without form, the reported hash among them. -/
def faultySample : BlockAnswer :=
  { sample with hash := some "", gasLimit := .text "0xzz", mixHash := "0x1" }

/-- The sample block is read, and of three bad fields the first one in the header is named. -/
theorem toHeader_blames_first_field_faultySample :
    (∃ h, sample.toHeader = .ok h) ∧ (∀ e ∈ sample.fields, e.2.HasForm) ∧
      faultySample.toHeader = .error (.encodingMismatch "gasLimit"
        (.form .integer (.quantity (.digits "0xzz" (.badDigit 0x7a))))) := by
  obtain ⟨-, -, hread, -⟩ := toHeader_blames_first_field sample
  obtain ⟨-, hchecks, -, hfails⟩ := toHeader_blames_first_field faultySample
  have hforms := hread.mp ⟨_, toHeader_of_renders renders_sample⟩
  have hbad : (Printed.integer64 (.text "0xzz")).check "gasLimit" = .error (.encodingMismatch
      "gasLimit" (.form .integer (.quantity (.digits "0xzz" (.badDigit 0x7a))))) := rfl
  have hmem : ("gasLimit", Printed.integer64 (.text "0xzz")) ∈ faultySample.fields := by
    simp [fields, faultySample]
  refine ⟨⟨_, toHeader_of_renders renders_sample⟩, hforms, (hfails _).mpr ?_⟩
  refine ⟨sample.fields.take 9, "gasLimit", _, _, _, rfl, ?_, ?_, hbad, rfl⟩
  · intro e he
    exact hforms e (List.mem_of_mem_take he)
  · intro hform
    rw [(hchecks _ hmem).mpr hform] at hbad
    cases hbad

end BlockAnswer
end UnlockProof

import UnlockProof.Field
import UnlockProof.Proofs.Hex
import UnlockProof.Proofs.Outcome
import UnlockProof.Proofs.Quantity

/-!
# Fields in any printing style

The reader of a field gives the value that the text or quantity renders, in whatever style it is
printed. No reader looks at more of the rendering than its digits.
-/

namespace UnlockProof.Field
open Outcome

variable {form : Form} {field s : String} {q : Quantity} {n : Nat}

theorem decodeHex_of_renders {bs : Bytes} (h : Hex.Renders bs s) :
    decodeHex field form s = .ok bs := by
  obtain ⟨digits, hdigits, hspells⟩ := Numeral.isMarked_iff.mp h
  rw [decodeHex, hdigits]
  simp only [Hex.decodeChars_of_spells hspells]

theorem fixed_of_renders {f : FixedBytes n} (h : Hex.Renders f.toList s) :
    fixed n form field s = .ok f := by
  rw [fixed, decodeHex_of_renders h]
  simp only [FixedBytes.ofList?_toList]

theorem optionalHash_of_renders {f : Option Hash} {s : Option String}
    (h : Option.Rel (fun f s => Hex.Renders f.toList s) f s) : optionalHash field s = .ok f := by
  cases h with
  | none => rfl
  | some h =>
      rw [optionalHash, hash, fixed_of_renders h]
      rfl

theorem quantity_of_renders (h : q.Renders n) (hn : n < U256.size) :
    quantity form field q = .ok (BitVec.ofNat 256 n) := by
  rw [quantity, Quantity.read_of_renders h hn]
  rfl

theorem quantity_of_renders_toNat {v : U256} (h : q.Renders v.toNat) :
    quantity form field q = .ok v := by
  rw [quantity_of_renders h v.isLt, BitVec.ofNat_toNat, BitVec.setWidth_eq]

theorem narrow_ofNat (h : n < UInt64.size) :
    narrow form field (BitVec.ofNat 256 n) = .ok (UInt64.ofNat n) := by
  have hvalue : (BitVec.ofNat 256 n).toNat = n := by
    rw [BitVec.toNat_ofNat]
    exact Nat.mod_eq_of_lt (Nat.lt_trans h (by decide))
  rw [narrow, hvalue, if_pos h]

theorem narrow_toNat (v : UInt64) : narrow form field (BitVec.ofNat 256 v.toNat) = .ok v := by
  rw [narrow_ofNat v.toNat_lt, UInt64.ofNat_toNat]

/-- What renders a number of 64 bits is read before it is narrowed. -/
theorem quantity_of_renders_uint64 {v : UInt64} (h : q.Renders v.toNat) :
    quantity form field q = .ok (BitVec.ofNat 256 v.toNat) :=
  quantity_of_renders h (Nat.lt_trans v.toNat_lt (by decide))

theorem integer64_of_renders {v : UInt64} (h : q.Renders v.toNat) : integer64 field q = .ok v :=
  bind_eq_ok_iff.mpr ⟨_, quantity_of_renders_uint64 h, narrow_toNat v⟩

theorem optionalInteger_of_renders {v : Option UInt64} {q : Option Quantity}
    (h : Option.Rel (fun v q => q.Renders v.toNat) v q) : optionalInteger field q = .ok v := by
  cases h with
  | none => rfl
  | @some v q h =>
      exact bind_eq_ok_iff.mpr
        ⟨_, quantity_of_renders_uint64 h, bind_eq_ok_iff.mpr ⟨_, narrow_toNat v, rfl⟩⟩

theorem integerOrZero_of_renders {v : U256} {q : Option Quantity}
    (h : Quantity.RendersOrZero v.toNat q) : integerOrZero field q = .ok v := by
  cases q with
  | none =>
      have hzero : 0 = v := BitVec.eq_of_toNat_eq h.symm
      rw [integerOrZero, hzero]
  | some q => exact quantity_of_renders_toNat h

/-- The bytes of a nonce are those of its number, with all leading zeros. -/
theorem nonce_of_renders {f : BlockNonce} (h : q.Renders (ofBigEndian f.toList)) :
    nonce field q = .ok f := by
  have hvalue : ofBigEndian f.toList < UInt64.size :=
    ofBigEndian_lt_of_length_le (Nat.le_of_eq f.length_toList)
  refine bind_eq_ok_iff.mpr ⟨_, quantity_of_renders h (Nat.lt_trans hvalue (by decide)), ?_⟩
  refine bind_eq_ok_iff.mpr ⟨_, narrow_ofNat hvalue, ?_⟩
  rw [bytesOfUInt64_ofBigEndian]
  rfl

end UnlockProof.Field

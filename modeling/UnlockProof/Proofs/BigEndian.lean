import Mathlib.Data.List.Induction
import UnlockProof.Bytes

/-!
# Numbers and their bytes

A number below `256 ^ width` and its bytes without leading zeros determine each other: writing
the number and reading it back gives the number, and every short enough byte string that does not
start with zero is what writing its number gives.
-/

namespace UnlockProof

theorem ofBigEndian_lt (bs : Bytes) : ofBigEndian bs < Nat.pow 256 bs.length := by
  induction bs using List.reverseRecOn with
  | nil => simp [ofBigEndian]
  | append_singleton bs b ih =>
      have hb := b.toNat_lt
      have step : Nat.pow 256 (bs.length + 1) = Nat.pow 256 bs.length * 256 := Nat.pow_succ _ _
      rw [ofBigEndian_append_singleton, List.length_append, List.length_singleton, step]
      omega

theorem ofBigEndian_lt_of_length_le {bs : Bytes} {width : Nat} (h : bs.length ≤ width) :
    ofBigEndian bs < Nat.pow 256 width :=
  Nat.lt_of_lt_of_le (ofBigEndian_lt bs) (Nat.pow_le_pow_right (by decide) h)

/-- Bytes are what their number is written as in their own width. -/
theorem bigEndian_ofBigEndian (bs : Bytes) : bigEndian bs.length (ofBigEndian bs) = bs := by
  induction bs using List.reverseRecOn with
  | nil => rfl
  | append_singleton bs b ih =>
      have hb := b.toNat_lt
      have hhigh : (ofBigEndian bs * 256 + b.toNat) / 256 = ofBigEndian bs := by omega
      have hlow : UInt8.ofNat (ofBigEndian bs * 256 + b.toNat) = b := by
        apply UInt8.toNat_inj.mp
        rw [UInt8.toNat_ofNat']
        omega
      rw [List.length_append, List.length_singleton, ofBigEndian_append_singleton, bigEndian,
        hhigh, hlow, ih]

theorem ofBigEndian_cons_zero (bs : Bytes) : ofBigEndian (0 :: bs) = ofBigEndian bs := by
  simp [ofBigEndian]

theorem ofBigEndian_replicate_append (k : Nat) (bs : Bytes) :
    ofBigEndian (List.replicate k 0 ++ bs) = ofBigEndian bs := by
  induction k with
  | zero => rfl
  | succ k ih => rw [List.replicate_succ, List.cons_append, ofBigEndian_cons_zero, ih]

theorem ofBigEndian_dropWhile (bs : Bytes) :
    ofBigEndian (bs.dropWhile (· == 0)) = ofBigEndian bs := by
  induction bs with
  | nil => rfl
  | cons b bs ih =>
      by_cases hb : b = 0
      · subst hb
        rw [ofBigEndian_cons_zero, ← ih]
        rfl
      · simp [hb]

theorem dropWhile_replicate_append (k : Nat) {bs : Bytes} (h : bs.head? ≠ some 0) :
    (List.replicate k (0 : UInt8) ++ bs).dropWhile (· == 0) = bs := by
  induction k with
  | zero =>
      cases bs with
      | nil => rfl
      | cons b bs =>
          have hb : b ≠ 0 := by simpa using h
          simp [hb]
  | succ k ih => simpa [List.replicate_succ, List.dropWhile_cons] using ih

theorem ofBigEndian_minimalBigEndian {width n : Nat} (h : n < Nat.pow 256 width) :
    ofBigEndian (minimalBigEndian width n) = n := by
  rw [minimalBigEndian, ofBigEndian_dropWhile, ofBigEndian_bigEndian, Nat.mod_eq_of_lt h]

theorem head?_minimalBigEndian_ne (width n : Nat) : (minimalBigEndian width n).head? ≠ some 0 := by
  intro h
  have := List.head?_dropWhile_not (· == 0) (bigEndian width n)
  rw [← minimalBigEndian, h] at this
  simp at this

theorem length_minimalBigEndian_le (width n : Nat) :
    (minimalBigEndian width n).length ≤ width := by
  have := (List.dropWhile_suffix (l := bigEndian width n) (· == 0)).length_le
  simpa [minimalBigEndian] using this

/-- A byte string that does not start with zero is what its number is written as. -/
theorem minimalBigEndian_ofBigEndian {width : Nat} {bs : Bytes} (hlen : bs.length ≤ width)
    (hhead : bs.head? ≠ some 0) : minimalBigEndian width (ofBigEndian bs) = bs := by
  let padded := List.replicate (width - bs.length) 0 ++ bs
  have hwidth : padded.length = width := by simp [padded]; omega
  have hvalue : ofBigEndian padded = ofBigEndian bs := ofBigEndian_replicate_append _ _
  have hwritten : bigEndian width (ofBigEndian bs) = padded := by
    rw [← hvalue, ← hwidth]
    exact bigEndian_ofBigEndian padded
  rw [minimalBigEndian, hwritten]
  exact dropWhile_replicate_append _ hhead

/-- Numbers that are written alike are equal. -/
theorem minimalBigEndian_inj {width m n : Nat} (hm : m < Nat.pow 256 width)
    (hn : n < Nat.pow 256 width) (h : minimalBigEndian width m = minimalBigEndian width n) :
    m = n := by
  rw [← ofBigEndian_minimalBigEndian hm, h, ofBigEndian_minimalBigEndian hn]

theorem minimalBigEndian_ne_nil {width n : Nat} (hn : n < Nat.pow 256 width) (hpos : 0 < n) :
    minimalBigEndian width n ≠ [] := by
  intro h
  have := ofBigEndian_minimalBigEndian hn
  rw [h] at this
  simp [ofBigEndian] at this
  omega

theorem toNat_lt_pow_eight (n : UInt64) : n.toNat < Nat.pow 256 8 := n.toNat_lt

theorem toNat_lt_pow_thirtyTwo (n : U256) : n.toNat < Nat.pow 256 32 :=
  Nat.lt_of_lt_of_eq n.isLt (by decide)

theorem toNat_ofNat_ofBigEndian {bs : Bytes} (h : bs.length ≤ 32) :
    (BitVec.ofNat 256 (ofBigEndian bs)).toNat = ofBigEndian bs := by
  rw [BitVec.toNat_ofNat]
  exact Nat.mod_eq_of_lt (ofBigEndian_lt_of_length_le h)

theorem ofBigEndian_bytesOfU256 (n : U256) : ofBigEndian (bytesOfU256 n).toList = n.toNat := by
  rw [bytesOfU256, ofBigEndian_bigEndian]
  exact Nat.mod_eq_of_lt (toNat_lt_pow_thirtyTwo n)

theorem bytesOfU256_ofBigEndian (f : FixedBytes 32) :
    bytesOfU256 (BitVec.ofNat 256 (ofBigEndian f.toList)) = f := by
  have hvalue := toNat_ofNat_ofBigEndian (Nat.le_of_eq f.length_toList)
  have hlist := bigEndian_ofBigEndian f.toList
  rw [f.length_toList] at hlist
  apply FixedBytes.ext
  simp only [bytesOfU256, hvalue]
  exact hlist

theorem bytesOfUInt64_ofBigEndian (f : FixedBytes 8) :
    bytesOfUInt64 (UInt64.ofNat (ofBigEndian f.toList)) = f := by
  have hvalue : ofBigEndian f.toList < UInt64.size :=
    ofBigEndian_lt_of_length_le (Nat.le_of_eq f.length_toList)
  have hlist := bigEndian_ofBigEndian f.toList
  rw [f.length_toList] at hlist
  apply FixedBytes.ext
  simp only [bytesOfUInt64, UInt64.toNat_ofNat_of_lt' hvalue]
  exact hlist

end UnlockProof

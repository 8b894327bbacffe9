import Mathlib.Algebra.GroupWithZero.Nat
import UnlockProof.Trie.Node

/-!
# Writing compact paths

A path is packed two nibbles to a byte, behind a first nibble that says whether the path ends in
a leaf and whether its length is odd. Reading a packed path gives the path and its kind back.
-/

namespace UnlockProof.Trie

/-- Nibbles are written as numerals. -/
instance neZero_sixteen : NeZero 16 := ⟨by decide⟩

/-- The byte with the given halves. -/
def byteOf (h l : Nibble) : UInt8 := UInt8.ofNat (16 * h.val + l.val)

/-- Two nibbles to a byte; a nibble without a partner is dropped. -/
def packed : List Nibble → Bytes
  | h :: l :: path => byteOf h l :: packed path
  | _ => []

/-- The first nibble of a compact path, for a path of even length. -/
def flag (isLeaf : Bool) : Nibble := if isLeaf then 2 else 0

/-- The compact form of a path. -/
def compact (isLeaf : Bool) (path : List Nibble) : Bytes :=
  if path.length % 2 = 1 then packed ((flag isLeaf + 1) :: path)
  else packed (flag isLeaf :: 0 :: path)

theorem toNat_byteOf (h l : Nibble) : (byteOf h l).toNat = 16 * h.val + l.val := by
  have hh := h.isLt
  have hl := l.isLt
  rw [byteOf, UInt8.toNat_ofNat']
  omega

@[simp] theorem high_byteOf (h l : Nibble) : high (byteOf h l) = h := by
  apply Fin.ext
  have hl := l.isLt
  simp only [high, toNat_byteOf]
  omega

@[simp] theorem low_byteOf (h l : Nibble) : low (byteOf h l) = l := by
  apply Fin.ext
  have hl := l.isLt
  simp only [low, toNat_byteOf]
  omega

@[simp] theorem nibbles_cons (b : UInt8) (bs : Bytes) :
    nibbles (b :: bs) = high b :: low b :: nibbles bs := rfl

/-- A path of even length is what its packed form spells. -/
theorem nibbles_packed (path : List Nibble) (heven : path.length % 2 = 0) :
    nibbles (packed path) = path := by
  induction path using packed.induct with
  | case1 h l path ih =>
      have htail : path.length % 2 = 0 := by
        simp only [List.length_cons] at heven
        omega
      rw [packed, nibbles_cons, high_byteOf, low_byteOf, ih htail]
  | case2 path hshort =>
      match path with
      | [] => rfl
      | [n] => simp at heven
      | h :: l :: path => exact absurd rfl (hshort h l path)

theorem length_packed_le (path : List Nibble) : 2 * (packed path).length ≤ path.length := by
  induction path using packed.induct with
  | case1 h l path ih =>
      simp only [packed, List.length_cons]
      omega
  | case2 path hshort =>
      rw [packed]
      · simp
      · exact hshort

theorem length_compact_le (isLeaf : Bool) (path : List Nibble) :
    (compact isLeaf path).length ≤ path.length + 1 := by
  by_cases hodd : path.length % 2 = 1
  · have hlen := length_packed_le ((flag isLeaf + 1) :: path)
    rw [compact, if_pos hodd]
    rw [List.length_cons] at hlen
    omega
  · have hlen := length_packed_le (flag isLeaf :: 0 :: path)
    rw [compact, if_neg hodd]
    simp only [List.length_cons] at hlen
    omega

/-- A compact path is read as the path that was written, with its kind. -/
theorem compactPath_compact (isLeaf : Bool) (path : List Nibble) :
    compactPath (compact isLeaf path) = (path, isLeaf) := by
  by_cases hodd : path.length % 2 = 1
  · match path with
    | n :: rest =>
        have hrest : rest.length % 2 = 0 := by
          simp only [List.length_cons] at hodd
          omega
        rw [compact, if_pos hodd, packed, compactPath, high_byteOf, low_byteOf,
          nibbles_packed rest hrest]
        cases isLeaf <;> rfl
  · have heven : path.length % 2 = 0 := by omega
    rw [compact, if_neg hodd, packed, compactPath, high_byteOf, nibbles_packed path heven]
    cases isLeaf <;> rfl

end UnlockProof.Trie

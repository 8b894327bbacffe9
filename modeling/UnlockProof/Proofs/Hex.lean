import UnlockProof.Proofs.BigEndian
import UnlockProof.Proofs.Numeral

/-!
# Written hexadecimal text

A byte string is read back from a numeral with two digits for each byte, whatever the case of the
digits. The value of the numeral is the number that the bytes spell.
-/

namespace UnlockProof.Hex
open Numeral

variable {bs : Bytes}

/-- The digits of a byte string, two for each byte. -/
def digitsOf (bs : Bytes) : List Nat := bs.flatMap fun b => [b.toNat / 16, b.toNat % 16]

theorem digitsOf_cons (b : UInt8) (bs : Bytes) :
    digitsOf (b :: bs) = b.toNat / 16 :: b.toNat % 16 :: digitsOf bs := rfl

theorem length_digitsOf (bs : Bytes) : (digitsOf bs).length = 2 * bs.length := by
  induction bs with
  | nil => rfl
  | cons b bs ih =>
      rw [digitsOf_cons, List.length_cons, List.length_cons, List.length_cons, ih]
      omega

/-- The digits of bytes spell the same number as the bytes. -/
theorem value_digitsOf (bs : Bytes) : value 16 (digitsOf bs) = ofBigEndian bs := by
  rw [value_eq_foldl, digitsOf, List.foldl_flatMap, ofBigEndian]
  apply List.foldl_ext
  intro n b _
  simp only [List.foldl_cons, List.foldl_nil]
  omega

theorem ofNat_pair (b : UInt8) :
    UInt8.ofNat (b.toNat / 16) * 16 + UInt8.ofNat (b.toNat % 16) = b := by
  have hb := b.toNat_lt
  have hhigh : (UInt8.ofNat (b.toNat / 16)).toNat = b.toNat / 16 :=
    UInt8.toNat_ofNat_of_lt' (show b.toNat / 16 < 256 by omega)
  have hlow : (UInt8.ofNat (b.toNat % 16)).toNat = b.toNat % 16 :=
    UInt8.toNat_ofNat_of_lt' (show b.toNat % 16 < 256 by omega)
  have hsixteen : (16 : UInt8).toNat = 16 := rfl
  apply UInt8.toNat_inj.mp
  rw [UInt8.toNat_add, UInt8.toNat_mul, hhigh, hlow, hsixteen]
  omega

theorem decodePairs_of_forall₂ {ws : Bytes}
    (h : List.Forall₂ (fun d w => value? w = some (UInt8.ofNat d)) (digitsOf bs) ws)
    (position : Nat) : decodePairs position ws = .ok bs := by
  induction bs generalizing ws position with
  | nil =>
      cases h
      rfl
  | cons b bs ih =>
      rw [digitsOf_cons] at h
      cases h with
      | cons hhigh hrest =>
          cases hrest with
          | cons hlow hrest =>
              rw [decodePairs, hhigh, hlow]
              simp only [ih hrest, Except.map, ofNat_pair]

/-- A byte string is read back from its digits in any case. -/
theorem decodeChars_of_spells {cs : List Char} (h : Spells 16 (digitsOf bs) cs) :
    decodeChars cs = .ok bs := by
  have hbytes : List.Forall₂ (fun d w => value? w = some (UInt8.ofNat d)) (digitsOf bs)
      (Text.utf8 cs) := h.forall₂_utf8 (h.imp fun _ _ => IsDigit.hexValue?)
  have heven : ¬ (Text.utf8 cs).length % 2 = 1 := by
    have hlen := hbytes.length_eq
    rw [length_digitsOf] at hlen
    omega
  rw [decodeChars, decode, if_neg heven]
  exact decodePairs_of_forall₂ hbytes 0

/-- A text renders a byte string if it is the mark with the digits of the bytes. -/
def Renders (bs : Bytes) (s : String) : Prop := IsMarked (digitsOf bs) s

instance {bs : Bytes} {s : String} : Decidable (Renders bs s) :=
  inferInstanceAs (Decidable (IsMarked (digitsOf bs) s))

theorem spells_encode (bs : Bytes) : Spells 16 (digitsOf bs) (encode bs) := by
  induction bs with
  | nil => exact .nil
  | cons b bs ih =>
      have hb := b.toNat_lt
      exact .cons ⟨by omega, .inl rfl⟩ (.cons ⟨by omega, .inl rfl⟩ ih)

theorem renders_text (bs : Bytes) : Renders bs (text bs) :=
  ⟨'x', encode bs, .inl rfl, spells_encode bs, Text.pads_ofList _⟩

end UnlockProof.Hex

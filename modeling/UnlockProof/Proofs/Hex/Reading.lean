import UnlockProof.Proofs.Hex
import UnlockProof.Proofs.Quantity

/-!
# Reading hexadecimal text

A text is read as a byte string exactly if it spells its digits, two for each byte and in either
case. Nothing else is read, and a text of digits is read as soon as their number is even.
-/

namespace UnlockProof.Hex
open Numeral Outcome Quantity

variable {bs ws : Bytes} {cs : List Char} {ds : List Nat} {s : String} {n : Nat} {b v : UInt8}

set_option maxRecDepth 4096 in
theorem value?_ofNat : ∀ m < 256,
    value? (UInt8.ofNat m) = (digit? 16 (UInt8.ofNat m)).map UInt8.ofNat := by
  decide

/-- The digits of bytes are those of numerals. -/
theorem value?_eq_map (b : UInt8) : value? b = (digit? 16 b).map UInt8.ofNat := by
  have hb := value?_ofNat b.toNat b.toNat_lt
  rwa [UInt8.ofNat_toNat] at hb

theorem isDigitByte_of_value? (h : value? b = some v) : IsDigitByte 16 v.toNat b := by
  rw [value?_eq_map] at h
  obtain ⟨d, hd, rfl⟩ := Option.map_eq_some_iff.mp h
  have hb : b ≠ underscore := by
    rintro rfl
    cases hd
  have hdigit := isDigitByte_of_digit? hb hd
  rwa [UInt8.toNat_ofNat_of_lt' (Nat.lt_trans hdigit.1 (by decide))]

/-- The halves of a byte are the digits of which it is put together. -/
theorem digitsOf_join {high low : UInt8} (hhigh : high.toNat < 16) (hlow : low.toNat < 16)
    (bs : Bytes) : digitsOf ((high * 16 + low) :: bs) = high.toNat :: low.toNat :: digitsOf bs := by
  have hsixteen : (16 : UInt8).toNat = 16 := rfl
  have hvalue : (high * 16 + low).toNat = high.toNat * 16 + low.toNat := by
    rw [UInt8.toNat_add, UInt8.toNat_mul, hsixteen]
    omega
  have hfirst : (high.toNat * 16 + low.toNat) / 16 = high.toNat := by omega
  have hsecond : (high.toNat * 16 + low.toNat) % 16 = low.toNat := by omega
  rw [digitsOf_cons, hvalue, hfirst, hsecond]

/-- Pairs of digits are read from nothing but digits. -/
theorem forall₂_of_decodePairs {position : Nat} (h : decodePairs position ws = .ok bs) :
    List.Forall₂ (IsDigitByte 16) (digitsOf bs) ws := by
  fun_induction decodePairs position ws generalizing bs with
  | case1 =>
      obtain rfl := Except.ok.inj h
      exact .nil
  | case2 => cases h
  | case3 position a b rest low high hlow hhigh ih =>
      obtain ⟨bytes, hbytes, rfl⟩ := map_eq_ok_iff.mp h
      have ha := isDigitByte_of_value? hhigh
      have hb := isDigitByte_of_value? hlow
      rw [digitsOf_join ha.1 hb.1]
      exact .cons ha (.cons hb (ih hbytes))
  | case4 => cases h
  | case5 => cases h

/-- A byte string is read exactly from its digits in any case. -/
theorem decodeChars_eq_ok_iff : decodeChars cs = .ok bs ↔ Spells 16 (digitsOf bs) cs := by
  constructor
  · intro h
    rw [decodeChars, decode] at h
    split at h
    · cases h
    · exact (spells_iff_forall₂_utf8 (by simp)).mpr (forall₂_of_decodePairs h)
  · exact decodeChars_of_spells

/-- A text of `n` bytes: their digits, two for each, in either case behind the mark `0x` or `0X`,
and white space around them. -/
def IsText (n : Nat) (s : String) : Prop := ∃ ds, ds.length = 2 * n ∧ IsMarked ds s

/-- Every even number of digits spells bytes. -/
theorem exists_digitsOf (hds : ∀ d ∈ ds, d < 16) (hlen : ds.length = 2 * n) :
    ∃ bs, bs.length = n ∧ digitsOf bs = ds := by
  induction n generalizing ds with
  | zero => exact ⟨[], rfl, (List.length_eq_zero_iff.mp hlen).symm⟩
  | succ n ih =>
      match ds with
      | high :: low :: rest =>
          obtain ⟨hhigh, hds⟩ := List.forall_mem_cons.mp hds
          obtain ⟨hlow, hds⟩ := List.forall_mem_cons.mp hds
          obtain ⟨bs, hbs, rfl⟩ := ih hds (by simpa [Nat.mul_add] using hlen)
          have hbyte {d : Nat} (hd : d < 16) : (UInt8.ofNat d).toNat = d :=
            UInt8.toNat_ofNat_of_lt' (Nat.lt_trans hd (by decide))
          refine ⟨(UInt8.ofNat high * 16 + UInt8.ofNat low) :: bs, congrArg Nat.succ hbs, ?_⟩
          have hjoin : digitsOf ((UInt8.ofNat high * 16 + UInt8.ofNat low) :: bs) =
              (UInt8.ofNat high).toNat :: (UInt8.ofNat low).toNat :: digitsOf bs :=
            digitsOf_join (by rwa [hbyte hhigh]) (by rwa [hbyte hlow]) bs
          rwa [hbyte hhigh, hbyte hlow] at hjoin

/-- The texts of `n` bytes are those that render `n` bytes. -/
theorem isText_iff : IsText n s ↔ ∃ bs, bs.length = n ∧ Renders bs s := by
  constructor
  · rintro ⟨ds, hlen, hmarked⟩
    have hds : ∀ d ∈ ds, d < 16 := by
      obtain ⟨mark, cs, -, hspells, -⟩ := hmarked
      exact hspells.lt
    obtain ⟨bs, hbs, rfl⟩ := exists_digitsOf hds hlen
    exact ⟨bs, hbs, hmarked⟩
  · rintro ⟨bs, rfl, hbs⟩
    exact ⟨digitsOf bs, length_digitsOf bs, hbs⟩

end UnlockProof.Hex

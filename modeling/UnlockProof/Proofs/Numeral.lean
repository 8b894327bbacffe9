import Mathlib.Data.List.Forall2
import Mathlib.Data.Nat.Digits.Defs
import UnlockProof.Hex
import UnlockProof.Proofs.Text
import UnlockProof.Quantity

/-!
# Numerals

A numeral is a row of digits, the most significant first, with letters in either case and any
number of leading zeros. In a text it stands alone or behind the hexadecimal mark, with white space
around it.
-/

namespace UnlockProof.Numeral

variable {radix d : Nat} {c : Char} {ds : List Nat} {cs : List Char} {s : String}

/-- A character that stands for a digit, in either case. -/
def IsDigit (radix d : Nat) (c : Char) : Prop :=
  d < radix ∧ (c = Hex.digit d ∨ c = (Hex.digit d).toUpper)

instance : Decidable (IsDigit radix d c) :=
  inferInstanceAs (Decidable (d < radix ∧ (c = Hex.digit d ∨ c = (Hex.digit d).toUpper)))

/-- The byte of an ASCII character. -/
def byteOf (c : Char) : UInt8 := UInt8.ofNat c.toNat

/-- What holds of the digits in both cases holds of every digit. -/
theorem IsDigit.of_forall {P : Nat → Char → Prop} (hlower : ∀ d < radix, P d (Hex.digit d))
    (hupper : ∀ d < radix, P d (Hex.digit d).toUpper) (h : IsDigit radix d c) : P d c := by
  obtain ⟨hd, rfl | rfl⟩ := h
  · exact hlower d hd
  · exact hupper d hd

theorem IsDigit.utf8EncodeChar : IsDigit 16 d c → String.utf8EncodeChar c = [byteOf c] :=
  of_forall (P := fun _ c => String.utf8EncodeChar c = [byteOf c]) (by decide) (by decide)

theorem IsDigit.isBlank : IsDigit 16 d c → Text.isBlank c = false :=
  of_forall (P := fun _ c => Text.isBlank c = false) (by decide) (by decide)

theorem IsDigit.byteOf_ne_underscore : IsDigit 16 d c → byteOf c ≠ Quantity.underscore :=
  of_forall (P := fun _ c => byteOf c ≠ Quantity.underscore) (by decide) (by decide)

theorem IsDigit.hexValue? : IsDigit 16 d c → Hex.value? (byteOf c) = some (UInt8.ofNat d) :=
  of_forall (P := fun d c => Hex.value? (byteOf c) = some (UInt8.ofNat d)) (by decide) (by decide)

theorem IsDigit.digit?_hex : IsDigit 16 d c → Quantity.digit? 16 (byteOf c) = some d :=
  of_forall (P := fun d c => Quantity.digit? 16 (byteOf c) = some d) (by decide) (by decide)

theorem IsDigit.digit?_decimal : IsDigit 10 d c → Quantity.digit? 10 (byteOf c) = some d :=
  of_forall (P := fun d c => Quantity.digit? 10 (byteOf c) = some d) (by decide) (by decide)

theorem IsDigit.hex (h : IsDigit 10 d c) : IsDigit 16 d c :=
  ⟨Nat.lt_trans h.1 (by decide), h.2⟩

/-- The characters of a numeral. -/
abbrev Spells (radix : Nat) : List Nat → List Char → Prop := List.Forall₂ (IsDigit radix)

instance : Decidable (Spells radix ds cs) :=
  decidable_of_iff (List.all₂ (fun d c => decide (IsDigit radix d c)) ds cs) (by simp)

theorem Spells.hex (h : Spells 10 ds cs) : Spells 16 ds cs := h.imp fun _ _ => IsDigit.hex

theorem Spells.exists_isDigit (h : Spells radix ds cs) : ∀ c ∈ cs, ∃ d, IsDigit radix d c := by
  induction h with
  | nil => exact nofun
  | cons hd _ ih => exact List.forall_mem_cons.mpr ⟨⟨_, hd⟩, ih⟩

theorem Spells.lt (h : Spells radix ds cs) : ∀ d ∈ ds, d < radix := by
  induction h with
  | nil => exact nofun
  | cons hd _ ih => exact List.forall_mem_cons.mpr ⟨hd.1, ih⟩

theorem Spells.isBlank (h : Spells 16 ds cs) : ∀ c ∈ cs, Text.isBlank c = false := by
  intro c hc
  obtain ⟨d, hd⟩ := h.exists_isDigit c hc
  exact hd.isBlank

theorem Spells.not_mem_underscore (h : Spells 16 ds cs) : '_' ∉ cs := by
  intro hmem
  obtain ⟨d, hd⟩ := h.exists_isDigit _ hmem
  exact hd.byteOf_ne_underscore rfl

/-- What holds of the byte of each digit holds along the bytes of a numeral. -/
theorem Spells.forall₂_utf8 {R : Nat → UInt8 → Prop} (h : Spells 16 ds cs)
    (hR : List.Forall₂ (fun d c => R d (byteOf c)) ds cs) : List.Forall₂ R ds (Text.utf8 cs) := by
  have hbytes : ∀ c ∈ cs, String.utf8EncodeChar (id c) = [byteOf c] := by
    intro c hc
    obtain ⟨d, hd⟩ := h.exists_isDigit c hc
    exact hd.utf8EncodeChar
  have hutf8 := Text.utf8_map hbytes
  rw [List.map_id] at hutf8
  rw [hutf8]
  exact List.forall₂_map_right_iff.mpr hR

/-- The number that digits spell. -/
def value (radix : Nat) (ds : List Nat) : Nat := Nat.ofDigits radix ds.reverse

theorem value_eq_foldl (radix : Nat) (ds : List Nat) :
    value radix ds = ds.foldl (fun n d => n * radix + d) 0 := by
  rw [value, Nat.ofDigits_eq_foldr, List.foldr_reverse]
  simp only [Nat.cast_id, Nat.add_comm, Nat.mul_comm]

/-- A text that is a hexadecimal numeral behind its mark. -/
def IsMarked (ds : List Nat) (s : String) : Prop :=
  ∃ mark cs, (mark = 'x' ∨ mark = 'X') ∧ Spells 16 ds cs ∧ Text.Pads s ('0' :: mark :: cs)

/-- A text that is a decimal numeral. -/
def IsPlain (ds : List Nat) (s : String) : Prop := ∃ cs, Spells 10 ds cs ∧ Text.Pads s cs

theorem unmarked?_eq_some_iff {rest : List Char} :
    Quantity.unmarked? cs = some rest ↔
      ∃ mark, (mark = 'x' ∨ mark = 'X') ∧ cs = '0' :: mark :: rest := by
  constructor
  · intro h
    rw [Quantity.unmarked?.eq_def] at h
    split at h
    case h_1 =>
      obtain rfl := Option.some.inj h
      exact ⟨'x', .inl rfl, rfl⟩
    case h_2 =>
      obtain rfl := Option.some.inj h
      exact ⟨'X', .inr rfl, rfl⟩
    case h_3 => cases h
  · rintro ⟨mark, rfl | rfl, rfl⟩
    · rfl
    · rfl

/-- White space apart, the mark and the digits are all that there is. -/
theorem isMarked_iff :
    IsMarked ds s ↔ ∃ cs ∈ Quantity.unmarked? (Text.trimmed s.toList), Spells 16 ds cs := by
  constructor
  · rintro ⟨mark, cs, hmark, hcs, hs⟩
    have hblank : ∀ c ∈ '0' :: mark :: cs, Text.isBlank c = false := by
      rw [List.forall_mem_cons, List.forall_mem_cons]
      refine ⟨by decide, ?_, hcs.isBlank⟩
      rcases hmark with rfl | rfl
      · decide
      · decide
    exact ⟨cs, unmarked?_eq_some_iff.mpr ⟨mark, hmark, hs.trimmed hblank⟩, hcs⟩
  · rintro ⟨cs, hmem, hcs⟩
    obtain ⟨mark, hmark, htrimmed⟩ := unmarked?_eq_some_iff.mp hmem
    exact ⟨mark, cs, hmark, hcs, htrimmed ▸ Text.pads_trimmed s⟩

instance : Decidable (IsMarked ds s) := decidable_of_iff _ isMarked_iff.symm

/-- White space apart, the digits are all that there is. -/
theorem isPlain_iff : IsPlain ds s ↔ Spells 10 ds (Text.trimmed s.toList) := by
  constructor
  · rintro ⟨cs, hcs, hs⟩
    rwa [hs.trimmed hcs.hex.isBlank]
  · intro h
    exact ⟨_, h, Text.pads_trimmed s⟩

instance : Decidable (IsPlain ds s) := decidable_of_iff _ isPlain_iff.symm

/-- No decimal numeral has a mark. -/
theorem Spells.unmarked? (h : Spells 10 ds cs) : Quantity.unmarked? cs = none := by
  have hmark : ∀ mark ∈ cs, mark ≠ 'x' ∧ mark ≠ 'X' := by
    intro mark hmem
    obtain ⟨d, hd⟩ := h.exists_isDigit mark hmem
    exact hd.of_forall (P := fun _ c => c ≠ 'x' ∧ c ≠ 'X') (by decide) (by decide)
  rw [Quantity.unmarked?.eq_def]
  split
  case h_1 rest => exact absurd rfl (hmark 'x' (by simp)).1
  case h_2 rest => exact absurd rfl (hmark 'X' (by simp)).2
  case h_3 => rfl

end UnlockProof.Numeral

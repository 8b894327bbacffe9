import UnlockProof.Proofs.Quantity.Digits

/-!
# Numbers that quantities stand for

A text is read exactly if it is a numeral of a number below `2 ^ 256`, where underscores between
and around the digits are passed over. A numeral of a larger number is too large. Without
underscores the numerals are the declared ones, the decimal ones and the hexadecimal ones behind
their mark.
-/

namespace UnlockProof.Quantity
open Numeral Outcome

variable {ds : List Nat} {cs : List Char} {s : String} {n radix d : Nat}

set_option maxRecDepth 4096 in
theorem isDigit_of_digit?_ofNat : ∀ radix ∈ [10, 16], ∀ m < 256,
    ∀ d ∈ digit? radix (UInt8.ofNat m),
      m < 128 ∧ IsDigit radix d (Text.latin1 (UInt8.ofNat m)) := by
  decide

/-- Only a digit has the byte that is read as a digit. -/
theorem isDigit_of_digit? {b : UInt8} (hradix : radix ∈ [10, 16]) (h : digit? radix b = some d) :
    b.toNat < 128 ∧ IsDigit radix d (Text.latin1 b) := by
  have hb := isDigit_of_digit?_ofNat radix hradix b.toNat b.toNat_lt d
  rw [UInt8.ofNat_toNat] at hb
  exact hb h

theorem toNat_lt_of_forall₂ {bs : Bytes} (hradix : radix ∈ [10, 16])
    (h : List.Forall₂ (IsDigitByte radix) ds bs) : ∀ b ∈ bs, b.toNat < 128 := by
  induction h with
  | nil => exact nofun
  | cons hd _ ih => exact List.forall_mem_cons.mpr ⟨(isDigit_of_digit? hradix hd.2.2).1, ih⟩

/-- A text is a row of digits exactly if its bytes are read as these digits. -/
theorem spells_iff_forall₂_utf8 (hradix : radix ∈ [10, 16]) :
    Spells radix ds cs ↔ List.Forall₂ (IsDigitByte radix) ds (Text.utf8 cs) := by
  constructor
  · intro h
    rcases List.mem_pair.mp hradix with rfl | rfl
    · exact h.hex.forall₂_utf8
        (h.imp fun _ _ h => ⟨h.1, h.hex.byteOf_ne_underscore, h.digit?_decimal⟩)
    · exact h.forall₂_utf8 (h.imp fun _ _ h => ⟨h.1, h.byteOf_ne_underscore, h.digit?_hex⟩)
  · intro h
    rw [Text.eq_map_latin1_of_forall (toNat_lt_of_forall₂ hradix h)]
    exact List.forall₂_map_right_iff.mpr
      (h.imp fun _ _ hd => (isDigit_of_digit? hradix hd.2.2).2)

/-- The characters of a text without its underscores. -/
def ungrouped (cs : List Char) : List Char := cs.filter (· ≠ '_')

theorem ungrouped_of_not_mem (h : '_' ∉ cs) : ungrouped cs = cs := by
  apply List.filter_eq_self.mpr
  intro c hc
  exact decide_eq_true (ne_of_mem_of_not_mem hc h)

theorem bare_utf8 (cs : List Char) : bare (Text.utf8 cs) = Text.utf8 (ungrouped cs) :=
  Text.filter_ne_utf8 (by decide) cs

/-- A text that is a numeral when its underscores are left out, and is not empty with them: a
decimal one, or a hexadecimal one behind its mark. -/
inductive IsGrouped (n : Nat) : List Char → Prop where
  | plain {ds : List Nat} {cs : List Char} (hne : cs ≠ []) (hcs : Spells 10 ds (ungrouped cs))
      (hv : value 10 ds = n) : IsGrouped n cs
  | marked {ds : List Nat} {mark : Char} {cs : List Char} (hmark : mark = 'x' ∨ mark = 'X')
      (hcs : Spells 16 ds (ungrouped cs)) (hv : value 16 ds = n) : IsGrouped n ('0' :: mark :: cs)

/-- A mark is no part of a decimal numeral, even of a grouped one. -/
theorem unmarked?_of_spells_ungrouped (h : Spells 10 ds (ungrouped cs)) : unmarked? cs = none := by
  by_contra hmarked
  obtain ⟨rest, hrest⟩ := Option.ne_none_iff_exists'.mp hmarked
  obtain ⟨mark, hmark, rfl⟩ := unmarked?_eq_some_iff.mp hrest
  have hkeep : ungrouped ('0' :: mark :: rest) = '0' :: mark :: ungrouped rest := by
    rcases hmark with rfl | rfl
    · rfl
    · rfl
  have hnone := h.unmarked?
  rw [hkeep, unmarked?_eq_some_iff.mpr ⟨mark, hmark, rfl⟩] at hnone
  cases hnone

/-- Read from a grouped numeral is the number that it spells, if it is not too large. -/
theorem readDigits_of_isGrouped (h : IsGrouped n cs) :
    readDigits cs = (limited n).mapError (Fault.digits (String.ofList cs)) := by
  cases h with
  | @plain ds _ hne hcs hv =>
      have hbytes := (spells_iff_forall₂_utf8 (by simp)).mp hcs
      rw [← bare_utf8] at hbytes
      have hread := readDecimal_eq hbytes 0 0 0
      rw [readDecimal_bare] at hread
      rw [readDigits, unmarked?_of_spells_ungrouped hcs]
      simp only [List.isEmpty_iff, if_neg hne, hread, ← hv, value_eq_foldl]
  | @marked ds mark rest hmark hcs hv =>
      have hbytes := (spells_iff_forall₂_utf8 (by simp)).mp hcs
      rw [← bare_utf8] at hbytes
      have hread := readHex_eq (List.forall₂_reverse_iff.mpr hbytes) 0
      rw [bare, ← List.filter_reverse, ← bare, readHex_bare] at hread
      rw [readDigits, unmarked?_eq_some_iff.mpr ⟨mark, hmark, rfl⟩]
      simp only [hread, ← hv, value]
      simp

/-- Nothing but a grouped numeral is read. -/
theorem exists_isGrouped_of_readDigits (h : readDigits cs = .ok n) : ∃ m, IsGrouped m cs := by
  rw [readDigits] at h
  split at h
  case h_1 rest hmarked =>
    obtain ⟨mark, hmark, rfl⟩ := unmarked?_eq_some_iff.mp hmarked
    obtain ⟨ds, hds⟩ := exists_digits_of_readHex (mapError_eq_ok_iff.mp h)
    rw [bare, List.filter_reverse, ← bare, bare_utf8] at hds
    have hspells := List.forall₂_reverse_iff.mpr hds
    rw [List.reverse_reverse] at hspells
    exact ⟨_, .marked hmark ((spells_iff_forall₂_utf8 (by simp)).mpr hspells) rfl⟩
  case h_2 =>
    split at h
    case isTrue => cases h
    case isFalse hne =>
      obtain ⟨ds, hds⟩ := exists_digits_of_readDecimal (mapError_eq_ok_iff.mp h)
      rw [bare_utf8] at hds
      exact ⟨_, .plain (fun hnil => hne (List.isEmpty_iff.mpr hnil))
        ((spells_iff_forall₂_utf8 (by simp)).mpr hds) rfl⟩

theorem readDigits_eq_ok_iff : readDigits cs = .ok n ↔ IsGrouped n cs ∧ n < U256.size := by
  constructor
  · intro h
    obtain ⟨m, hm⟩ := exists_isGrouped_of_readDigits h
    rw [readDigits_of_isGrouped hm, mapError_eq_ok_iff, limited] at h
    split at h
    case isTrue hfits =>
      obtain rfl := Except.ok.inj h
      exact ⟨hm, hfits⟩
    case isFalse => cases h
  · rintro ⟨h, hfits⟩
    rw [readDigits_of_isGrouped h, limited_of_lt hfits, mapError_ok]

/-- A quantity renders a number if it is the JSON number, a decimal numeral or a marked hexadecimal
numeral of this value. Only behind a mark there may be no digits at all. -/
inductive Renders (n : Nat) : Quantity → Prop where
  | number {v : UInt64} (hv : v.toNat = n) : Renders n (.number (.natural v))
  | plain {ds : List Nat} {s : String} (hne : ds ≠ []) (hs : IsPlain ds s)
      (hv : value 10 ds = n) : Renders n (.text s)
  | marked {ds : List Nat} {s : String} (hs : IsMarked ds s) (hv : value 16 ds = n) :
      Renders n (.text s)

/-- An optional quantity renders a number if it is there and does, or if it is absent and the number
is zero. -/
def RendersOrZero (n : Nat) : Option Quantity → Prop
  | none => n = 0
  | some q => q.Renders n

/-- The texts that render a number are its grouped numerals without an underscore. -/
theorem renders_text_iff :
    (Quantity.text s).Renders n ↔
      IsGrouped n (Text.trimmed s.toList) ∧ '_' ∉ Text.trimmed s.toList := by
  constructor
  · intro h
    cases h with
    | plain hne hs hv =>
        have hspells := isPlain_iff.mp hs
        have hnone := hspells.hex.not_mem_underscore
        refine ⟨.plain ?_ ((ungrouped_of_not_mem hnone).symm ▸ hspells) hv, hnone⟩
        intro hnil
        rw [hnil] at hspells
        cases hspells
        exact hne rfl
    | marked hs hv =>
        obtain ⟨cs, hcs, hspells⟩ := isMarked_iff.mp hs
        obtain ⟨mark, hmark, htrimmed⟩ := unmarked?_eq_some_iff.mp hcs
        have hnone := hspells.not_mem_underscore
        rw [htrimmed]
        refine ⟨.marked hmark ((ungrouped_of_not_mem hnone).symm ▸ hspells) hv, ?_⟩
        rcases hmark with rfl | rfl
        · simpa using hnone
        · simpa using hnone
  · rintro ⟨h, hnone⟩
    generalize htrimmed : Text.trimmed s.toList = cs at h hnone
    cases h with
    | plain hne hcs hv =>
        rw [ungrouped_of_not_mem hnone] at hcs
        refine .plain ?_ (isPlain_iff.mpr (htrimmed ▸ hcs)) hv
        rintro rfl
        cases hcs
        exact hne rfl
    | marked hmark hcs hv =>
        rw [ungrouped_of_not_mem fun hmem => hnone (by simp [hmem])] at hcs
        have hmarked := unmarked?_eq_some_iff.mpr ⟨_, hmark, htrimmed⟩
        exact .marked (isMarked_iff.mpr ⟨_, hmarked, hcs⟩) hv

/-- Read from a text is the number of which it is a grouped numeral, if it is not too large. -/
theorem read_text_of_isGrouped (h : IsGrouped n (Text.trimmed s.toList)) :
    (Quantity.text s).read =
      ((limited n).mapError (Fault.digits (Text.trim s))).map (BitVec.ofNat 256) := by
  rw [read, readDigits_of_isGrouped h, Text.trim]

/-- A number is read from its grouped numerals and from no other text. -/
theorem read_text_eq_ok_iff {v : U256} :
    (Quantity.text s).read = .ok v ↔ IsGrouped v.toNat (Text.trimmed s.toList) := by
  rw [read, map_eq_ok_iff]
  simp only [readDigits_eq_ok_iff]
  constructor
  · rintro ⟨n, ⟨hn, hfits⟩, rfl⟩
    rwa [BitVec.toNat_ofNat, Nat.mod_eq_of_lt hfits]
  · intro h
    exact ⟨v.toNat, ⟨h, v.isLt⟩, by rw [BitVec.ofNat_toNat, BitVec.setWidth_eq]⟩

/-- Says what number a quantity stands for: the one of a JSON number that is an integer of 64
bits, or the one of which the text between white space is a grouped numeral. -/
def StandsFor (n : Nat) : Quantity → Prop
  | number x => ∃ w : UInt64, x = .natural w ∧ w.toNat = n
  | text s => IsGrouped n (Text.trimmed s.toList)

theorem read_number_eq_ok_iff {x : Json.Number} {v : U256} :
    (Quantity.number x).read = .ok v ↔ ∃ w : UInt64, x = .natural w ∧ w.toNat = v.toNat := by
  rw [read]
  cases x with
  | natural w =>
      have hw : w.toNat < 2 ^ 256 := Nat.lt_trans w.toNat_lt (by decide)
      simp only [Json.Number.toUInt64?, Except.ok.injEq, Json.Number.natural.injEq, exists_eq_left',
        ← BitVec.toNat_inj, BitVec.toNat_ofNat, Nat.mod_eq_of_lt hw]
  | negative n => simp [Json.Number.toUInt64?]
  | double isNegative m => simp [Json.Number.toUInt64?]

/-- A quantity is read exactly if it stands for a number below `2 ^ 256`. -/
theorem read_eq_ok_iff {q : Quantity} {v : U256} : q.read = .ok v ↔ q.StandsFor v.toNat := by
  cases q with
  | number x => exact read_number_eq_ok_iff
  | text s => exact read_text_eq_ok_iff

/-- Says that a quantity stands for a number below a bound. -/
def IsBelow (bound : Nat) (q : Quantity) : Prop := ∃ n < bound, q.StandsFor n

theorem isBelow_iff {bound : Nat} {q : Quantity} (hbound : bound ≤ U256.size) :
    q.IsBelow bound ↔ ∃ v, q.read = .ok v ∧ v.toNat < bound := by
  constructor
  · rintro ⟨n, hn, hq⟩
    have hv : (BitVec.ofNat 256 n).toNat = n := by
      rw [BitVec.toNat_ofNat]
      exact Nat.mod_eq_of_lt (Nat.lt_of_lt_of_le hn hbound)
    exact ⟨BitVec.ofNat 256 n, read_eq_ok_iff.mpr (hv.symm ▸ hq), hv.symm ▸ hn⟩
  · rintro ⟨v, hq, hv⟩
    exact ⟨v.toNat, hv, read_eq_ok_iff.mp hq⟩

/-- A number is read from each of its renderings. -/
theorem read_of_renders {q : Quantity} (h : q.Renders n) (hn : n < U256.size) :
    q.read = .ok (BitVec.ofNat 256 n) := by
  have htext {s : String} (hs : (Quantity.text s).Renders n) :
      (Quantity.text s).read = .ok (BitVec.ofNat 256 n) := by
    rw [read_text_of_isGrouped (renders_text_iff.mp hs).1, limited_of_lt hn]
    rfl
  cases h with
  | number hv =>
      rw [← hv]
      rfl
  | plain hne hs hv => exact htext (.plain hne hs hv)
  | marked hs hv => exact htext (.marked hs hv)

end UnlockProof.Quantity

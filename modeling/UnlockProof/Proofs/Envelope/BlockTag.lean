import Mathlib.Data.Nat.Digits.Lemmas
import UnlockProof.Endpoint
import UnlockProof.Envelope
import UnlockProof.Proofs.Answer

/-!
# Tags of blocks

A block is asked for by its number in the fewest hexadecimal digits. The tag is read back as this
number, so no two blocks share one, and an endpoint that repeats the tag as the number of the block
has answered about the block that was asked for.
-/

namespace UnlockProof
open Numeral Outcome

namespace Hex

theorem digitChar_eq_digit : ∀ d < 16, Nat.digitChar d = digit d := by decide

/-- The digits of a number other than zero are those of its value, and the first is not zero. -/
theorem hexDigits_eq_map {n : Nat} (hn : 0 < n) :
    Text.hexDigits n = (Nat.digits 16 n).reverse.map digit := by
  induction n using Nat.strongRecOn with
  | ind n ih =>
      have hlast : Nat.digitChar (n % 16) = digit (n % 16) :=
        digitChar_eq_digit _ (Nat.mod_lt n (by decide))
      rw [Nat.digits_def' (by decide) hn, List.reverse_cons, List.map_append]
      rcases Nat.lt_or_ge n 16 with hlt | hge
      · rw [Text.hexDigits, Nat.toDigits_of_lt_base hlt, Nat.div_eq_of_lt hlt]
        rw [Nat.mod_eq_of_lt hlt] at hlast ⊢
        rw [hlast]
        rfl
      · have hrest := ih (n / 16) (by omega) (by omega)
        rw [Text.hexDigits] at hrest
        rw [Text.hexDigits, Nat.toDigits_of_base_le (by decide) hge, hrest, hlast]
        rfl

theorem spells_map_digit {ds : List Nat} (h : ∀ d ∈ ds, d < 16) : Spells 16 ds (ds.map digit) := by
  induction ds with
  | nil => exact .nil
  | cons d ds ih =>
      obtain ⟨hd, hds⟩ := List.forall_mem_cons.mp h
      exact .cons ⟨hd, .inl rfl⟩ (ih hds)

end Hex

theorem Quantity.renders_ofNat (n : Nat) : (Quantity.text (Hex.ofNat n)).Renders n := by
  rcases Nat.eq_zero_or_pos n with rfl | hn
  · exact .marked (show IsMarked [0] (Hex.ofNat 0) by decide) rfl
  · have hdigits : ∀ d ∈ (Nat.digits 16 n).reverse, d < 16 := by
      intro d hd
      exact Nat.digits_lt_base (by decide) (List.mem_reverse.mp hd)
    refine .marked ⟨'x', _, .inl rfl, Hex.spells_map_digit hdigits, ?_⟩ ?_
    · rw [← Hex.hexDigits_eq_map hn]
      exact Text.pads_ofList _
    · rw [value, List.reverse_reverse, Nat.ofDigits_digits]

/-- A text that is `0x` and lower-case hexadecimal digits, of which the first is not zero unless it
is the only one. -/
def IsTag (s : String) : Prop :=
  ∃ cs, s.toList = '0' :: 'x' :: cs ∧ cs ≠ [] ∧ (∀ c ∈ cs, c ∈ "0123456789abcdef".toList) ∧
    (cs.head? = some '0' → cs = ['0'])

theorem Hex.isTag_ofNat (n : Nat) : IsTag (Hex.ofNat n) := by
  refine ⟨Text.hexDigits n, String.toList_ofList, Nat.toDigits_ne_nil, ?_⟩
  rcases Nat.eq_zero_or_pos n with rfl | hn
  · have hzero : Text.hexDigits 0 = ['0'] := rfl
    rw [hzero]
    exact ⟨List.forall_mem_singleton.mpr (by decide), fun _ => rfl⟩
  · rw [hexDigits_eq_map hn]
    constructor
    · intro c hc
      obtain ⟨d, hd, rfl⟩ := List.mem_map.mp hc
      have hmem : ∀ d < 16, digit d ∈ "0123456789abcdef".toList := by decide
      exact hmem d (Nat.digits_lt_base (by decide) (List.mem_reverse.mp hd))
    · intro hhead
      have hne : Nat.digits 16 n ≠ [] := Nat.digits_ne_nil_iff_ne_zero.mpr hn.ne'
      rw [List.head?_map, List.head?_reverse, List.getLast?_eq_some_getLast hne,
        Option.map_some] at hhead
      have hzero : ∀ d < 16, digit d = '0' → d = 0 := by decide
      have hlast := Nat.digits_lt_base (by decide) (List.getLast_mem hne)
      exact absurd (hzero _ hlast (Option.some.inj hhead)) (Nat.getLast_digit_ne_zero 16 hn.ne')

theorem integer64_blockTag (field : String) (block : UInt64) :
    Field.integer64 field (.text (blockTag block)) = .ok block :=
  Field.integer64_of_renders (Quantity.renders_ofNat block.toNat)

theorem blockTag_injective : Function.Injective blockTag := by
  intro block block' h
  have hread := integer64_blockTag "number" block
  rw [h, integer64_blockTag] at hread
  exact (Except.ok.inj hread).symm

variable {b : BlockAnswer} {header : Header} {block : UInt64}

theorem BlockAnswer.number_of_toHeader (h : b.toHeader = .ok header) :
    Field.integer64 "number" b.number = .ok header.number := by
  simp only [toHeader, bind_eq_ok_iff, pure_eq_ok_iff] at h
  obtain ⟨_, -, _, -, _, -, _, -, _, -, _, -, _, -, _, -, _, hnumber, _, -, _, -, _, -, _, -, _, -,
    _, -, _, -, _, -, _, -, _, -, _, -, _, -, _, -, rfl⟩ := h
  exact hnumber

/-- A header whose number stands in the answer as a tag is the header of the block of this tag. -/
theorem BlockAnswer.number_eq_of_blockTag (h : b.toHeader = .ok header)
    (hb : b.number = .text (blockTag block)) : header.number = block := by
  have hnumber := number_of_toHeader h
  rw [hb, integer64_blockTag] at hnumber
  exact (Except.ok.inj hnumber).symm

theorem BlockAnswer.toHeaderOf_of_number
    (h : ∀ header, b.toHeader = .ok header → header.number = block) :
    toHeaderOf block (some b) = b.toHeader := by
  rw [toHeaderOf]
  cases hheader : b.toHeader with
  | error f => rfl
  | ok header => exact if_neg (not_not_intro (h header hheader))

theorem BlockAnswer.toHeaderOf_of_other (h : b.toHeader = .ok header)
    (hother : header.number ≠ block) :
    toHeaderOf block (some b) =
      .error (.encodingMismatch "number" (.number block header.number)) := by
  rw [toHeaderOf, h]
  exact if_pos hother

/-- A tag is the number of its block after the mark, in the fewest lower-case digits. It is read
back as this number in every field, so no two blocks have one tag. From an answer that has the tag
of the block as its number the header is taken as it is read, and it has this number; one that has
the tag of another block is refused for its number. -/
theorem blockTag_names_block (block : UInt64) :
    IsTag (blockTag block) ∧
    (blockTag block = "0x0" ↔ block = 0) ∧
    (∀ field, Field.integer64 field (.text (blockTag block)) = .ok block) ∧
    (∀ block', block' ≠ block → blockTag block' ≠ blockTag block) ∧
    (∀ (e : Endpoint) (b : BlockAnswer), (e.block block).outcome = .ok (some b) →
      b.number = .text (blockTag block) →
      (e.fetchHeader block).outcome = b.toHeader ∧
        ∀ header, b.toHeader = .ok header → header.number = block) ∧
    (∀ (e : Endpoint) (b : BlockAnswer) (header : Header) (block' : UInt64), block' ≠ block →
      (e.block block).outcome = .ok (some b) → b.number = .text (blockTag block') →
      b.toHeader = .ok header →
      (e.fetchHeader block).outcome =
        .error (.encodingMismatch "number" (.number block block'))) := by
  refine ⟨Hex.isTag_ofNat block.toNat, ?_, (integer64_blockTag · block), ?_, ?_, ?_⟩
  · exact blockTag_injective.eq_iff (b := 0)
  · exact fun block' => blockTag_injective.ne
  · intro e b he hb
    have hnumber : ∀ header, b.toHeader = .ok header → header.number = block :=
      fun header h => BlockAnswer.number_eq_of_blockTag h hb
    rw [Endpoint.fetchHeader_of_answer he, BlockAnswer.toHeaderOf_of_number hnumber]
    exact ⟨rfl, hnumber⟩
  · intro e b header block' hne he hb hheader
    obtain rfl := BlockAnswer.number_eq_of_blockTag hheader hb
    rw [Endpoint.fetchHeader_of_answer he, BlockAnswer.toHeaderOf_of_other hheader hne]

/-- The answer that says what a header is, with the tag of the block as its number. -/
def BlockAnswer.echoing (header : Header) : BlockAnswer :=
  { ofHeader header with number := .text (blockTag header.number) }

theorem BlockAnswer.toHeader_echoing (header : Header) : (echoing header).toHeader = .ok header :=
  toHeader_of_renders { renders_ofHeader header with number := Quantity.renders_ofNat _ }

/-- The endpoint that has no proofs and gives one answer about every block. -/
def Endpoint.blockOnly (b : BlockAnswer) : Endpoint where
  proof q := ⟨.error (.proofUnavailable q.block .nullProof), 0⟩
  block _ := ⟨.ok (some b), 0⟩

/-- A header with a number of seven digits. -/
def Header.lateSample : Header := { genesis with number := 17034870 }

/-- From the answer with the tag of the block the header is taken, but not if another block was
asked for. -/
theorem blockTag_names_block_lateSample :
    blockTag 17034870 = "0x103ee76" ∧ blockTag 7 ≠ blockTag 17034870 ∧
      ((Endpoint.blockOnly (.echoing Header.lateSample)).fetchHeader 17034870).outcome =
        .ok Header.lateSample ∧
      ((Endpoint.blockOnly (.echoing Header.lateSample)).fetchHeader 7).outcome =
        .error (.encodingMismatch "number" (.number 7 17034870)) := by
  have hread := BlockAnswer.toHeader_echoing Header.lateSample
  obtain ⟨-, -, -, hapart, hecho, -⟩ := blockTag_names_block 17034870
  obtain ⟨-, -, -, -, -, hother⟩ := blockTag_names_block 7
  obtain ⟨hsame, -⟩ := hecho (.blockOnly (.echoing Header.lateSample)) _ rfl rfl
  exact ⟨by decide, hapart 7 (by decide), hsame.trans hread,
    hother _ _ _ 17034870 (by decide) rfl rfl hread⟩

end UnlockProof

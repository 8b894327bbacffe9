import UnlockProof.Proofs.Field

/-!
# Numbers in fields

The reader of 256-bit numbers decides what a quantity is in every field: the other readers give its
number or refuse it as too wide. It gives the number of every numeral that fits, calls the others
too large, and reads nothing else but numerals with underscores in them.

## Implementation notes

A JSON number is told from its literal. A literal with a fraction or an exponent is no integer,
even if its value is one, and neither is minus zero.
-/

namespace UnlockProof

/-- Says that the literal of a JSON number is an integer without a sign. -/
structure Json.Literal.IsNatural (l : Json.Literal) (n : Nat) : Prop where
  isNegative : l.isNegative = false
  fraction : l.fraction = none
  exponent : l.exponent = none
  value : natOfDigits l.whole = n

/-- An integer without a sign is a number of 64 bits, and no other literal is. -/
theorem Json.Literal.toNumber_eq_natural_iff {l : Json.Literal} {w : UInt64} :
    l.toNumber = some (.natural w) ↔ l.IsNatural w.toNat := by
  have hdouble (m : Option Decimal.Magnitude) (isNegative : Bool) :
      m.map (Number.double isNegative) ≠ some (.natural w) := by
    cases m with
    | none => exact nofun
    | some m => exact nofun
  constructor
  · intro h
    simp only [toNumber] at h
    split at h
    case isTrue => exact absurd h (hdouble _ _)
    case isFalse hinteger =>
      simp only [Bool.or_eq_true, decide_eq_true_eq, not_or, Option.not_isSome_iff_eq_none,
        Nat.not_le] at hinteger
      obtain ⟨⟨hfraction, hexponent⟩, hfits⟩ := hinteger
      split at h
      case isTrue hsign =>
        obtain rfl := Number.natural.inj (Option.some.inj h)
        exact ⟨by simpa using hsign, hfraction, hexponent, (UInt64.toNat_ofNat_of_lt' hfits).symm⟩
      case isFalse =>
        split at h
        case isTrue => cases h
        case isFalse => exact absurd h (hdouble _ _)
  · rintro ⟨hsign, hfraction, hexponent, hvalue⟩
    have hfits : ¬ UInt64.size ≤ w.toNat := Nat.not_le.mpr w.toNat_lt
    simp [toNumber, hsign, hfraction, hexponent, hvalue, hfits]

namespace Field
open Outcome

variable {form : Form} {field s : String} {q q' : Quantity} {n : Nat} {v : U256} {w : UInt64}

theorem quantity_eq_ok_iff : quantity form field q = .ok v ↔ q.read = .ok v := mapError_eq_ok_iff

/-- The number of a numeral, or the mismatch that it is too large. -/
theorem integer_of_isGrouped (h : Quantity.IsGrouped n (Text.trimmed s.toList)) :
    integer field (.text s) =
      if n < U256.size then .ok (BitVec.ofNat 256 n)
      else .error (mismatch field .integer (.quantity (.digits (Text.trim s) .tooLarge))) := by
  rw [integer, quantity, Quantity.read_text_of_isGrouped h, Quantity.limited]
  split
  · rfl
  · rfl

/-- A JSON number is read exactly if it is an integer of 64 bits. -/
theorem integer_number_eq_ok_iff {x : Json.Number} :
    integer field (.number x) = .ok v ↔ ∃ w, x = .natural w ∧ v.toNat = w.toNat := by
  rw [integer, quantity_eq_ok_iff, Quantity.read_number_eq_ok_iff]
  simp only [eq_comm]

/-- Of the literals of numbers, those of the integers of 64 bits are read, with their value. -/
theorem integer_literal_eq_ok_iff {l : Json.Literal} {x : Json.Number} (hl : l.toNumber = some x) :
    integer field (.number x) = .ok v ↔ l.IsNatural v.toNat ∧ v.toNat < UInt64.size := by
  rw [integer_number_eq_ok_iff]
  constructor
  · rintro ⟨w, rfl, hv⟩
    rw [hv]
    exact ⟨Json.Literal.toNumber_eq_natural_iff.mp hl, w.toNat_lt⟩
  · rintro ⟨hnatural, hfits⟩
    have hw : (UInt64.ofNat v.toNat).toNat = v.toNat := UInt64.toNat_ofNat_of_lt' hfits
    rw [← hw] at hnatural
    rw [Json.Literal.toNumber_eq_natural_iff.mpr hnatural] at hl
    exact ⟨_, (Option.some.inj hl).symm, hw.symm⟩

theorem narrow_eq_ok_iff : narrow form field v = .ok w ↔ v.toNat = w.toNat := by
  rw [narrow]
  split
  case isTrue hv =>
    rw [Except.ok.injEq, ← UInt64.toNat_inj, UInt64.toNat_ofNat_of_lt' hv]
  case isFalse hv =>
    constructor
    · intro h
      cases h
    · intro h
      exact absurd (h ▸ w.toNat_lt) hv

theorem integer64_eq_ok_iff :
    integer64 field q = .ok w ↔ ∃ v, integer field q = .ok v ∧ v.toNat = w.toNat := by
  simp only [integer64, integer, bind_eq_ok_iff, narrow_eq_ok_iff]

theorem optionalInteger_some_eq_ok_iff {o : Option UInt64} :
    optionalInteger field (some q) = .ok o ↔
      ∃ v w, integer field q = .ok v ∧ v.toNat = w.toNat ∧ o = some w := by
  simp only [optionalInteger, integer, bind_eq_ok_iff, narrow_eq_ok_iff, quantity_eq_ok_iff,
    pure_eq_ok_iff]
  constructor
  · rintro ⟨v, hv, w, hw, rfl⟩
    exact ⟨v, w, hv, hw, rfl⟩
  · rintro ⟨v, w, hv, hw, rfl⟩
    exact ⟨v, hv, w, hw, rfl⟩

theorem nonce_eq_ok_iff {f : BlockNonce} :
    nonce field q = .ok f ↔
      ∃ v w, integer field q = .ok v ∧ v.toNat = w.toNat ∧ f = bytesOfUInt64 w := by
  simp only [nonce, integer, bind_eq_ok_iff, narrow_eq_ok_iff, quantity_eq_ok_iff, pure_eq_ok_iff]
  constructor
  · rintro ⟨v, hv, w, hw, rfl⟩
    exact ⟨v, w, hv, hw, rfl⟩
  · rintro ⟨v, w, hv, hw, rfl⟩
    exact ⟨v, hv, w, hw, rfl⟩

theorem integerOrZero_some_eq_ok_iff :
    integerOrZero field (some q) = .ok v ↔ integer field q = .ok v := by
  simp only [integerOrZero, integer, quantity_eq_ok_iff]

/-- Says that no reader of numbers tells two quantities apart, whatever the field. -/
structure Alike (q q' : Quantity) : Prop where
  integer : ∀ field, integer field q = integer field q'
  integer64 : ∀ field, integer64 field q = integer64 field q'
  optionalInteger : ∀ field, optionalInteger field (some q) = optionalInteger field (some q')
  integerOrZero : ∀ field, integerOrZero field (some q) = integerOrZero field (some q')
  nonce : ∀ field, nonce field q = nonce field q'

/-- Quantities of one number are alike. -/
theorem alike_of_integer (h : integer field q = .ok v) (h' : integer field q' = .ok v) :
    Alike q q' := by
  have hread {form : Form} {field : String} :
      quantity form field q = quantity form field q' := by
    rw [quantity_eq_ok_iff.mpr (quantity_eq_ok_iff.mp h),
      quantity_eq_ok_iff.mpr (quantity_eq_ok_iff.mp h')]
  constructor
  · exact fun _ => hread
  · intro field
    rw [integer64, integer64, hread]
  · intro field
    rw [optionalInteger, optionalInteger, hread]
  · exact fun _ => hread
  · intro field
    rw [nonce, nonce, hread]

/-- Says that the narrower readers give the number of a quantity if it is below `2 ^ 64`, and fail
otherwise. -/
structure NarrowsExactly (field : String) (q : Quantity) : Prop where
  integer64 : ∀ w, integer64 field q = .ok w ↔ ∃ v, integer field q = .ok v ∧ v.toNat = w.toNat
  optionalInteger : ∀ o, optionalInteger field (some q) = .ok o ↔
    ∃ v w, integer field q = .ok v ∧ v.toNat = w.toNat ∧ o = some w
  nonce : ∀ f, nonce field q = .ok f ↔
    ∃ v w, integer field q = .ok v ∧ v.toNat = w.toNat ∧ f = bytesOfUInt64 w

theorem narrowsExactly (field : String) (q : Quantity) : NarrowsExactly field q where
  integer64 _ := integer64_eq_ok_iff
  optionalInteger _ := optionalInteger_some_eq_ok_iff
  nonce _ := nonce_eq_ok_iff

/-- Numbers are read without loss. A text that renders a number gives this number, however many
digits it has, or the mismatch that the number is too large. A JSON number is read exactly if it is
an integer of 64 bits, and its literal is then an integer without a sign. A literal with a fraction,
an exponent or a minus before zero counts as no integer even where its value is one: neither
`1000.0` nor `1e3` nor `-0` is read. The readers of narrower numbers give the same number or fail,
and where two quantities stand for one number no reader tells them apart. -/
theorem numbers_read_exactly (field : String) :
    (∀ s n, (Quantity.text s).Renders n →
      (n < U256.size → ∃ v, integer field (.text s) = .ok v ∧ v.toNat = n) ∧
      (U256.size ≤ n → integer field (.text s) =
        .error (mismatch field .integer (.quantity (.digits (Text.trim s) .tooLarge))))) ∧
    (∀ x v, integer field (.number x) = .ok v ↔ ∃ w, x = .natural w ∧ v.toNat = w.toNat) ∧
    (∀ (l : Json.Literal) x v, l.toNumber = some x →
      (integer field (.number x) = .ok v ↔ l.IsNatural v.toNat ∧ v.toNat < UInt64.size)) ∧
    (∀ q, NarrowsExactly field q) ∧
    (∀ q v, integerOrZero field (some q) = .ok v ↔ integer field q = .ok v) ∧
    (∀ q q' v, integer field q = .ok v → integer field q' = .ok v → Alike q q') := by
  refine ⟨?_, ?_, ?_, narrowsExactly field, ?_, ?_⟩
  · intro s n h
    have hread : integer field (.text s) = _ :=
      integer_of_isGrouped (Quantity.renders_text_iff.mp h).1
    constructor
    · intro hfits
      rw [if_pos hfits] at hread
      exact ⟨_, hread, by rw [BitVec.toNat_ofNat, Nat.mod_eq_of_lt hfits]⟩
    · intro hlarge
      rwa [if_neg (Nat.not_lt.mpr hlarge)] at hread
  · exact fun x v => integer_number_eq_ok_iff
  · exact fun l x v => integer_literal_eq_ok_iff
  · exact fun q v => integerOrZero_some_eq_ok_iff
  · exact fun q q' v => alike_of_integer

/-- The numeral of the least number that is too large. -/
def leastTooLarge : String := String.ofList ('0' :: 'x' :: '1' :: List.replicate 64 '0')

theorem renders_leastTooLarge : (Quantity.text leastTooLarge).Renders U256.size :=
  .marked (show Numeral.IsMarked (1 :: List.replicate 64 0) leastTooLarge by decide) (by decide)

theorem renders_padded : (Quantity.text " 0X00fF\n").Renders 255 :=
  .marked (show Numeral.IsMarked [0, 0, 15, 15] " 0X00fF\n" by decide) rfl

/-- A padded numeral with leading zeros, the literal of the same number, and the first numeral that
is too large. -/
theorem numbers_read_exactly_limits :
    (∃ v, integer "gasUsed" (.text " 0X00fF\n") = .ok v ∧ v.toNat = 255) ∧
      integer "gasUsed" (.text leastTooLarge) =
        .error (mismatch "gasUsed" .integer
          (.quantity (.digits (Text.trim leastTooLarge) .tooLarge))) ∧
      integer "gasUsed" (.number (.natural 255)) = .ok 255 ∧
      Alike (.text " 0X00fF\n") (.number (.natural 255)) := by
  obtain ⟨htexts, -, hliterals, -, -, halike⟩ := numbers_read_exactly "gasUsed"
  obtain ⟨v, hread, hv⟩ := (htexts _ _ renders_padded).1 (by decide)
  have hnumber : integer "gasUsed" (.number (.natural 255)) = .ok 255 :=
    (hliterals ⟨false, [2, 5, 5], none, none⟩ _ _ (by decide)).mpr
      ⟨⟨rfl, rfl, rfl, rfl⟩, by decide⟩
  obtain rfl : v = 255 := BitVec.eq_of_toNat_eq hv
  exact ⟨⟨_, hread, hv⟩, (htexts _ _ renders_leastTooLarge).2 (Nat.le_refl _), hnumber,
    halike _ _ _ hread hnumber⟩

/-- A text is read exactly if it renders the number or has an underscore and is a numeral without
it. So an underscore is all that tells the texts that are read from the declared ones. -/
theorem integer_text_eq_ok_iff :
    integer field (.text s) = .ok v ↔
      (Quantity.text s).Renders v.toNat ∨
        '_' ∈ Text.trimmed s.toList ∧ Quantity.IsGrouped v.toNat (Text.trimmed s.toList) := by
  rw [integer, quantity_eq_ok_iff, Quantity.read_text_eq_ok_iff, Quantity.renders_text_iff]
  by_cases hmem : '_' ∈ Text.trimmed s.toList
  · simp only [hmem, not_true_eq_false, and_false, true_and, false_or]
  · simp only [hmem, not_false_eq_true, and_true, false_and, or_false]

/-- Digits are read although they are grouped, and none have to be there but the underscore. -/
theorem underscores_read_as_numbers :
    integer "gasUsed" (.text "1_000") = .ok 1000 ∧ integer "gasUsed" (.text "_") = .ok 0 ∧
      integer "gasUsed" (.text "0x_") = .ok 0 ∧
      ∀ s ∈ ["1_000", "_", "0x_"], ∀ n, ¬ (Quantity.text s).Renders n := by
  have hmem : ∀ s ∈ ["1_000", "_", "0x_"], '_' ∈ Text.trimmed s.toList := by decide
  refine ⟨quantity_eq_ok_iff.mpr (by decide), quantity_eq_ok_iff.mpr (by decide),
    quantity_eq_ok_iff.mpr (by decide), ?_⟩
  intro s hs n hrenders
  exact (Quantity.renders_text_iff.mp hrenders).2 (hmem s hs)

end Field
end UnlockProof

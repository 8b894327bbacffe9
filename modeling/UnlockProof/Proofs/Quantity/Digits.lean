import Mathlib.Tactic.Ring
import UnlockProof.Proofs.Numeral
import UnlockProof.Proofs.Outcome

/-!
# Numbers that digits stand for

Both readers of digits give the value of the numeral if it is below `2 ^ 256` and call it too large
otherwise, although one looks at the last digit first and the other gathers digits in groups. They
pass over underscores and read nothing else but digits.

## Implementation notes

A digit above the 64th is too large unless it is zero, and a full group is joined to the number as
soon as it is there. Neither misses a number that is too large, as later digits do not make it
smaller.
-/

namespace UnlockProof.Quantity
open Numeral Outcome

variable {ds : List Nat} {bs : Bytes} {n radix : Nat}

/-- A number that fits in 256 bits, or the fault that it does not. -/
def limited (n : Nat) : Except DigitFault Nat :=
  if n < U256.size then .ok n else .error .tooLarge

theorem limited_of_lt (h : n < U256.size) : limited n = .ok n := if_pos h

theorem limited_of_le (h : U256.size ≤ n) : limited n = .error .tooLarge := if_neg (by omega)

/-- A byte that is read as a digit. -/
def IsDigitByte (radix d : Nat) (b : UInt8) : Prop :=
  d < radix ∧ b ≠ underscore ∧ digit? radix b = some d

/-- A digit in one of the 64 places leaves a number of higher digits in range. -/
theorem add_lt_size {place d : Nat} (hplace : place < 64) (hd : d < 16)
    (hn : n * Nat.pow 16 (place + 1) < U256.size) :
    d * Nat.pow 16 place + n * Nat.pow 16 (place + 1) < U256.size := by
  have hstep : Nat.pow 16 (place + 1) = Nat.pow 16 place * 16 := Nat.pow_succ _ _
  have hpos : 0 < Nat.pow 16 place := Nat.pow_pos (by decide)
  have hsize : U256.size = Nat.pow 16 (63 - place) * Nat.pow 16 (place + 1) := by
    have hplaces : 64 = (63 - place) + (place + 1) := by omega
    calc
      U256.size = 16 ^ 64 := by decide
      _ = 16 ^ (63 - place) * 16 ^ (place + 1) := by rw [← Nat.pow_add, ← hplaces]
  rw [hsize] at hn ⊢
  have hlt : n < Nat.pow 16 (63 - place) := Nat.lt_of_mul_lt_mul_right hn
  calc
    d * Nat.pow 16 place + n * Nat.pow 16 (place + 1) <
        16 * Nat.pow 16 place + n * Nat.pow 16 (place + 1) :=
      Nat.add_lt_add_right (Nat.mul_lt_mul_of_pos_right hd hpos) _
    _ = (n + 1) * Nat.pow 16 (place + 1) := by
      rw [hstep]
      ring
    _ ≤ Nat.pow 16 (63 - place) * Nat.pow 16 (place + 1) := Nat.mul_le_mul_right _ hlt

/-- No number has a digit other than zero above its 64 places. -/
theorem size_le_of_place {place d : Nat} (hplace : 64 ≤ place) (hd : d ≠ 0) :
    U256.size ≤ d * Nat.pow 16 place :=
  calc
    U256.size = 16 ^ 64 := by decide
    _ ≤ 16 ^ place := Nat.pow_le_pow_right (by decide) hplace
    _ ≤ d * 16 ^ place := Nat.le_mul_of_pos_left _ (Nat.pos_of_ne_zero hd)

/-- Read from the last digit on, digits give the number that they spell. -/
theorem readHex_eq (h : List.Forall₂ (IsDigitByte 16) ds bs) (place : Nat) :
    readHex place bs = limited (Nat.ofDigits 16 ds * Nat.pow 16 place) := by
  induction h generalizing place with
  | nil => simp [readHex, limited]
  | @cons d b ds bs hdigit _ ih =>
      obtain ⟨hd, hunderscore, hvalue⟩ := hdigit
      have hsum : Nat.ofDigits 16 (d :: ds) * Nat.pow 16 place =
          d * Nat.pow 16 place + Nat.ofDigits 16 ds * Nat.pow 16 (place + 1) := by
        have hstep : Nat.pow 16 (place + 1) = Nat.pow 16 place * 16 := Nat.pow_succ _ _
        rw [Nat.ofDigits_cons, hstep]
        ring
      rw [readHex, if_neg hunderscore, hvalue, hsum]
      simp only
      split
      case isTrue hlarge =>
        have hle := size_le_of_place hlarge.1 hlarge.2
        exact (limited_of_le (Nat.le_trans hle (Nat.le_add_right _ _))).symm
      case isFalse hroom =>
        rw [ih]
        by_cases hrest : Nat.ofDigits 16 ds * Nat.pow 16 (place + 1) < U256.size
        · have hfits : d * Nat.pow 16 place + Nat.ofDigits 16 ds * Nat.pow 16 (place + 1) <
              U256.size := by
            by_cases hplace : place < 64
            · exact add_lt_size hplace hd hrest
            · have hzero : d = 0 := by omega
              rwa [hzero, Nat.zero_mul, Nat.zero_add]
          rw [limited_of_lt hrest, limited_of_lt hfits]
          rfl
        · have hle := Nat.le_of_not_lt hrest
          rw [limited_of_le hle, limited_of_le (Nat.le_trans hle (Nat.le_add_left _ _))]
          rfl

theorem le_foldl (ds : List Nat) (n : Nat) : n ≤ ds.foldl (fun n d => n * 10 + d) n := by
  induction ds generalizing n with
  | nil => exact Nat.le_refl n
  | cons d ds ih => exact Nat.le_trans (by omega) (ih (n * 10 + d))

/-- Read from the first digit on, digits are appended to the number before them. -/
theorem readDecimal_eq (h : List.Forall₂ (IsDigitByte 10) ds bs) (value group count : Nat) :
    readDecimal value group count bs =
      limited (ds.foldl (fun n d => n * 10 + d) (value * Nat.pow 10 count + group)) := by
  induction h generalizing value group count with
  | nil => rfl
  | @cons d b ds bs hdigit _ ih =>
      obtain ⟨-, hunderscore, hvalue⟩ := hdigit
      have happend : (value * Nat.pow 10 count + group) * 10 + d =
          value * Nat.pow 10 (count + 1) + (group * 10 + d) := by
        have hstep : Nat.pow 10 (count + 1) = Nat.pow 10 count * 10 := Nat.pow_succ _ _
        rw [hstep]
        ring
      rw [readDecimal, if_neg hunderscore, hvalue, List.foldl_cons, happend]
      simp only
      split
      case isTrue =>
        have hjoin : joinGroup value (group * 10 + d) (count + 1) =
            limited (value * Nat.pow 10 (count + 1) + (group * 10 + d)) := rfl
        rw [hjoin]
        by_cases hfits : value * Nat.pow 10 (count + 1) + (group * 10 + d) < U256.size
        · rw [limited_of_lt hfits]
          simp only [ih]
          simp
        · have hle := Nat.le_of_not_lt hfits
          rw [limited_of_le hle, limited_of_le (Nat.le_trans hle (le_foldl ds _))]
      case isFalse => rw [ih]

/-- The bytes of a text without its underscores. -/
def bare (bs : Bytes) : Bytes := bs.filter (· ≠ underscore)

theorem bare_cons_underscore (bs : Bytes) : bare (underscore :: bs) = bare bs := rfl

theorem bare_cons_of_ne {b : UInt8} (hb : b ≠ underscore) (bs : Bytes) :
    bare (b :: bs) = b :: bare bs := List.filter_cons_of_pos (decide_eq_true hb)

theorem readHex_bare (place : Nat) (bs : Bytes) : readHex place (bare bs) = readHex place bs := by
  induction bs generalizing place with
  | nil => rfl
  | cons b bs ih =>
      by_cases hb : b = underscore
      · rw [hb, bare_cons_underscore, readHex, if_pos rfl, ih]
      · rw [bare_cons_of_ne hb, readHex, readHex, if_neg hb, if_neg hb, ih]

theorem readDecimal_bare (value group count : Nat) (bs : Bytes) :
    readDecimal value group count (bare bs) = readDecimal value group count bs := by
  induction bs generalizing value group count with
  | nil => rfl
  | cons b bs ih =>
      by_cases hb : b = underscore
      · rw [hb, bare_cons_underscore, readDecimal, if_pos rfl, ih]
      · rw [bare_cons_of_ne hb, readDecimal, readDecimal, if_neg hb, if_neg hb]
        simp only [ih]

theorem isDigitByte_of_digit? {d : Nat} {b : UInt8} (hb : b ≠ underscore)
    (h : digit? radix b = some d) : IsDigitByte radix d b := by
  refine ⟨?_, hb, h⟩
  simp only [digit?, Option.ite_none_right_eq_some, Option.some.injEq] at h
  exact h.2 ▸ h.1

/-- Hexadecimal digits are read from nothing but digits. -/
theorem exists_digits_of_readHex {place : Nat} (h : readHex place bs = .ok n) :
    ∃ ds, List.Forall₂ (IsDigitByte 16) ds (bare bs) := by
  induction bs generalizing place n with
  | nil => exact ⟨[], .nil⟩
  | cons b bs ih =>
      rw [readHex] at h
      by_cases hb : b = underscore
      · rw [if_pos hb] at h
        rw [hb, bare_cons_underscore]
        exact ih h
      · rw [if_neg hb] at h
        rw [bare_cons_of_ne hb]
        split at h
        case h_1 => cases h
        case h_2 d hd =>
          split at h
          case isTrue => cases h
          case isFalse =>
            obtain ⟨m, hm, -⟩ := map_eq_ok_iff.mp h
            obtain ⟨ds, hds⟩ := ih hm
            exact ⟨d :: ds, .cons (isDigitByte_of_digit? hb hd) hds⟩

/-- Decimal digits are read from nothing but digits. -/
theorem exists_digits_of_readDecimal {value group count : Nat}
    (h : readDecimal value group count bs = .ok n) :
    ∃ ds, List.Forall₂ (IsDigitByte 10) ds (bare bs) := by
  induction bs generalizing value group count n with
  | nil => exact ⟨[], .nil⟩
  | cons b bs ih =>
      rw [readDecimal] at h
      by_cases hb : b = underscore
      · rw [if_pos hb] at h
        rw [hb, bare_cons_underscore]
        exact ih h
      · rw [if_neg hb] at h
        rw [bare_cons_of_ne hb]
        split at h
        case h_1 => cases h
        case h_2 d hd =>
          have hrest : ∃ ds, List.Forall₂ (IsDigitByte 10) ds (bare bs) := by
            split at h
            case isTrue =>
              split at h
              case h_1 => cases h
              case h_2 => exact ih h
            case isFalse => exact ih h
          obtain ⟨ds, hds⟩ := hrest
          exact ⟨d :: ds, .cons (isDigitByte_of_digit? hb hd) hds⟩

end UnlockProof.Quantity

import Mathlib.Data.List.Infix
import UnlockProof.Text.LowerCase

/-!
# Phrases in the lower case of a text

The lower case of a text is that of its characters in a row, so a text holds in lower case what any
part of it does, and the case of its ASCII letters does not show. Unicode knows one exception: a
capital sigma at the end of a word becomes a final sigma. A phrase without a small sigma is found
in a text regardless of it.

## Implementation notes

Whether a sigma ends a word is told from all that stands around it. The rule is a parameter here,
since what is proved holds for every rule.
-/

namespace UnlockProof.Text

variable {phrase cs ds before : List Char} {c : Char}

/-- An ASCII character and its lower case are ASCII, and no other character has another lower case
than itself here. -/
theorem toLower_cases (c : Char) :
    c.toNat < 0x80 ∧ c.toLower.toNat < 0x80 ∧ c.toLower.toLower = c.toLower ∨
      0x80 ≤ c.toNat ∧ c.toLower = c := by
  by_cases hc : c.toNat < 0x80
  · have hascii : ∀ n < 0x80, (Char.ofNat n).toLower.toNat < 0x80 ∧
        (Char.ofNat n).toLower.toLower = (Char.ofNat n).toLower := by decide
    have hlower := hascii c.toNat hc
    rw [c.ofNat_toNat] at hlower
    exact .inl ⟨hc, hlower⟩
  · refine .inr ⟨Nat.le_of_not_lt hc, dif_neg ?_⟩
    rintro ⟨-, hz⟩
    have hz : c.toNat ≤ 'Z'.toNat := hz
    have hbound : 'Z'.toNat < 0x80 := by decide
    omega

theorem lowerChar_toLower (c : Char) : lowerChar c.toLower = lowerChar c := by
  rcases toLower_cases c with ⟨hc, hlower, htwice⟩ | ⟨-, hsame⟩
  · simp only [lowerChar, hc, hlower, htwice, if_true]
  · rw [hsame]

/-- The case of ASCII letters does not show in the lower case of a text. -/
theorem lower_map_toLower (cs : List Char) : lower (cs.map Char.toLower) = lower cs := by
  rw [lower, List.flatMap_map]
  exact List.flatMap_congr fun c _ => lowerChar_toLower c

theorem lower_eq_of_map_toLower_eq (h : cs.map Char.toLower = ds.map Char.toLower) :
    lower cs = lower ds := by
  rw [← lower_map_toLower cs, h, lower_map_toLower]

/-- The lower case of a part is a part of the lower case. -/
theorem lower_isInfix (h : cs <:+: ds) : lower cs <:+: lower ds := h.flatMap lowerChar

/-- Tells whether a sigma ends a word, from what stands in front of it, the last character first,
and from what follows it. -/
abbrev WordEnd := List Char → List Char → Bool

/-- The lower case of what follows some characters, of which the last stands first. -/
def lowerAfter (ends : WordEnd) (before : List Char) : List Char → List Char
  | [] => []
  | c :: cs =>
      (if c = 'Σ' ∧ ends before cs = true then ['ς'] else lowerChar c)
        ++ lowerAfter ends (c :: before) cs

/-- The lower case of a text with final sigmas at the ends of its words. -/
def lowerWithFinals (ends : WordEnd) (cs : List Char) : List Char := lowerAfter ends [] cs

/-- Takes a final sigma for the other small sigma. -/
def mergeSigmas (c : Char) : Char := if c = 'ς' then 'σ' else c

theorem lowerChar_sigma : lowerChar 'Σ' = ['σ'] := by decide

theorem map_mergeSigmas_lowerAfter (ends : WordEnd) (before cs : List Char) :
    (lowerAfter ends before cs).map mergeSigmas = (lower cs).map mergeSigmas := by
  induction cs generalizing before with
  | nil => rfl
  | cons c cs ih =>
      have hcons : lower (c :: cs) = lowerChar c ++ lower cs := rfl
      rw [lowerAfter, hcons, List.map_append, List.map_append, ih]
      split
      case isTrue hfinal =>
        rw [hfinal.1, lowerChar_sigma]
        rfl
      case isFalse => rfl

/-- Without small sigmas a phrase stands where it stands when they are all taken for one. -/
theorem isInfix_map_mergeSigmas_iff (hsigma : 'σ' ∉ phrase) (hfinal : 'ς' ∉ phrase) :
    phrase <:+: cs.map mergeSigmas ↔ phrase <:+: cs := by
  have hkeep : ∀ l : List Char, 'ς' ∉ l → l.map mergeSigmas = l := by
    intro l hl
    have hsame : ∀ c ∈ l, mergeSigmas c = c := fun c hc => if_neg (ne_of_mem_of_not_mem hc hl)
    rw [List.map_congr_left hsame, List.map_id']
  rw [List.infix_map_iff]
  constructor
  · rintro ⟨part, hpart, rfl⟩
    -- A final sigma in the part would have been merged into a sigma of the phrase.
    have hpart' : 'ς' ∉ part := fun hmem => hsigma (List.mem_map_of_mem hmem)
    rwa [hkeep part hpart']
  · intro h
    exact ⟨phrase, h, (hkeep phrase hfinal).symm⟩

/-- Final sigmas do not matter to a phrase without small sigmas. -/
theorem isInfix_lowerWithFinals_iff (ends : WordEnd) (hsigma : 'σ' ∉ phrase)
    (hfinal : 'ς' ∉ phrase) : phrase <:+: lowerWithFinals ends cs ↔ phrase <:+: lower cs := by
  rw [← isInfix_map_mergeSigmas_iff hsigma hfinal, lowerWithFinals, map_mergeSigmas_lowerAfter,
    isInfix_map_mergeSigmas_iff hsigma hfinal]

end UnlockProof.Text

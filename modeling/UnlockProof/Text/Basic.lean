import UnlockProof.Bytes

/-!
# Characters and their bytes

The UTF-8 bytes of a text, the character with the number of a byte, the parts of a text, texts
without white space at their ends, and tables of code points. White space are the characters with
the property White_Space, so zero-width characters are not.
-/

namespace UnlockProof.Text

/-- The UTF-8 bytes of a list of characters. -/
def utf8 (cs : List Char) : Bytes := cs.flatMap String.utf8EncodeChar

/-- The character whose code point is the value of a byte. -/
def latin1 (b : UInt8) : Char := Char.ofNat b.toNat

/-- The digits of a number in lower-case hexadecimal, without leading zeros. -/
def hexDigits (n : Nat) : List Char := Nat.toDigits 16 n

/-- The parts of a text between its separators. -/
def splitOn (separator : Char → Bool) : List Char → List (List Char)
  | [] => [[]]
  | c :: cs =>
      if separator c then [] :: splitOn separator cs
      else match splitOn separator cs with
        | [] => [[c]]
        | part :: parts => (c :: part) :: parts

theorem splitOn_ne_nil (separator : Char → Bool) (cs : List Char) :
    splitOn separator cs ≠ [] := by
  cases cs with
  | nil => simp [splitOn]
  | cons c cs =>
      unfold splitOn
      split
      · simp
      · split <;> simp

/-- No part holds a separator. -/
theorem separator_of_mem_splitOn {separator : Char → Bool} {cs part : List Char}
    (hpart : part ∈ splitOn separator cs) : ∀ c ∈ part, separator c = false := by
  induction cs generalizing part with
  | nil => simp_all [splitOn]
  | cons c cs ih =>
      unfold splitOn at hpart
      split at hpart
      case isTrue =>
        rcases List.mem_cons.1 hpart with rfl | hmem
        · simp
        · exact ih hmem
      case isFalse hc =>
        split at hpart
        case h_1 heq => exact absurd heq (splitOn_ne_nil separator cs)
        case h_2 first rest heq =>
          rw [heq] at ih
          rcases List.mem_cons.1 hpart with rfl | hmem
          · intro d hd
            rcases List.mem_cons.1 hd with rfl | hd
            · simpa using hc
            · exact ih (by simp) d hd
          · exact ih (by simp [hmem])

/-- Tells whether a character is white space. -/
def isBlank (c : Char) : Bool :=
  let n := c.toNat
  (0x09 ≤ n && n ≤ 0x0d) || n == 0x20 || n == 0x85 || n == 0xa0 || n == 0x1680
    || (0x2000 ≤ n && n ≤ 0x200a) || n == 0x2028 || n == 0x2029 || n == 0x202f || n == 0x205f
    || n == 0x3000

/-- Removes white space from both ends. -/
def trimmed (cs : List Char) : List Char :=
  ((cs.dropWhile isBlank).reverse.dropWhile isBlank).reverse

/-- A text without the white space at its ends. -/
def trim (s : String) : String := String.ofList (trimmed s.toList)

@[simp] theorem toList_trim (s : String) : (trim s).toList = trimmed s.toList := by
  simp [trim]

/-- Tells whether a code point lies in one of the inclusive ranges. -/
def inRanges (ranges : List (Nat × Nat)) (n : Nat) : Bool :=
  ranges.any fun r => decide (r.1 ≤ n) && decide (n ≤ r.2)

/-- Code points at equal steps that one distance takes to their images. -/
structure Run where
  first : Nat
  last : Nat
  step : Nat
  /-- The image of the first code point. -/
  image : Nat

/-- The image of a code point that lies in one of the runs. -/
def imageIn (runs : List Run) (n : Nat) : Option Nat :=
  let covers (r : Run) : Bool := r.first ≤ n && n ≤ r.last && (n - r.first) % r.step == 0
  (runs.find? covers).map fun r => r.image + (n - r.first)

end UnlockProof.Text

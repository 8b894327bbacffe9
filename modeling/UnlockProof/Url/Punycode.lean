/-!
# Punycode

Writes a text as its ASCII characters followed by the others, which are told by their distances.
The others are taken in the order of their code points; a distance counts how many places of how
many code points lie between one insertion and the next. Distances are written in base 36 with a
threshold for the last digit that adapts to the distances so far.

## Implementation notes

A digit below the threshold of its place ends a number. The threshold lies between 1 and 26, so
each further digit divides what is left, and the numbers end.
-/

namespace UnlockProof.Url.Punycode

/-- The character of a digit below 36. -/
def digit (n : Nat) : Char :=
  if n < 26 then Char.ofNat ('a'.toNat + n) else Char.ofNat ('0'.toNat + n - 26)

/-- The value of a digit of either case. -/
def value? (c : Char) : Option Nat :=
  if 'a' ≤ c && c ≤ 'z' then some (c.toNat - 'a'.toNat)
  else if 'A' ≤ c && c ≤ 'Z' then some (c.toNat - 'A'.toNat)
  else if '0' ≤ c && c ≤ '9' then some (c.toNat - '0'.toNat + 26)
  else none

/-- The threshold of the `place`-th digit, counted in steps of 36. -/
def threshold (bias place : Nat) : Nat := max 1 (min 26 (place - bias))

theorem threshold_pos (bias place : Nat) : 1 ≤ threshold bias place := by
  unfold threshold; omega

/-- Divides a distance until it is small and counts the steps of 36. -/
def settle (steps distance : Nat) : Nat :=
  if 455 < distance then settle (steps + 36) (distance / 35)
  else steps + 36 * distance / (distance + 38)
termination_by distance
decreasing_by exact Nat.div_lt_self (by omega) (by omega)

/-- The bias after a distance, when `count` characters are placed. -/
def adapt (isFirst : Bool) (distance count : Nat) : Nat :=
  let scaled := if isFirst then distance / 700 else distance / 2
  settle 0 (scaled + scaled / count)

/-- The digits of a number from the given place on. -/
def encodeNumber (bias place n : Nat) : List Char :=
  let t := threshold bias place
  if n < t then [digit n]
  else digit (t + (n - t) % (36 - t)) :: encodeNumber bias (place + 36) ((n - t) / (36 - t))
termination_by n
decreasing_by
  have := threshold_pos bias place
  have := Nat.div_le_self (n - threshold bias place) (36 - threshold bias place)
  omega

/-- How far an encoding has come. -/
structure Progress where
  /-- The digits so far. -/
  digits : List Char
  /-- The places passed since the last insertion. -/
  distance : Nat
  bias : Nat
  /-- The characters placed. -/
  count : Nat

/-- Passes a character of the text while the code point `n` is inserted. -/
def pass (ascii n : Nat) (p : Progress) (c : Char) : Progress :=
  if c.toNat < n then { p with distance := p.distance + 1 }
  else if c.toNat = n then
    ⟨p.digits ++ encodeNumber p.bias 36 p.distance, 0,
      adapt (p.count == ascii) p.distance (p.count + 1), p.count + 1⟩
  else p

/-- Inserts the code points of a list in rising order, after those below `n`. -/
def insertAll (text : List Char) (ascii : Nat) : List Nat → Nat → Progress → Progress
  | [], _, p => p
  | m :: rest, n, p =>
      let start := { p with distance := p.distance + (m - n) * (p.count + 1) }
      let done := text.foldl (pass ascii m) start
      insertAll text ascii rest (m + 1) { done with distance := done.distance + 1 }

/-- Tells whether a character is ASCII. -/
def isAscii (c : Char) : Bool := c.toNat < 0x80

/-- Encodes a text. -/
def encode (text : List Char) : List Char :=
  let ascii := text.filter isAscii
  let others := ((text.filter fun c => !isAscii c).map Char.toNat).mergeSort.eraseDups
  ascii ++ (if ascii.isEmpty then [] else ['-'])
    ++ (insertAll text ascii.length others 0x80 ⟨[], 0, 72, ascii.length⟩).digits

/-- Reads a number: its sum with `base` and the digits that follow it. The sum and the weight of
each digit must fit into 32 bits. -/
def decodeNumber (bias place weight base : Nat) : List Char → Option (Nat × List Char)
  | [] => none
  | c :: rest =>
      match value? c with
      | none => none
      | some d =>
          let t := threshold bias place
          let sum := base + d * weight
          if UInt32.size ≤ sum then none
          else if d < t then some (sum, rest)
          else if UInt32.size ≤ weight * (36 - t) then none
          else decodeNumber bias (place + 36) (weight * (36 - t)) sum rest

theorem length_of_decodeNumber {bias place weight base n : Nat} {cs rest : List Char}
    (h : decodeNumber bias place weight base cs = some (n, rest)) : rest.length < cs.length := by
  induction cs generalizing place weight base with
  | nil => simp [decodeNumber] at h
  | cons c cs ih =>
      unfold decodeNumber at h
      split at h
      · cases h
      · simp only at h
        split at h
        · cases h
        · split at h
          · cases h; simp
          · split at h
            · cases h
            · have := ih h; simp only [List.length_cons]; omega

/-- Inserts the characters that are told by the distances of a list into a text. -/
def decodeFrom (bias n place : Nat) (text digits : List Char) : Option (List Char) :=
  match digits with
  | [] => some text
  | c :: cs =>
      match h : decodeNumber bias 36 1 place (c :: cs) with
      | none => none
      | some (total, rest) =>
          let count := text.length + 1
          let m := n + total / count
          let place' := total % count
          if m.isValidChar then
            decodeFrom (adapt (place == 0) (total - place) count) m (place' + 1)
              (text.insertIdx place' (Char.ofNat m)) rest
          else none
termination_by digits.length
decreasing_by
  have := length_of_decodeNumber h
  simpa using this

/-- Decodes a text; the last hyphen separates its ASCII characters from the distances. A hyphen
has such characters before it. -/
def decode (cs : List Char) : Option (List Char) :=
  let back := cs.reverse
  let digits := (back.takeWhile (· ≠ '-')).reverse
  let ascii := ((back.dropWhile (· ≠ '-')).drop 1).reverse
  if cs.head? = some '-' && ascii.isEmpty then none
  else if ascii.all isAscii then decodeFrom 72 0x80 0 ascii digits
  else none

end UnlockProof.Url.Punycode

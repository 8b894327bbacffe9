import UnlockProof.Decimal.Shortest

/-!
# JSON numbers

A literal without fraction and exponent is a natural number below `2 ^ 64` or a negative whole
number from `-2 ^ 63` on; every other literal is a double. Minus zero is a double.

## Implementation notes

A double is built from at most the digits that fit in 64 bits, scaled by powers of ten that are
themselves doubles. The result may differ from the closest double in the last place.
-/

namespace UnlockProof.Json
open UnlockProof.Decimal

/-- A number; `negative n` is `-(n + 1)`. -/
inductive Number where
  | natural (n : UInt64)
  | negative (n : Fin (UInt64.size / 2))
  | double (isNegative : Bool) (magnitude : Magnitude)
deriving DecidableEq

namespace Number

/-- Doubles are written positionally from `10 ^ -5` up to below `10 ^ 16`. -/
def layout : Layout := ⟨-5, 15, 2⟩

/-- The text of a number. -/
def render : Number → List Char
  | natural n => Nat.toDigits 10 n.toNat
  | negative n => '-' :: Nat.toDigits 10 (n.val + 1)
  | double isNegative m => (if isNegative then ['-'] else []) ++ layout.write m.shortest

/-- The natural number below `2 ^ 64` that a number is, if it is one. -/
def toUInt64? : Number → Option UInt64
  | natural n => some n
  | _ => none

/-- The whole number from `-2 ^ 63` to `2 ^ 63 - 1` that a number is, if it is one. -/
def toInt64? : Number → Option Int64
  | natural n => if n.toNat < UInt64.size / 2 then some (Int64.ofNat n.toNat) else none
  | negative n => some (Int64.ofInt (-(n.val + 1 : Int)))
  | double .. => none

/-- The number `-(n + 1)`, which is in range for `n` below half the 64-bit numbers. -/
def ofNegSucc (n : Nat) : Number :=
  negative ⟨n % (UInt64.size / 2), Nat.mod_lt n (by decide)⟩

/-- The number of a whole number in the range of 64-bit signed numbers. -/
def ofInt64 (i : Int64) : Number :=
  match i.toInt with
  | .ofNat n => natural (UInt64.ofNat n)
  | .negSucc n => ofNegSucc n

end Number

/-- The parts of a number literal: its sign, digits, fraction digits and exponent. -/
structure Literal where
  isNegative : Bool
  whole : List Nat
  fraction : Option (List Nat)
  exponent : Option (Bool × List Nat)

namespace Literal

/-- Appends digits to a number as long as it stays below `2 ^ 64`; the digits left over follow. -/
def significand (n : Nat) : List Nat → Nat × List Nat
  | [] => (n, [])
  | d :: rest => if n * 10 + d < UInt64.size then significand (n * 10 + d) rest else (n, d :: rest)

/-- Scales a magnitude by a power of ten. Powers below `10 ^ -308` are reached in several steps. -/
def scale (m : Magnitude) (exponent : Int) : Option Magnitude :=
  if exponent < -308 then
    if m.mantissa = 0 then some m
    else (do m.dividedBy (← Magnitude.ofNat (Nat.pow 10 308))) >>= fun m => scale m (exponent + 308)
  else if exponent < 0 then do m.dividedBy (← Magnitude.ofNat (Nat.pow 10 exponent.natAbs))
  else if exponent ≤ 308 then do m.times (← Magnitude.ofNat (Nat.pow 10 exponent.natAbs))
  else if m.mantissa = 0 then some m
  else none
termination_by (-exponent).toNat
decreasing_by omega

/-- The number that digits spell. -/
def natOfDigits (ds : List Nat) : Nat := ds.foldl (fun n d => n * 10 + d) 0

/-- The magnitude of a literal that is a double; none if it is too large. -/
def magnitude (l : Literal) : Option Magnitude :=
  let (n, left) := significand 0 l.whole
  let fraction := l.fraction.getD []
  let (n, beyond) := significand n fraction
  let start : Int := (left.length : Int) - ((fraction.length - beyond.length : Nat) : Int)
  match l.exponent with
  | none => Magnitude.ofNat n >>= (scale · start)
  | some (isNegative, ds) =>
      let e := natOfDigits ds
      if e ≥ UInt32.size / 2 then if n ≠ 0 && !isNegative then none else some .zero
      else Magnitude.ofNat n >>= (scale · (if isNegative then start - e else start + e))

/-- The number of a literal; none if it is a double too large to hold. -/
def toNumber (l : Literal) : Option Number :=
  let n := natOfDigits l.whole
  if l.fraction.isSome || l.exponent.isSome || n ≥ UInt64.size then
    l.magnitude.map (.double l.isNegative)
  else if !l.isNegative then some (.natural (UInt64.ofNat n))
  else if 0 < n && n ≤ UInt64.size / 2 then some (.ofNegSucc (n - 1))
  else (Magnitude.ofNat n).map (.double true)

end Literal
end UnlockProof.Json

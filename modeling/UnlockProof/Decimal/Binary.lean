/-!
# Binary floating-point magnitudes

A finite double without its sign is a 53-bit whole number times a power of two. Sums are not
needed here; products and quotients are the exact results rounded to the nearest magnitude.

## Implementation notes

All arithmetic is exact arithmetic on natural numbers. The exponent never falls below -1074, and
the mantissa has its 53rd bit set unless the exponent is -1074, so each magnitude has one form.
-/

namespace UnlockProof.Decimal

/-- The least mantissa that has its 53rd bit set. -/
def leastNormal : Nat := Nat.pow 2 52

/-- The magnitude `mantissa * 2 ^ exponent`. -/
structure Magnitude where
  mantissa : Nat
  exponent : Int
deriving DecidableEq

namespace Magnitude

/-- The magnitude of zero. -/
def zero : Magnitude := ⟨0, -1074⟩

/-- The whole number closest to a quotient; a half goes to the even neighbour. -/
def nearestQuotient (num den : Nat) : Nat :=
  let q := num / den
  let twice := 2 * (num % den)
  if twice < den || (twice == den && q % 2 == 0) then q else q + 1

/-- Multiplies a quotient by a power of two, as a pair of numerator and denominator. -/
def scaled (num den : Nat) (exponent : Int) : Nat × Nat :=
  match exponent with
  | .ofNat k => (num * Nat.pow 2 k, den)
  | .negSucc k => (num, den * Nat.pow 2 (k + 1))

/-- The magnitude closest to a quotient, if the quotient is not too large for one. -/
def ofQuotient (num den : Nat) : Option Magnitude :=
  if num = 0 then some zero else
  let estimate : Int := (num.log2 : Int) - (den.log2 : Int) - 52
  let top := scaled num den (-estimate)
  let exponent := max (-1074) (if top.1 / top.2 < leastNormal then estimate - 1 else estimate)
  let parts := scaled num den (-exponent)
  let mantissa := nearestQuotient parts.1 parts.2
  let rounded : Magnitude :=
    if mantissa = 2 * leastNormal then ⟨leastNormal, exponent + 1⟩ else ⟨mantissa, exponent⟩
  if rounded.exponent > 971 then none else some rounded

/-- The exact value of a magnitude as a quotient. -/
def toQuotient (m : Magnitude) : Nat × Nat := scaled m.mantissa 1 m.exponent

/-- The rounded product, if it is not too large. -/
def times (a b : Magnitude) : Option Magnitude :=
  let p := a.toQuotient
  let q := b.toQuotient
  ofQuotient (p.1 * q.1) (p.2 * q.2)

/-- The rounded quotient by a magnitude that is not zero, if it is not too large. -/
def dividedBy (a b : Magnitude) : Option Magnitude :=
  let p := a.toQuotient
  let q := b.toQuotient
  ofQuotient (p.1 * q.2) (p.2 * q.1)

/-- The magnitude closest to a natural number. -/
def ofNat (n : Nat) : Option Magnitude := ofQuotient n 1

end Magnitude
end UnlockProof.Decimal

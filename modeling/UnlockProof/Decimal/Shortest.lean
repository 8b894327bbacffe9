import UnlockProof.Decimal.Binary

/-!
# The shortest decimal of a magnitude

Among the decimals that round to a magnitude, the one with the fewest digits is chosen, and
among those the closest to it.

## Implementation notes

The decimals that round to `m * 2 ^ e` fill an interval around it that reaches halfway to its
neighbours; the ends belong to it when `m` is even. For one, two, … seventeen digits the two grid
points next to the magnitude are tried, all in exact arithmetic on multiples of one unit.
-/

namespace UnlockProof.Decimal

/-- Digits `d₀ d₁ …` that stand for `d₀.d₁… * 10 ^ exponent`. -/
structure Scientific where
  digits : List Char
  exponent : Int

/-- The interval around a magnitude: four times its numerator, its ends and the denominator. -/
structure Interval where
  low : Nat
  value : Nat
  high : Nat
  den : Nat
  closed : Bool

/-- The interval of the numbers that round to a magnitude. -/
def Magnitude.interval (m : Magnitude) : Interval :=
  let unit := Magnitude.scaled 1 4 m.exponent
  let below := if m.mantissa = leastNormal && m.exponent > -1074 then 1 else 2
  ⟨(4 * m.mantissa - below) * unit.1, 4 * m.mantissa * unit.1, (4 * m.mantissa + 2) * unit.1,
    unit.2, m.mantissa % 2 == 0⟩

namespace Interval

/-- Tells whether `num / den` lies in the interval. -/
def holds (i : Interval) (num den : Nat) : Bool :=
  let x := num * i.den
  (i.low * den < x && x < i.high * den) || (i.closed && (x == i.low * den || x == i.high * den))

/-- The distance of `num / den` from the middle, times a number that depends on `den` alone. -/
def distance (i : Interval) (num den : Nat) : Nat :=
  let x := num * i.den
  let v := i.value * den
  if x < v then v - x else x - v

/-- The grid point `n * 10 ^ exponent` as a quotient. -/
def gridPoint (n : Nat) : Int → Nat × Nat
  | .ofNat k => (n * Nat.pow 10 k, 1)
  | .negSucc k => (n, Nat.pow 10 (k + 1))

/-- The better of the two points of a grid that stand next to the middle, if one lies inside. -/
def onGrid (i : Interval) (exponent : Int) : Option Nat :=
  let unit := gridPoint 1 exponent
  let floor := i.value * unit.2 / (i.den * unit.1)
  let lower := (floor * unit.1, unit.2)
  let upper := ((floor + 1) * unit.1, unit.2)
  match i.holds lower.1 lower.2, i.holds upper.1 upper.2 with
  | true, true =>
      let down := i.distance lower.1 lower.2
      let up := i.distance upper.1 upper.2
      some (if down < up || (down == up && floor % 2 == 0) then floor else floor + 1)
  | true, false => some floor
  | false, true => some (floor + 1)
  | false, false => none

/-- The greatest `k` with `10 ^ k` at most the middle, sought downwards from a start. -/
def tenPower (i : Interval) : Nat → Int → Int
  | 0, k => k
  | fuel + 1, k =>
      let p := gridPoint 1 k
      if p.1 * i.den ≤ i.value * p.2 then k else tenPower i fuel (k - 1)

/-- Tries grids with more and more digits. -/
def firstHit (i : Interval) (top : Int) : List Nat → Nat × Int
  | [] => (0, 0)
  | n :: more =>
      match i.onGrid (top - n) with
      | some d => (d, top - n)
      | none => firstHit i top more

end Interval

/-- The shortest decimal that rounds to a magnitude. -/
def Magnitude.shortest (m : Magnitude) : Scientific :=
  if m.mantissa = 0 then ⟨['0'], 0⟩ else
  let i := m.interval
  let top := i.tenPower 700 309
  let hit := i.firstHit top (List.range 17)
  let digits := Nat.toDigits 10 hit.1
  ⟨(digits.reverse.dropWhile (· == '0')).reverse, hit.2 + (digits.length - 1 : Nat)⟩

/-- How a scientific decimal is laid out: which exponents are written positionally and how many
digits an exponent has at least. -/
structure Layout where
  least : Int
  greatest : Int
  exponentWidth : Nat

/-- Writes a decimal. A positional number always has a point; an exponent always has a sign. -/
def Layout.write (l : Layout) (s : Scientific) : List Char :=
  if l.least ≤ s.exponent && s.exponent ≤ l.greatest then
    match s.exponent with
    | .ofNat x =>
        if s.digits.length ≤ x + 1 then
          s.digits ++ List.replicate (x + 1 - s.digits.length) '0' ++ ['.', '0']
        else s.digits.take (x + 1) ++ '.' :: s.digits.drop (x + 1)
    | .negSucc x => '0' :: '.' :: List.replicate x '0' ++ s.digits
  else
    let exponent := Nat.toDigits 10 s.exponent.natAbs
    let fraction := s.digits.drop 1
    s.digits.take 1 ++ (if fraction.isEmpty then [] else '.' :: fraction)
      ++ 'e' :: (if s.exponent < 0 then '-' else '+')
      :: List.replicate (l.exponentWidth - exponent.length) '0' ++ exponent

end UnlockProof.Decimal

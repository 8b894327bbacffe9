import UnlockProof.Json.Value
import UnlockProof.Text.Basic
import UnlockProof.Text.Quoted

/-!
# Quantities

Endpoints write a number as a JSON number, as decimal text or as hexadecimal text after `0x`.
All forms are read as one 256-bit number.

## Implementation notes

An underscore between or around digits is skipped. Hexadecimal digits are looked at from the last
to the first, and a digit other than zero above the 64th is too large. Decimal digits are looked
at from the first to the last and gathered in groups of 19; whether the number is too large shows
when a group is full and at the end. Of several faults the one that is met first counts. A byte of
a character beyond ASCII is shown as the character with its number.
-/

namespace UnlockProof

/-- A number as it stands in a document. -/
inductive Quantity where
  | number (n : Json.Number)
  | text (s : String)
deriving DecidableEq

namespace Quantity

/-- Why digits spell no 256-bit number. -/
inductive DigitFault where
  | badDigit (byte : UInt8)
  | tooLarge
deriving DecidableEq

/-- The text of a fault. -/
def DigitFault.message : DigitFault → String
  | badDigit byte => String.ofList ("invalid digit: ".toList ++ [Text.latin1 byte])
  | tooLarge => "the value is too large to fit the target type"

/-- The value of a digit below a radix, in either case. -/
def digit? (radix : Nat) (b : UInt8) : Option Nat :=
  let n := b.toNat
  let d := if 0x30 ≤ n ∧ n ≤ 0x39 then n - 0x30
    else if 0x61 ≤ n ∧ n ≤ 0x7a then n - 0x61 + 10
    else if 0x41 ≤ n ∧ n ≤ 0x5a then n - 0x41 + 10
    else radix
  if d < radix then some d else none

/-- The byte that is skipped. -/
def underscore : UInt8 := 0x5f

/-- Reads hexadecimal digits, the last first; `place` digits come after them. -/
def readHex (place : Nat) : Bytes → Except DigitFault Nat
  | [] => .ok 0
  | b :: rest =>
      if b = underscore then readHex place rest
      else match digit? 16 b with
        | none => .error (.badDigit b)
        | some d =>
            if 64 ≤ place ∧ d ≠ 0 then .error .tooLarge
            else (readHex (place + 1) rest).map (d * Nat.pow 16 place + ·)

/-- The number of digits in a group. -/
def groupSize : Nat := 19

/-- Appends a group of digits to a number. -/
def joinGroup (value group count : Nat) : Except DigitFault Nat :=
  let n := value * Nat.pow 10 count + group
  if n < U256.size then .ok n else .error .tooLarge

/-- Reads decimal digits after `value`, of which `group` are the last `count`, not yet joined. -/
def readDecimal (value group count : Nat) : Bytes → Except DigitFault Nat
  | [] => joinGroup value group count
  | b :: rest =>
      if b = underscore then readDecimal value group count rest
      else match digit? 10 b with
        | none => .error (.badDigit b)
        | some d =>
            if count + 1 = groupSize then
              match joinGroup value (group * 10 + d) (count + 1) with
              | .error f => .error f
              | .ok n => readDecimal n 0 0 rest
            else readDecimal value (group * 10 + d) (count + 1) rest

/-- The characters after the mark `0x` or `0X`, if there is one. -/
def unmarked? : List Char → Option (List Char)
  | '0' :: 'x' :: rest => some rest
  | '0' :: 'X' :: rest => some rest
  | _ => none

/-- Why a quantity is no 256-bit number. Texts are shown without white space at their ends. -/
inductive Fault where
  | notNatural (n : Json.Number)
  | empty
  | digits (shown : String) (fault : DigitFault)
deriving DecidableEq

/-- The text of a fault. -/
def Fault.message : Fault → String
  | notNatural n =>
      let shown := String.ofList n.render
      s!"{shown} is not a non-negative integer"
  | empty => "empty string"
  | digits shown fault => Text.quoted shown ++ ": " ++ fault.message

/-- Reads the digits of a text without white space at its ends; the mark alone is zero. -/
def readDigits (cs : List Char) : Except Fault Nat :=
  let named := Except.mapError (Fault.digits (String.ofList cs))
  match unmarked? cs with
  | some ds => named (readHex 0 (Text.utf8 ds).reverse)
  | none => if cs.isEmpty then .error .empty else named (readDecimal 0 0 0 (Text.utf8 cs))

/-- The number that a quantity stands for. -/
def read : Quantity → Except Fault U256
  | number n =>
      match n.toUInt64? with
      | some v => .ok (BitVec.ofNat 256 v.toNat)
      | none => .error (.notNatural n)
  | text s => (readDigits (Text.trimmed s.toList)).map (BitVec.ofNat 256)

/-- A quantity as a JSON value. -/
def toValue : Quantity → Json.Value
  | number n => .number n
  | text s => .string s

end Quantity
end UnlockProof

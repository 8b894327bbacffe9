import UnlockProof.Text.Basic

/-!
# IP addresses

Addresses of 32 bits in one to four parts, each in base 8, 10 or 16, and addresses of 128 bits in
eight groups, of which a run of zeros may be left out and the last two may be written as an
address of 32 bits. Both are shown in one form only.
-/

namespace UnlockProof.Url

/-- The value of a digit below 16. -/
def digitValue? (c : Char) : Option Nat :=
  if '0' ≤ c && c ≤ '9' then some (c.toNat - '0'.toNat)
  else if 'a' ≤ c && c ≤ 'f' then some (c.toNat - 'a'.toNat + 10)
  else if 'A' ≤ c && c ≤ 'F' then some (c.toNat - 'A'.toNat + 10)
  else none

/-- The number that digits of a base spell. -/
def spelledIn (base : Nat) (ds : List Char) : Option Nat :=
  ds.foldlM (fun n c => do
    let d ← digitValue? c
    if d < base then some (n * base + d) else none) 0

namespace Ipv4

/-- The number that a part of an address spells; the mark of a base alone is zero. -/
def part? : List Char → Option Nat
  | [] => none
  | '0' :: 'x' :: ds | '0' :: 'X' :: ds => spelledIn 16 ds
  | '0' :: d :: ds => spelledIn 8 (d :: ds)
  | ds => spelledIn 10 ds

/-- The parts of an address; a full stop at its end does not count. -/
def parts (name : List Char) : List (List Char) :=
  match (Text.splitOn (· == '.') name).reverse with
  | [] :: rest => rest.reverse
  | all => all.reverse

/-- Tells whether a domain name can only be meant as an address. -/
def isMeant (name : List Char) : Bool :=
  match (parts name).getLast? with
  | none => false
  | some last => (!last.isEmpty && last.all fun c => '0' ≤ c && c ≤ '9') || (part? last).isSome

/-- Reads an address. The last part fills the bytes that the others leave. -/
def parse (name : List Char) : Option Nat := do
  let numbers ← (parts name).mapM part?
  let last ← numbers.getLast?
  let first := numbers.dropLast
  if 3 < first.length || Nat.pow 256 (4 - first.length) ≤ last || first.any (255 < ·) then none
  else some (first.foldl (fun n p => n * 256 + p) 0 * Nat.pow 256 (4 - first.length) + last)

/-- The text of an address. -/
def text (n : Nat) : List Char :=
  let byte (k : Nat) := Nat.toDigits 10 (n / Nat.pow 256 k % 256)
  byte 3 ++ '.' :: byte 2 ++ '.' :: byte 1 ++ '.' :: byte 0

end Ipv4

namespace Ipv6

/-- A group of one to four hexadecimal digits. -/
def group? (ds : List Char) : Option Nat :=
  if ds.isEmpty || 4 < ds.length then none else spelledIn 16 ds

/-- A part of an address inside an address: at most 255, without leading zeros. -/
def byte? (ds : List Char) : Option Nat :=
  match ds with
  | [] => none
  | '0' :: _ :: _ => none
  | _ => (spelledIn 10 ds).filter (· ≤ 255)

/-- The two groups that an address of 32 bits fills. -/
def embedded? (cs : List Char) : Option (List Nat) :=
  match (Text.splitOn (· == '.') cs).mapM byte? with
  | some [a, b, c, d] => some [a * 256 + b, c * 256 + d]
  | _ => none

/-- The groups of a text. Only the last may be an address of 32 bits, and only if it is allowed. -/
def groups? (allowEmbedded : Bool) (cs : List Char) : Option (List Nat) :=
  if cs.isEmpty then some []
  else
    let pieces := Text.splitOn (· == ':') cs
    match pieces.getLast? with
    | some last =>
        if allowEmbedded && last.contains '.' then do
          return (← pieces.dropLast.mapM group?) ++ (← embedded? last)
        else pieces.mapM group?
    | none => none

/-- The text before the first two colons in a row and the text after them. -/
def splitAtGap : List Char → Option (List Char × List Char)
  | ':' :: ':' :: rest => some ([], rest)
  | c :: rest => (splitAtGap rest).map fun (before, after) => (c :: before, after)
  | [] => none

/-- Reads an address as its eight groups. Two colons stand for at least one group. -/
def parse (cs : List Char) : Option (List Nat) :=
  match splitAtGap cs with
  | none => (groups? true cs).filter fun gs => gs.length == 8
  | some (before, after) => do
      let first ← groups? false before
      let last ← groups? true after
      if 7 < first.length + last.length then none
      else some (first ++ List.replicate (8 - first.length - last.length) 0 ++ last)

/-- The number of zeros at the start of a list. -/
def zeros (gs : List Nat) : Nat := (gs.takeWhile (· == 0)).length

/-- The place and the length of the first longest run of at least two zeros. -/
def longestGap (gs : List Nat) : Option (Nat × Nat) :=
  (List.range gs.length).foldl (fun best place =>
    let length := zeros (gs.drop place)
    if length < 2 then best
    else match best with
      | some (_, most) => if most < length then some (place, length) else best
      | none => some (place, length)) none

/-- Groups with colons between them. -/
def joined (gs : List Nat) : List Char :=
  ((gs.map Text.hexDigits).intersperse [':']).flatten

/-- The text of an address. -/
def text (gs : List Nat) : List Char :=
  match longestGap gs with
  | none => joined gs
  | some (place, length) =>
      joined (gs.take place) ++ ':' :: ':' :: joined (gs.drop (place + length))

end Ipv6
end UnlockProof.Url

import UnlockProof.Bytes

/-!
# The Keccak-256 hash

The sponge with a 1088-bit rate and padding without domain bits, as used for block hashes,
trie nodes and storage slots. What a hash vouches for holds unless two different byte strings with
the same hash are at hand. The strings are always among those that a statement names, so the
exception is a concrete find and not the mere existence of collisions.

## Implementation notes

The state is five planes of five 64-bit lanes. Every step of a round is a map over planes or
lanes, so no step computes an index; the moves along a plane are cyclic shifts of five places.
-/

namespace UnlockProof.Keccak

/-- Five values in a cycle. -/
structure Five (α : Type) where
  fst : α
  snd : α
  trd : α
  fth : α
  lst : α
deriving DecidableEq

namespace Five
variable {α β γ : Type}

/-- Five copies of one value. -/
def replicate (a : α) : Five α := ⟨a, a, a, a, a⟩

/-- Applies a function to each value. -/
def map (f : α → β) (v : Five α) : Five β := ⟨f v.fst, f v.snd, f v.trd, f v.fth, f v.lst⟩

/-- Combines the values that stand at the same place. -/
def zipWith (f : α → β → γ) (v : Five α) (w : Five β) : Five γ :=
  ⟨f v.fst w.fst, f v.snd w.snd, f v.trd w.trd, f v.fth w.fth, f v.lst w.lst⟩

/-- Moves each value one place back, the first to the end. -/
def next (v : Five α) : Five α := ⟨v.snd, v.trd, v.fth, v.lst, v.fst⟩

/-- Moves each value one place forward, the last to the front. -/
def previous (v : Five α) : Five α := ⟨v.lst, v.fst, v.snd, v.trd, v.fth⟩

/-- The values on the main diagonal of a square. -/
def diagonal (v : Five (Five α)) : Five α :=
  ⟨v.fst.fst, v.snd.snd, v.trd.trd, v.fth.fth, v.lst.lst⟩

end Five

/-- The state: five planes of five lanes. -/
abbrev State := Five (Five UInt64)

/-- Rotates a lane to the left. -/
def rotate (w r : UInt64) : UInt64 := (w <<< r) ||| (w >>> (64 - r))

/-- Adds to each lane the parities of two neighbouring columns. -/
def theta (s : State) : State :=
  let parity := s.fst.zipWith (· ^^^ ·) <| s.snd.zipWith (· ^^^ ·) <|
    s.trd.zipWith (· ^^^ ·) <| s.fth.zipWith (· ^^^ ·) s.lst
  let change := parity.previous.zipWith (· ^^^ ·) (parity.next.map (rotate · 1))
  s.map (·.zipWith (· ^^^ ·) change)

/-- How far each lane is rotated. -/
def offsets : Five (Five UInt64) :=
  ⟨⟨0, 1, 62, 28, 27⟩, ⟨36, 44, 6, 55, 20⟩, ⟨3, 10, 43, 25, 39⟩, ⟨41, 45, 15, 21, 8⟩,
    ⟨18, 2, 61, 56, 14⟩⟩

/-- Rotates each lane by its own offset. -/
def rho (s : State) : State := s.zipWith (·.zipWith rotate ·) offsets

/-- Rearranges the lanes: plane `y` of the result is the diagonal that starts at column `3 y`. -/
def pi (s : State) : State :=
  ⟨s.diagonal, (s.map (·.next.next.next)).diagonal, (s.map (·.next)).diagonal,
    (s.map (·.previous)).diagonal, (s.map (·.next.next)).diagonal⟩

/-- Combines each lane with its two successors, the only step that is not linear. -/
def chi (s : State) : State :=
  s.map fun p => p.zipWith (· ^^^ ·) (p.next.zipWith (fun b c => ~~~b &&& c) p.next.next)

/-- Adds the round constant to the first lane. -/
def iota (constant : UInt64) (s : State) : State :=
  { s with fst := { s.fst with fst := s.fst.fst ^^^ constant } }

/-- One round. -/
def round (s : State) (constant : UInt64) : State :=
  iota constant (chi (pi (rho (theta s))))

/-- The constants of the 24 rounds. -/
def roundConstants : List UInt64 :=
  [0x0000000000000001, 0x0000000000008082, 0x800000000000808a, 0x8000000080008000,
    0x000000000000808b, 0x0000000080000001, 0x8000000080008081, 0x8000000000008009,
    0x000000000000008a, 0x0000000000000088, 0x0000000080008009, 0x000000008000000a,
    0x000000008000808b, 0x800000000000008b, 0x8000000000008089, 0x8000000000008003,
    0x8000000000008002, 0x8000000000000080, 0x000000000000800a, 0x800000008000000a,
    0x8000000080008081, 0x8000000000008080, 0x0000000080000001, 0x8000000080008008]

/-- The permutation of the state. -/
def permute (s : State) : State := roundConstants.foldl round s

/-- Reads lanes, least significant byte first; an incomplete last lane is dropped. -/
def lanes : Bytes → List UInt64
  | b0 :: b1 :: b2 :: b3 :: b4 :: b5 :: b6 :: b7 :: rest =>
      (b0.toUInt64 ||| b1.toUInt64 <<< 8 ||| b2.toUInt64 <<< 16 ||| b3.toUInt64 <<< 24
        ||| b4.toUInt64 <<< 32 ||| b5.toUInt64 <<< 40 ||| b6.toUInt64 <<< 48
        ||| b7.toUInt64 <<< 56) :: lanes rest
  | _ => []

/-- The bytes of a lane, least significant first. -/
def laneBytes (w : UInt64) : Bytes :=
  [w.toUInt8, (w >>> 8).toUInt8, (w >>> 16).toUInt8, (w >>> 24).toUInt8, (w >>> 32).toUInt8,
    (w >>> 40).toUInt8, (w >>> 48).toUInt8, (w >>> 56).toUInt8]

/-- Absorbs blocks of 17 lanes; an incomplete last block is dropped. -/
def absorb (s : State) : List UInt64 → State
  | l0 :: l1 :: l2 :: l3 :: l4 :: l5 :: l6 :: l7 :: l8 :: l9 :: l10 :: l11 :: l12 :: l13 ::
      l14 :: l15 :: l16 :: rest =>
      let block : State := ⟨⟨l0, l1, l2, l3, l4⟩, ⟨l5, l6, l7, l8, l9⟩, ⟨l10, l11, l12, l13, l14⟩,
        ⟨l15, l16, 0, 0, 0⟩, .replicate 0⟩
      absorb (permute (s.zipWith (·.zipWith (· ^^^ ·) ·) block)) rest
  | _ => s

/-- The bytes that fill the last block: a one bit, zeros, a one bit. -/
def padding : Nat → Bytes
  | 0 => []
  | 1 => [0x81]
  | n + 2 => 0x01 :: List.replicate n 0 ++ [0x80]

end Keccak

/-- The Keccak-256 hash of a byte string. -/
def keccak256 (message : Bytes) : Hash :=
  let padded := message ++ Keccak.padding (136 - message.length % 136)
  let s := Keccak.absorb (.replicate (.replicate 0)) (Keccak.lanes padded)
  ⟨Keccak.laneBytes s.fst.fst ++ Keccak.laneBytes s.fst.snd ++ Keccak.laneBytes s.fst.trd
    ++ Keccak.laneBytes s.fst.fth, rfl⟩

/-- Two different byte strings with the same hash. -/
def Collide (a b : Bytes) : Prop := a ≠ b ∧ keccak256 a = keccak256 b

/-- Two different byte strings with the same hash, one of each list. -/
def HasCollision (as bs : List Bytes) : Prop := ∃ a ∈ as, ∃ b ∈ bs, Collide a b

theorem eq_or_collide {a b : Bytes} (h : keccak256 a = keccak256 b) : a = b ∨ Collide a b := by
  by_cases hab : a = b
  · exact Or.inl hab
  · exact Or.inr ⟨hab, h⟩

theorem HasCollision.mono {as as' bs bs' : List Bytes} (ha : as ⊆ as') (hb : bs ⊆ bs')
    (h : HasCollision as bs) : HasCollision as' bs' := by
  obtain ⟨a, haas, b, hbbs, hab⟩ := h
  exact ⟨a, ha haas, b, hb hbbs, hab⟩

end UnlockProof

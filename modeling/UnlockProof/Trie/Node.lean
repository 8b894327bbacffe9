import UnlockProof.Bytes

/-!
# Trie nodes and key paths

A key is read as a path of nibbles, the high half of each byte first. A node is a list of 17
items, a branch, or of two, a leaf or an extension with a compact path. One step at a node either
settles the key or leads to a child with the rest of the path.

## Implementation notes

The first nibble of a compact path says whether the path ends in a leaf and whether its length is
odd; the low half of the first byte is part of an odd path and ignored otherwise. An empty compact
path is an extension by no nibble.
-/

namespace UnlockProof.Trie

/-- A digit of a key path. -/
abbrev Nibble := Fin 16

/-- The high half of a byte. -/
def high (b : UInt8) : Nibble := ⟨b.toNat / 16, by have := b.toNat_lt; omega⟩

/-- The low half of a byte. -/
def low (b : UInt8) : Nibble := ⟨b.toNat % 16, by omega⟩

/-- The path that bytes spell. -/
def nibbles (bs : Bytes) : List Nibble := bs.flatMap fun b => [high b, low b]

theorem length_nibbles (bs : Bytes) : (nibbles bs).length = 2 * bs.length := by
  induction bs with
  | nil => rfl
  | cons b bs ih =>
      simp only [nibbles, List.flatMap_cons, List.length_append, List.length_cons,
        List.length_nil] at ih ⊢
      omega

/-- Reads a compact path and whether it ends in a leaf. -/
def compactPath : Bytes → List Nibble × Bool
  | [] => ([], false)
  | b :: rest =>
      ((if (high b).val % 2 = 1 then [low b] else []) ++ nibbles rest, decide (2 ≤ (high b).val))

/-- What one step at a node leads to. -/
inductive Step where
  /-- The key is stored with a value. -/
  | found (value : Bytes)
  /-- The key is not stored. -/
  | absent
  /-- The path goes on below a child. -/
  | below (child : Bytes) (path : List Nibble)
deriving DecidableEq

/-- The value of a node at the end of the path; an empty value is none. -/
def Step.ofValue (value : Bytes) : Step := if value.isEmpty then .absent else .found value

/-- The step at a node with a compact path. -/
def stepAlong (compact target : Bytes) (path : List Nibble) : Step :=
  let (own, isLeaf) := compactPath compact
  if isLeaf then if path = own then .ofValue target else .absent
  else if own.isPrefixOf path then .below target (path.drop own.length)
  else .absent

/-- The step at a branch. -/
def stepAt (items : List Bytes) (h : items.length = 17) : List Nibble → Step
  | [] => .ofValue (items.get ⟨16, by omega⟩)
  | n :: path =>
      let child := items.get ⟨n.val, by have := n.isLt; omega⟩
      if child.isEmpty then .absent else .below child path

/-- The step at a node with the given items; none if it is no node. -/
def step (items : List Bytes) (path : List Nibble) : Option Step :=
  if h : items.length = 17 then some (stepAt items h path)
  else match items with
    | [compact, target] => some (stepAlong compact target path)
    | _ => none

/-- A step that leads to a child leads to one of the items, with an end of the path. -/
theorem mem_and_suffix_of_step {items : List Bytes} {path rest : List Nibble} {child : Bytes}
    (h : step items path = some (.below child rest)) : child ∈ items ∧ rest <:+ path := by
  by_cases h17 : items.length = 17
  · rw [step, dif_pos h17] at h
    match path, Option.some.inj h with
    | [], hvalue =>
        rw [stepAt, Step.ofValue] at hvalue
        split at hvalue <;> cases hvalue
    | n :: below, hchild =>
        rw [stepAt] at hchild
        split at hchild
        case isTrue => cases hchild
        case isFalse => cases hchild; exact ⟨List.get_mem .., List.suffix_cons n rest⟩
  · rw [step, dif_neg h17] at h
    split at h
    case h_1 compact target =>
      have hstep := Option.some.inj h
      simp only [stepAlong] at hstep
      split at hstep
      case isTrue =>
        rw [Step.ofValue] at hstep
        split at hstep
        case isTrue => split at hstep <;> cases hstep
        case isFalse => cases hstep
      case isFalse =>
        split at hstep
        case isTrue => cases hstep; exact ⟨by simp, List.drop_suffix _ path⟩
        case isFalse => cases hstep
    case h_2 => cases h

theorem mem_of_step {items : List Bytes} {path rest : List Nibble} {child : Bytes}
    (h : step items path = some (.below child rest)) : child ∈ items :=
  (mem_and_suffix_of_step h).1

end UnlockProof.Trie

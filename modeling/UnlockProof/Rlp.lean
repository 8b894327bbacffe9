import UnlockProof.Bytes

/-!
# Recursive length encoding

An element is a string or a list. A byte below 128 stands for itself; every other element has a
head with its kind and the size of its payload. Sizes below 56 are part of the first byte, larger
ones follow it in as few bytes as possible.

## Implementation notes

Reading is strict: there is one encoding of each element, and any other is a fault. The items of
a list are viewed from outside: a string as its payload and a nested list with its head, so that
it can be hashed or read again.
-/

namespace UnlockProof.Rlp

/-- Why bytes are no proper encoding. -/
inductive Fault where
  | overflow
  | leadingZero
  | tooShort
  | nonCanonicalByte
  | nonCanonicalSize
  | unexpectedLength
  | unexpectedString
  | unexpectedList
  | extraItems
deriving DecidableEq

/-- The text of a fault. -/
def Fault.message : Fault → String
  | overflow => "overflow"
  | leadingZero => "leading zero"
  | tooShort => "input too short"
  | nonCanonicalByte => "non-canonical single byte"
  | nonCanonicalSize => "non-canonical size"
  | unexpectedLength => "unexpected length"
  | unexpectedString => "unexpected string"
  | unexpectedList => "unexpected list"
  | extraItems => "account list has more than 4 items"

/-- The head of an element: `base` is 128 for strings and 192 for lists. -/
def head (base size : Nat) : Bytes :=
  if size < 56 then [UInt8.ofNat (base + size)]
  else
    let sizeBytes := minimalBigEndian 8 size
    UInt8.ofNat (base + 55 + sizeBytes.length) :: sizeBytes

/-- The encoding of a string. -/
def encodeBytes (bs : Bytes) : Bytes :=
  match bs with
  | [b] => if b < 0x80 then [b] else head 0x80 1 ++ [b]
  | bs => head 0x80 bs.length ++ bs

/-- The encoding of a list whose items are encoded already. -/
def wrapList (payload : Bytes) : Bytes := head 0xc0 payload.length ++ payload

/-- The encoding of a number below `256 ^ width`, as a string without leading zeros. -/
def encodeNat (width n : Nat) : Bytes := encodeBytes (minimalBigEndian width n)

/-- An element as it is encoded: its head, which is empty for a byte that stands for itself, and
its payload. -/
structure Element where
  isList : Bool
  head : Bytes
  payload : Bytes
deriving DecidableEq

namespace Element

/-- The encoding of an element. -/
def encoded (e : Element) : Bytes := e.head ++ e.payload

/-- An element as an item of a list: the payload of a string, a whole list. -/
def view (e : Element) : Bytes := if e.isList then e.encoded else e.payload

/-- Takes a payload of a known size. -/
def readPayload (isList : Bool) (head : Bytes) (size : Nat) (rest : Bytes) :
    Except Fault (Element × Bytes) :=
  if rest.length < size then .error .tooShort
  else .ok (⟨isList, head, rest.take size⟩, rest.drop size)

/-- Reads an element whose size follows its first byte in `width` bytes. -/
def readLong (isList : Bool) (first : UInt8) (width : Nat) (rest : Bytes) :
    Except Fault (Element × Bytes) :=
  let sizeBytes := rest.take width
  if rest.length < width then .error .tooShort
  else if sizeBytes.head? = some 0 then .error .leadingZero
  else if ofBigEndian sizeBytes < 56 then .error .nonCanonicalSize
  else readPayload isList (first :: sizeBytes) (ofBigEndian sizeBytes) (rest.drop width)

/-- Reads the first element of a byte string and returns what follows it. -/
def read : Bytes → Except Fault (Element × Bytes)
  | [] => .error .tooShort
  | first :: rest =>
      let n := first.toNat
      if n < 0x80 then .ok (⟨false, [], [first]⟩, rest)
      else if n = 0x81 then
        match rest with
        | [] => .error .tooShort
        | b :: _ =>
            if b < 0x80 then .error .nonCanonicalByte else readPayload false [first] 1 rest
      else if n < 0xb8 then readPayload false [first] (n - 0x80) rest
      else if n < 0xc0 then readLong false first (n - 0xb7) rest
      else if n < 0xf8 then readPayload true [first] (n - 0xc0) rest
      else readLong true first (n - 0xf7) rest

theorem eq_of_readPayload {isList : Bool} {head rest after : Bytes} {size : Nat} {e : Element}
    (h : readPayload isList head size rest = .ok (e, after)) :
    e.isList = isList ∧ e.head = head ∧ rest = e.payload ++ after := by
  unfold readPayload at h
  split at h
  · cases h
  · cases h; simp

theorem eq_of_readLong {isList : Bool} {first : UInt8} {width : Nat} {rest after : Bytes}
    {e : Element} (h : readLong isList first width rest = .ok (e, after)) :
    e.isList = isList ∧ e.head ≠ [] ∧ first :: rest = e.encoded ++ after := by
  simp only [readLong] at h
  split at h
  · cases h
  split at h
  · cases h
  split at h
  · cases h
  obtain ⟨hl, hh, hr⟩ := eq_of_readPayload h
  refine ⟨hl, by simp [hh], ?_⟩
  rw [encoded, hh, List.append_assoc, ← hr]
  simp

/-- Reading an element splits the bytes into its encoding and the rest; a list has a head. -/
theorem eq_of_read {bs after : Bytes} {e : Element} (h : read bs = .ok (e, after)) :
    bs = e.encoded ++ after ∧ e.encoded ≠ [] ∧ (e.isList = true → e.head ≠ []) := by
  unfold read at h
  split at h
  · cases h
  rename_i first rest
  simp only at h
  split at h
  · cases h; simp [encoded]
  split at h
  · split at h
    · cases h
    split at h
    · cases h
    obtain ⟨hl, hh, hr⟩ := eq_of_readPayload h
    exact ⟨by rw [hr, encoded, hh]; rfl, by simp [encoded, hh], by simp [hl]⟩
  split at h
  · obtain ⟨hl, hh, hr⟩ := eq_of_readPayload h
    exact ⟨by rw [hr, encoded, hh]; rfl, by simp [encoded, hh], by simp [hl]⟩
  split at h
  · obtain ⟨_, hh, hr⟩ := eq_of_readLong h
    exact ⟨hr, by simp [encoded, hh], fun _ => hh⟩
  split at h
  · obtain ⟨_, hh, hr⟩ := eq_of_readPayload h
    exact ⟨by rw [hr, encoded, hh]; rfl, by simp [encoded, hh], fun _ => by simp [hh]⟩
  · obtain ⟨_, hh, hr⟩ := eq_of_readLong h
    exact ⟨hr, by simp [encoded, hh], fun _ => hh⟩

theorem length_of_read {bs after : Bytes} {e : Element} (h : read bs = .ok (e, after)) :
    after.length < bs.length := by
  obtain ⟨hb, he, _⟩ := eq_of_read h
  have := List.length_pos_iff.2 he
  rw [hb, List.length_append]
  omega

end Element

/-- Reads elements up to the end of a byte string. -/
def elements (bs : Bytes) : Except Fault (List Element) :=
  if bs.isEmpty then .ok [] else
  match h : Element.read bs with
  | .error f => .error f
  | .ok (e, rest) =>
      have := Element.length_of_read h
      (elements rest).map (e :: ·)
termination_by bs.length

/-- Reads one element that fills a byte string. -/
def readWhole (isList : Bool) (bs : Bytes) : Except Fault Element :=
  match Element.read bs with
  | .error f => .error f
  | .ok (e, rest) =>
      if e.isList ≠ isList then .error (if isList then .unexpectedString else .unexpectedList)
      else if rest ≠ [] then .error .unexpectedLength
      else .ok e

/-- The items of the list that fills a byte string. -/
def decodeList (bs : Bytes) : Except Fault (List Bytes) := do
  let e ← readWhole true bs
  let items ← elements e.payload
  return items.map Element.view

/-- The payload of the string that fills a byte string. -/
def decodeBytes (bs : Bytes) : Except Fault Bytes := do
  let e ← readWhole false bs
  return e.payload

theorem eq_of_readWhole {isList : Bool} {bs : Bytes} {e : Element}
    (h : readWhole isList bs = .ok e) : e.isList = isList ∧ Element.read bs = .ok (e, []) := by
  unfold readWhole at h
  split at h
  · cases h
  rename_i e' rest hr
  split at h
  · split at h <;> cases h
  split at h
  · cases h
  · cases h
    simp_all

theorem length_le_of_mem_elements {bs : Bytes} {es : List Element} (h : elements bs = .ok es)
    {e : Element} (he : e ∈ es) : e.view.length ≤ bs.length := by
  induction hn : bs.length using Nat.strongRecOn generalizing bs es with
  | ind n ih =>
    unfold elements at h
    split at h
    · cases h; simp at he
    split at h
    · cases h
    rename_i first rest hr
    cases hs : elements rest with
    | error f => simp [hs, Except.map] at h
    | ok more =>
        simp only [hs, Except.map, Except.ok.injEq] at h
        subst h
        obtain ⟨hb, _, _⟩ := Element.eq_of_read hr
        have hlen := Element.length_of_read hr
        rcases List.mem_cons.1 he with rfl | hm
        · have := congrArg List.length hb
          simp only [Element.encoded, List.length_append] at this
          unfold Element.view Element.encoded
          split
          · rw [List.length_append]
            omega
          · omega
        · have := ih rest.length (by omega) hs hm rfl
          omega

/-- Every item of a list is shorter than the encoding of the list. -/
theorem length_lt_of_mem_decodeList {bs item : Bytes} {items : List Bytes}
    (h : decodeList bs = .ok items) (hm : item ∈ items) : item.length < bs.length := by
  unfold decodeList at h
  cases hw : readWhole true bs with
  | error f => simp [hw, bind, Except.bind] at h
  | ok e =>
      cases hs : elements e.payload with
      | error f => simp [hw, hs, bind, Except.bind] at h
      | ok es =>
          simp only [hw, hs, bind, Except.bind, pure, Except.pure, Except.ok.injEq] at h
          subst h
          obtain ⟨x, hx, rfl⟩ := List.mem_map.1 hm
          obtain ⟨hl, hr⟩ := eq_of_readWhole hw
          obtain ⟨hb, _, hh⟩ := Element.eq_of_read hr
          have := length_le_of_mem_elements hs hx
          have := List.length_pos_iff.2 (hh hl)
          rw [hb]
          simp only [Element.encoded, List.append_nil, List.length_append]
          omega

end UnlockProof.Rlp

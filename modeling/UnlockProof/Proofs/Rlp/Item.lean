import UnlockProof.Proofs.BigEndian
import UnlockProof.Rlp

/-!
# Elements and their one encoding

An item is what an element says: a string or a list with a payload. Its encoding follows from it,
and reading finds exactly these encodings. So an accepted element is known from its item alone.

## Implementation notes

A size that does not fit in 64 bits has no proper encoding. Every size that is read fits, so the
bound stands as a hypothesis for written items only.
-/

namespace UnlockProof.Rlp

/-- What an element says: a string, or a list with the encodings of its items. -/
inductive Item where
  | string (bytes : Bytes)
  | list (payload : Bytes)
deriving DecidableEq

namespace Item

/-- The bytes after the head. -/
def payload : Item → Bytes
  | string bytes => bytes
  | list payload => payload

/-- Tells whether an item is a list. -/
def isList : Item → Bool
  | string _ => false
  | list _ => true

/-- The head of an item; a byte that stands for itself has none. -/
def head : Item → Bytes
  | string [b] => if b < 0x80 then [] else Rlp.head 0x80 1
  | string bytes => Rlp.head 0x80 bytes.length
  | list payload => Rlp.head 0xc0 payload.length

/-- The encoding of an item. -/
def encode : Item → Bytes
  | string bytes => encodeBytes bytes
  | list payload => wrapList payload

/-- An item as an entry of a list: the bytes of a string, a whole encoded list. -/
def view : Item → Bytes
  | string bytes => bytes
  | list payload => wrapList payload

@[simp] theorem view_string (bytes : Bytes) : (string bytes).view = bytes := rfl

@[simp] theorem view_list (payload : Bytes) : (list payload).view = wrapList payload := rfl

/-- The element that encodes an item. -/
def element (i : Item) : Element := ⟨i.isList, i.head, i.payload⟩

/-- Sizes that a head can hold. -/
def Fits (i : Item) : Prop := i.payload.length < UInt64.size

theorem fits_of_lt {i : Item} (h : i.payload.length < 56) : i.Fits :=
  Nat.lt_trans h (by decide)

theorem encode_eq_append (i : Item) : i.encode = i.head ++ i.payload := by
  match i with
  | string [b] =>
      by_cases hb : b < 0x80
      · simp only [encode, encodeBytes, head, payload, if_pos hb, List.nil_append]
      · simp only [encode, encodeBytes, head, payload, if_neg hb]
  | string [] => rfl
  | string (a :: b :: bytes) => rfl
  | list payload => rfl

theorem head_string {bytes : Bytes} (h : ∀ b, bytes = [b] → ¬ b < 0x80) :
    (string bytes).head = Rlp.head 0x80 bytes.length := by
  match bytes with
  | [b] => exact if_neg (h b rfl)
  | [] => rfl
  | _ :: _ :: _ => rfl

@[simp] theorem encoded_element (i : Item) : i.element.encoded = i.encode :=
  i.encode_eq_append.symm

@[simp] theorem view_element (i : Item) : i.element.view = i.view := by
  cases i with
  | string bytes => rfl
  | list payload => rfl

end Item

theorem head_of_lt {base size : Nat} (h : size < 56) :
    head base size = [UInt8.ofNat (base + size)] := if_pos h

theorem head_of_le {base size : Nat} (h : 56 ≤ size) :
    head base size = UInt8.ofNat (base + 55 + (minimalBigEndian 8 size).length)
      :: minimalBigEndian 8 size := if_neg (by omega)

/-- A first byte that counts the payload is the head. -/
theorem head_of_toNat {base size : Nat} {first : UInt8} (h : size < 56)
    (hfirst : base + size = first.toNat) : head base size = [first] := by
  rw [head_of_lt h, hfirst, UInt8.ofNat_toNat]

/-- A first byte that counts the bytes of the size begins the head. -/
theorem head_of_toNat_length {base size : Nat} {first : UInt8} (h : 56 ≤ size)
    (hfirst : base + 55 + (minimalBigEndian 8 size).length = first.toNat) :
    head base size = first :: minimalBigEndian 8 size := by
  rw [head_of_le h, hfirst, UInt8.ofNat_toNat]

theorem head_ne_nil (base size : Nat) : head base size ≠ [] := by
  rcases Nat.lt_or_ge size 56 with h | h
  · rw [head_of_lt h]
    exact List.cons_ne_nil _ _
  · rw [head_of_le h]
    exact List.cons_ne_nil _ _

theorem length_head_le (base size : Nat) : (head base size).length ≤ 9 := by
  rcases Nat.lt_or_ge size 56 with h | h
  · rw [head_of_lt h]
    simp
  · have := length_minimalBigEndian_le 8 size
    rw [head_of_le h, List.length_cons]
    omega

theorem encode_ne_nil (i : Item) : i.encode ≠ [] := by
  match i with
  | .string [b] =>
      rw [Item.encode_eq_append]
      exact List.append_ne_nil_of_right_ne_nil _ (List.cons_ne_nil _ _)
  | .string [] => exact List.append_ne_nil_of_left_ne_nil (head_ne_nil _ _) _
  | .string (a :: b :: bytes) => exact List.append_ne_nil_of_left_ne_nil (head_ne_nil _ _) _
  | .list payload => exact List.append_ne_nil_of_left_ne_nil (head_ne_nil _ _) _

/-- Between 1 and 8 bytes hold a size of at least 56. -/
theorem length_sizeBytes {size : Nat} (hlong : 56 ≤ size) (hfits : size < UInt64.size) :
    1 ≤ (minimalBigEndian 8 size).length ∧ (minimalBigEndian 8 size).length ≤ 8 := by
  have hne : minimalBigEndian 8 size ≠ [] := minimalBigEndian_ne_nil hfits (by omega)
  exact ⟨List.length_pos_iff.mpr hne, length_minimalBigEndian_le 8 size⟩

open Element (readPayload readLong)

theorem readPayload_append (isList : Bool) (head payload rest : Bytes) :
    readPayload isList head payload.length (payload ++ rest) =
      .ok (⟨isList, head, payload⟩, rest) := by
  simp [readPayload]

/-- A size of at least 56 is read back from its bytes. -/
theorem readLong_minimalBigEndian (isList : Bool) (first : UInt8) (rest : Bytes) {size : Nat}
    (hlong : 56 ≤ size) (hfits : size < UInt64.size) :
    readLong isList first (minimalBigEndian 8 size).length (minimalBigEndian 8 size ++ rest) =
      readPayload isList (first :: minimalBigEndian 8 size) size rest := by
  have hvalue : ofBigEndian (minimalBigEndian 8 size) = size :=
    ofBigEndian_minimalBigEndian hfits
  have hhead := head?_minimalBigEndian_ne 8 size
  have hlen : ¬ (minimalBigEndian 8 size ++ rest).length < (minimalBigEndian 8 size).length := by
    rw [List.length_append]
    omega
  have hsize : ¬ size < 56 := by omega
  simp only [readLong, List.take_left, List.drop_left, hvalue, if_neg hhead, if_neg hlen,
    if_neg hsize]

theorem read_listHead {size : Nat} (hfits : size < UInt64.size) (rest : Bytes) :
    Element.read (head 0xc0 size ++ rest) = readPayload true (head 0xc0 size) size rest := by
  rcases Nat.lt_or_ge size 56 with h | h
  · have hfirst : (UInt8.ofNat (0xc0 + size)).toNat = 0xc0 + size := by
      rw [UInt8.toNat_ofNat']
      omega
    rw [head_of_lt h, List.singleton_append]
    simp only [Element.read, hfirst, if_neg (show ¬ 0xc0 + size < 0x80 by omega),
      if_neg (show ¬ 0xc0 + size = 0x81 by omega), if_neg (show ¬ 0xc0 + size < 0xb8 by omega),
      if_neg (show ¬ 0xc0 + size < 0xc0 by omega), if_pos (show 0xc0 + size < 0xf8 by omega),
      Nat.add_sub_cancel_left]
  · obtain ⟨hpos, hle⟩ := length_sizeBytes h hfits
    generalize hwidth : (minimalBigEndian 8 size).length = width at hpos hle
    have hfirst : (UInt8.ofNat (0xc0 + 55 + width)).toNat = 0xf7 + width := by
      rw [UInt8.toNat_ofNat']
      omega
    rw [head_of_le h, hwidth, List.cons_append]
    simp only [Element.read, hfirst, if_neg (show ¬ 0xf7 + width < 0x80 by omega),
      if_neg (show ¬ 0xf7 + width = 0x81 by omega), if_neg (show ¬ 0xf7 + width < 0xb8 by omega),
      if_neg (show ¬ 0xf7 + width < 0xc0 by omega), if_neg (show ¬ 0xf7 + width < 0xf8 by omega),
      Nat.add_sub_cancel_left]
    rw [← hwidth]
    exact readLong_minimalBigEndian true _ rest h hfits

/-- A string of one byte has a head only if the byte does not stand for itself. -/
theorem read_stringHead {size : Nat} (hfits : size < UInt64.size) {rest : Bytes}
    (hone : size = 1 → ∃ b more, rest = b :: more ∧ ¬ b < 0x80) :
    Element.read (head 0x80 size ++ rest) = readPayload false (head 0x80 size) size rest := by
  rcases Nat.lt_or_ge size 56 with h | h
  · have hfirst : (UInt8.ofNat (0x80 + size)).toNat = 0x80 + size := by
      rw [UInt8.toNat_ofNat']
      omega
    rw [head_of_lt h, List.singleton_append]
    simp only [Element.read, hfirst, if_neg (show ¬ 0x80 + size < 0x80 by omega)]
    by_cases h1 : size = 1
    · obtain ⟨b, more, rfl, hb⟩ := hone h1
      subst h1
      simp only [if_neg hb]
      rfl
    · simp only [if_neg (show ¬ 0x80 + size = 0x81 by omega),
        if_pos (show 0x80 + size < 0xb8 by omega), Nat.add_sub_cancel_left]
  · obtain ⟨hpos, hle⟩ := length_sizeBytes h hfits
    generalize hwidth : (minimalBigEndian 8 size).length = width at hpos hle
    have hfirst : (UInt8.ofNat (0x80 + 55 + width)).toNat = 0xb7 + width := by
      rw [UInt8.toNat_ofNat']
      omega
    rw [head_of_le h, hwidth, List.cons_append]
    simp only [Element.read, hfirst, if_neg (show ¬ 0xb7 + width < 0x80 by omega),
      if_neg (show ¬ 0xb7 + width = 0x81 by omega), if_neg (show ¬ 0xb7 + width < 0xb8 by omega),
      if_pos (show 0xb7 + width < 0xc0 by omega), Nat.add_sub_cancel_left]
    rw [← hwidth]
    exact readLong_minimalBigEndian false _ rest h hfits

/-- The encoding of an item is read as its element, whatever follows. -/
theorem read_encode_append {i : Item} (hfits : i.Fits) (rest : Bytes) :
    Element.read (i.encode ++ rest) = .ok (i.element, rest) := by
  rw [Item.encode_eq_append, List.append_assoc]
  match i, hfits with
  | .list payload, hfits =>
      exact (read_listHead hfits _).trans (readPayload_append true _ payload rest)
  | .string [b], hfits =>
      by_cases hb : b < 0x80
      · have hlt : b.toNat < 0x80 := UInt8.lt_iff_toNat_lt.mp hb
        simp [Item.element, Item.isList, Item.head, Item.payload, hb, Element.read, hlt]
      · have hread : Element.read (head 0x80 1 ++ ([b] ++ rest)) = _ :=
          read_stringHead hfits fun _ => ⟨b, rest, rfl, hb⟩
        simp only [Item.element, Item.head, if_neg hb]
        exact hread.trans (readPayload_append false _ [b] rest)
  | .string [], hfits =>
      exact (read_stringHead hfits nofun).trans (readPayload_append false _ [] rest)
  | .string (a :: b :: bs), hfits =>
      have hne : (a :: b :: bs).length ≠ 1 := by simp
      have hread : Element.read (head 0x80 _ ++ ((a :: b :: bs) ++ rest)) = _ :=
        read_stringHead hfits fun h => absurd h hne
      exact hread.trans (readPayload_append false _ (a :: b :: bs) rest)

theorem exists_payload_of_readPayload {isList : Bool} {head rest after : Bytes} {size : Nat}
    {e : Element} (h : readPayload isList head size rest = .ok (e, after)) :
    ∃ payload, payload.length = size ∧ e = ⟨isList, head, payload⟩ ∧ rest = payload ++ after := by
  unfold readPayload at h
  split at h
  · cases h
  · cases h
    refine ⟨rest.take size, ?_, rfl, (List.take_append_drop size rest).symm⟩
    rw [List.length_take]
    omega

/-- A size that is read from bytes after the head is written as the same bytes. -/
theorem exists_payload_of_readLong {isList : Bool} {first : UInt8} {width : Nat}
    {rest after : Bytes} {e : Element} (hwidth : width ≤ 8)
    (h : readLong isList first width rest = .ok (e, after)) :
    ∃ payload, 56 ≤ payload.length ∧ payload.length < UInt64.size ∧
      (minimalBigEndian 8 payload.length).length = width ∧
      e = ⟨isList, first :: minimalBigEndian 8 payload.length, payload⟩ ∧
      rest = minimalBigEndian 8 payload.length ++ payload ++ after := by
  simp only [readLong] at h
  split at h
  · cases h
  rename_i hshort
  split at h
  · cases h
  rename_i hzero
  split at h
  · cases h
  rename_i hsmall
  obtain ⟨payload, hsize, he, hrest⟩ := exists_payload_of_readPayload h
  have hlen : (rest.take width).length = width := by
    rw [List.length_take]
    omega
  have hbytes : minimalBigEndian 8 payload.length = rest.take width := by
    rw [hsize]
    exact minimalBigEndian_ofBigEndian (by omega) hzero
  have hbound : ofBigEndian (rest.take width) < Nat.pow 256 8 :=
    Nat.lt_of_lt_of_le (ofBigEndian_lt _) (hlen.symm ▸ Nat.pow_le_pow_right (by decide) hwidth)
  refine ⟨payload, by omega, hsize ▸ hbound, by rw [hbytes, hlen], by rw [hbytes, he], ?_⟩
  rw [hbytes, List.append_assoc, ← hrest, List.take_append_drop]

-- One lemma for each form of an element: what is read in this form is an item.

theorem exists_item_of_single {first b : UInt8} {more rest : Bytes} {e : Element} (hb : ¬ b < 0x80)
    (hfirst : 0x80 + 1 = first.toNat)
    (h : readPayload false [first] 1 (b :: more) = .ok (e, rest)) :
    ∃ i : Item, i.Fits ∧ e = i.element := by
  obtain ⟨payload, hsize, rfl, hrest⟩ := exists_payload_of_readPayload h
  obtain ⟨c, rfl⟩ := List.length_eq_one_iff.mp hsize
  obtain ⟨rfl, rfl⟩ := List.cons.inj hrest
  have hhead : head 0x80 1 = [first] := head_of_toNat (by decide) hfirst
  refine ⟨.string [b], Item.fits_of_lt (show 1 < 56 by decide), ?_⟩
  simp only [Item.element, Item.head, if_neg hb, Item.isList, Item.payload, hhead]

theorem exists_item_of_shortString {first : UInt8} {size : Nat} {after rest : Bytes} {e : Element}
    (hsize : size < 56) (hone : size ≠ 1) (hfirst : 0x80 + size = first.toNat)
    (h : readPayload false [first] size after = .ok (e, rest)) :
    ∃ i : Item, i.Fits ∧ e = i.element := by
  obtain ⟨payload, rfl, rfl, -⟩ := exists_payload_of_readPayload h
  have hhead : head 0x80 payload.length = [first] := head_of_toNat hsize hfirst
  have hne : ∀ b, payload = [b] → ¬ b < 0x80 := by
    rintro b rfl
    exact absurd rfl hone
  refine ⟨.string payload, Item.fits_of_lt hsize, ?_⟩
  simp only [Item.element, Item.head_string hne, Item.isList, Item.payload, hhead]

theorem exists_item_of_longString {first : UInt8} {width : Nat} {after rest : Bytes} {e : Element}
    (hwidth : width ≤ 8) (hfirst : 0x80 + 55 + width = first.toNat)
    (h : readLong false first width after = .ok (e, rest)) :
    ∃ i : Item, i.Fits ∧ e = i.element := by
  obtain ⟨payload, hsize, hfits, rfl, rfl, -⟩ := exists_payload_of_readLong hwidth h
  have hhead : head 0x80 payload.length = first :: _ := head_of_toNat_length hsize hfirst
  have hne : ∀ b, payload = [b] → ¬ b < 0x80 := by
    rintro b rfl
    exact absurd hsize (by simp)
  refine ⟨.string payload, hfits, ?_⟩
  simp only [Item.element, Item.head_string hne, Item.isList, Item.payload, hhead]

theorem exists_item_of_shortList {first : UInt8} {size : Nat} {after rest : Bytes} {e : Element}
    (hsize : size < 56) (hfirst : 0xc0 + size = first.toNat)
    (h : readPayload true [first] size after = .ok (e, rest)) :
    ∃ i : Item, i.Fits ∧ e = i.element := by
  obtain ⟨payload, rfl, rfl, -⟩ := exists_payload_of_readPayload h
  have hhead : head 0xc0 payload.length = [first] := head_of_toNat hsize hfirst
  refine ⟨.list payload, Item.fits_of_lt hsize, ?_⟩
  simp only [Item.element, Item.head, Item.isList, Item.payload, hhead]

theorem exists_item_of_longList {first : UInt8} {width : Nat} {after rest : Bytes} {e : Element}
    (hwidth : width ≤ 8) (hfirst : 0xc0 + 55 + width = first.toNat)
    (h : readLong true first width after = .ok (e, rest)) :
    ∃ i : Item, i.Fits ∧ e = i.element := by
  obtain ⟨payload, hsize, hfits, rfl, rfl, -⟩ := exists_payload_of_readLong hwidth h
  have hhead : head 0xc0 payload.length = first :: _ := head_of_toNat_length hsize hfirst
  refine ⟨.list payload, hfits, ?_⟩
  simp only [Item.element, Item.head, Item.isList, Item.payload, hhead]

/-- Whatever is read as an element is the encoding of an item. -/
theorem exists_item_of_read {bs rest : Bytes} {e : Element} (h : Element.read bs = .ok (e, rest)) :
    ∃ i : Item, i.Fits ∧ e = i.element ∧ bs = i.encode ++ rest := by
  -- It is enough to find an item with this head: the bytes are then those of its encoding.
  suffices hitem : ∃ i : Item, i.Fits ∧ e = i.element by
    obtain ⟨i, hfits, rfl⟩ := hitem
    exact ⟨i, hfits, rfl, by rw [(Element.eq_of_read h).1, Item.encoded_element]⟩
  match bs, h with
  | [], h => cases h
  | first :: after, h =>
      have hfirst := first.toNat_lt
      simp only [Element.read] at h
      split at h
      case isTrue hself =>
        cases h
        have hlt : first < 0x80 := UInt8.lt_iff_toNat_lt.mpr hself
        refine ⟨.string [first], Item.fits_of_lt (show 1 < 56 by decide), ?_⟩
        simp only [Item.element, Item.head, if_pos hlt, Item.isList, Item.payload]
      split at h
      case isTrue hone =>
        match after, h with
        | [], h => cases h
        | b :: more, h =>
            simp only at h
            split at h
            case isTrue => cases h
            case isFalse hb => exact exists_item_of_single hb hone.symm h
      split at h
      case isTrue => exact exists_item_of_shortString (by omega) (by omega) (by omega) h
      split at h
      case isTrue => exact exists_item_of_longString (by omega) (by omega) h
      split at h
      case isTrue => exact exists_item_of_shortList (by omega) (by omega) h
      case isFalse => exact exists_item_of_longList (by omega) (by omega) h

end UnlockProof.Rlp

import Mathlib.Algebra.Group.Nat.Defs
import Mathlib.Data.List.Basic
import Mathlib.Data.List.Forall2
import UnlockProof.Proofs.Rlp.List

/-!
# Canonical encodings

The rules of the encoding, one for each form of an item, and the readers against them: a list is
read exactly if its payload is a row of canonical encodings, and a string exactly from its
canonical encoding. The rules leave no choice, so the items of a list are known from its bytes.

## Implementation notes

The rules speak of the bytes only and not of what the writer does. They need no bound on sizes, as
eight bytes have to hold the size of a long payload.
-/

namespace UnlockProof.Rlp

/-- The bytes that tell the size of a payload of more than 55 bytes: its number without leading
zeros. -/
structure SizeBytes (payload size : Bytes) : Prop where
  long : 55 < payload.length
  value : ofBigEndian size = payload.length
  minimal : size.head? ≠ some 0
  short : size.length ≤ 8

/-- The canonical encoding of an item. -/
inductive Canonical : Item → Bytes → Prop
  /-- A byte below 128 stands for itself. -/
  | single {b} (h : b < 0x80) : Canonical (.string [b]) [b]
  /-- A string of up to 55 bytes has its size in the first byte. -/
  | shortString {s} (h : s.length ≤ 55) (hne : ∀ b, s = [b] → ¬ b < 0x80) :
      Canonical (.string s) (UInt8.ofNat (0x80 + s.length) :: s)
  /-- A longer string has its size in bytes of their own. -/
  | longString {s size} (h : SizeBytes s size) :
      Canonical (.string s) (UInt8.ofNat (0xb7 + size.length) :: (size ++ s))
  /-- A list of up to 55 bytes has its size in the first byte. -/
  | shortList {p} (h : p.length ≤ 55) :
      Canonical (.list p) (UInt8.ofNat (0xc0 + p.length) :: p)
  /-- A longer list has its size in bytes of their own. -/
  | longList {p size} (h : SizeBytes p size) :
      Canonical (.list p) (UInt8.ofNat (0xf7 + size.length) :: (size ++ p))

/-- Bytes that are a list of canonical encodings. -/
def ListsItems (bs : Bytes) (items : List Item) : Prop :=
  ∃ encodings, List.Forall₂ Canonical items encodings ∧ bs = wrapList encodings.flatten

variable {bs payload s size : Bytes} {i : Item} {items : List Item} {encodings : List Bytes}

theorem SizeBytes.fits (h : SizeBytes payload size) : payload.length < UInt64.size := by
  rw [← h.value]
  exact ofBigEndian_lt_of_length_le h.short

theorem SizeBytes.eq_minimalBigEndian (h : SizeBytes payload size) :
    size = minimalBigEndian 8 payload.length := by
  rw [← h.value, minimalBigEndian_ofBigEndian h.short h.minimal]

theorem sizeBytes_minimalBigEndian (hlong : 56 ≤ payload.length)
    (hfits : payload.length < UInt64.size) :
    SizeBytes payload (minimalBigEndian 8 payload.length) where
  long := hlong
  value := ofBigEndian_minimalBigEndian hfits
  minimal := head?_minimalBigEndian_ne 8 payload.length
  short := length_minimalBigEndian_le 8 payload.length

theorem SizeBytes.head_eq (h : SizeBytes payload size) (base : Nat) :
    head base payload.length = UInt8.ofNat (base + 55 + size.length) :: size := by
  rw [head_of_le h.long, ← h.eq_minimalBigEndian]

/-- The rules hold of what is written. -/
theorem canonical_encode (hfits : i.Fits) : Canonical i i.encode := by
  rw [Item.encode_eq_append]
  match i, hfits with
  | .list p, hfits =>
      rw [Item.head, Item.payload]
      rcases Nat.lt_or_ge p.length 56 with hshort | hlong
      · rw [head_of_lt hshort]
        exact .shortList (Nat.le_of_lt_succ hshort)
      · rw [head_of_le hlong]
        exact .longList (sizeBytes_minimalBigEndian hlong hfits)
  | .string s, hfits =>
      rw [Item.payload]
      by_cases hself : ∃ b, s = [b] ∧ b < 0x80
      · obtain ⟨b, rfl, hb⟩ := hself
        rw [Item.head, if_pos hb]
        exact .single hb
      · have hne : ∀ b, s = [b] → ¬ b < 0x80 := fun b hs hb => hself ⟨b, hs, hb⟩
        rw [Item.head_string hne]
        rcases Nat.lt_or_ge s.length 56 with hshort | hlong
        · rw [head_of_lt hshort]
          exact .shortString (Nat.le_of_lt_succ hshort) hne
        · rw [head_of_le hlong]
          exact .longString (sizeBytes_minimalBigEndian hlong hfits)

/-- Bytes that follow the rules are what is written. -/
theorem Canonical.eq_encode (h : Canonical i bs) : i.Fits ∧ bs = i.encode := by
  rw [Item.encode_eq_append]
  cases h with
  | single hb =>
      refine ⟨Item.fits_of_lt (show 1 < 56 by decide), ?_⟩
      rw [Item.head, if_pos hb, Item.payload, List.nil_append]
  | shortString hlen hne =>
      have hshort := Nat.lt_succ_of_le hlen
      refine ⟨Item.fits_of_lt hshort, ?_⟩
      rw [Item.head_string hne, head_of_lt hshort, Item.payload, List.singleton_append]
  | @longString s size hsize =>
      have hne : ∀ b, s = [b] → ¬ b < 0x80 := by
        rintro b rfl
        exact absurd hsize.long (by simp)
      refine ⟨hsize.fits, ?_⟩
      rw [Item.head_string hne, hsize.head_eq, Item.payload, List.cons_append]
  | shortList hlen =>
      have hshort := Nat.lt_succ_of_le hlen
      refine ⟨Item.fits_of_lt hshort, ?_⟩
      rw [Item.head, head_of_lt hshort, Item.payload, List.singleton_append]
  | longList hsize =>
      refine ⟨hsize.fits, ?_⟩
      rw [Item.head, hsize.head_eq, Item.payload, List.cons_append]

theorem canonical_iff : Canonical i bs ↔ i.Fits ∧ bs = i.encode := by
  constructor
  · exact Canonical.eq_encode
  · rintro ⟨hfits, rfl⟩
    exact canonical_encode hfits

theorem encodings_eq_map (h : List.Forall₂ Canonical items encodings) :
    encodings = items.map Item.encode := by
  induction h with
  | nil => rfl
  | cons hi _ ih => rw [List.map_cons, ih, hi.eq_encode.2]

theorem forall₂_canonical_encode (h : ∀ i ∈ items, i.Fits) :
    List.Forall₂ Canonical items (items.map Item.encode) := by
  apply List.forall₂_map_right_iff.mpr
  apply List.forall₂_same.mpr
  intro i hi
  exact canonical_encode (h i hi)

/-- A list is longer than its payload. -/
theorem length_lt_of_wrapList {n : Nat} (h : (wrapList payload).length < n) :
    payload.length < n :=
  Nat.lt_of_le_of_lt (length_payload_le (.list payload)) h

theorem ListsItems.eq_wrapList (h : ListsItems bs items) : bs = wrapList (encodeItems items) := by
  obtain ⟨encodings, hencodings, rfl⟩ := h
  rw [encodings_eq_map hencodings, encodeItems, List.flatMap_def]

/-- The rules hold of a list that is written. -/
theorem listsItems_wrapList (hfits : (encodeItems items).length < UInt64.size) :
    ListsItems (wrapList (encodeItems items)) items := by
  refine ⟨items.map Item.encode, forall₂_canonical_encode fun i => fits_of_mem hfits, ?_⟩
  rw [encodeItems, List.flatMap_def]

theorem listsItems_iff (hbs : bs.length < UInt64.size) :
    ListsItems bs items ↔ bs = wrapList (encodeItems items) := by
  constructor
  · exact ListsItems.eq_wrapList
  · rintro rfl
    exact listsItems_wrapList (length_lt_of_wrapList hbs)

theorem Item.element_injective : Function.Injective Item.element := by
  intro i j h
  simp only [Item.element, Element.mk.injEq] at h
  obtain ⟨hlist, -, hpayload⟩ := h
  cases i with
  | string s =>
      cases j with
      | string s' => exact congrArg Item.string hpayload
      | list p => cases hlist
  | list p =>
      cases j with
      | string s => cases hlist
      | list p' => exact congrArg Item.list hpayload

/-- Items are known from their encodings in a row. -/
theorem encodeItems_inj {items' : List Item} (h : ∀ i ∈ items, i.Fits) (h' : ∀ i ∈ items', i.Fits)
    (heq : encodeItems items = encodeItems items') : items = items' := by
  have hread := elements_encodeItems h
  rw [heq, elements_encodeItems h'] at hread
  exact (List.map_injective_iff.mpr Item.element_injective (Except.ok.inj hread)).symm

/-- The rules leave one reading of a list. -/
theorem ListsItems.unique {items' : List Item} (hbs : bs.length < UInt64.size)
    (h : ListsItems bs items) (h' : ListsItems bs items') : items = items' := by
  rw [listsItems_iff hbs] at h h'
  have hfits := length_lt_of_wrapList (h ▸ hbs)
  have hfits' := length_lt_of_wrapList (h' ▸ hbs)
  -- Both payloads are read from the same bytes.
  have hread := readWhole_wrapList hfits
  rw [← h, h', readWhole_wrapList hfits'] at hread
  have hrow : Item.list (encodeItems items') = Item.list (encodeItems items) :=
    Item.element_injective (Except.ok.inj hread)
  exact encodeItems_inj (fun i => fits_of_mem hfits) (fun i => fits_of_mem hfits')
    (Item.list.inj hrow).symm

theorem decodeList_eq_ok_iff_listsItems (hbs : bs.length < UInt64.size) {views : List Bytes} :
    decodeList bs = .ok views ↔ ∃ items, ListsItems bs items ∧ views = items.map Item.view := by
  constructor
  · intro h
    obtain ⟨items, -, hviews, heq⟩ := exists_items_of_decodeList h
    exact ⟨items, (listsItems_iff hbs).mpr heq, hviews⟩
  · rintro ⟨items, hlist, rfl⟩
    have heq := (listsItems_iff hbs).mp hlist
    rw [heq] at hbs
    rw [heq]
    exact decodeList_wrapList (length_lt_of_wrapList hbs)

theorem decodeBytes_eq_ok_iff_canonical : decodeBytes bs = .ok s ↔ Canonical (.string s) bs := by
  rw [decodeBytes_eq_ok_iff, canonical_iff]
  rfl

/-- The readers accept exactly what follows the rules. A list is read if and only if its payload
is a row of canonical encodings, and what comes out are the views of the items; there is one such
row. A string is read if and only if its bytes are its canonical encoding. -/
theorem readers_accept_canonical (hbs : bs.length < 2 ^ 64) (views : List Bytes) (s : Bytes) :
    (decodeList bs = .ok views ↔
        ∃ items, ListsItems bs items ∧ views = items.map Item.view) ∧
      (∀ items items', ListsItems bs items → ListsItems bs items' → items = items') ∧
      (decodeBytes bs = .ok s ↔ Canonical (.string s) bs) := by
  refine ⟨decodeList_eq_ok_iff_listsItems hbs, ?_, decodeBytes_eq_ok_iff_canonical⟩
  intro items items' h h'
  exact h.unique hbs h'

/-- A long list of a long string, a byte that stands for itself and a nested list. -/
def longSample : Bytes :=
  0xf8 :: 60 :: (0xb8 :: 56 :: List.replicate 56 0) ++ [0x7f, 0xc0]

theorem listsItems_longSample :
    ListsItems longSample [.string (List.replicate 56 0), .string [0x7f], .list []] := by
  have hsize : SizeBytes (List.replicate 56 0) [56] :=
    ⟨by decide, by decide, by decide, by decide⟩
  exact ⟨_, .cons (.longString hsize) (.cons (.single (by decide)) (.cons
    (.shortList (Nat.zero_le 55)) .nil)), by decide⟩

/-- The sample is read as its three items, which it has by no other reading, and as no string. -/
theorem readers_accept_canonical_longSample :
    decodeList longSample = .ok [List.replicate 56 0, [0x7f], [0xc0]] ∧
      (∀ items, ListsItems longSample items →
        items = [.string (List.replicate 56 0), .string [0x7f], .list []]) ∧
      ¬ Canonical (.string []) longSample := by
  obtain ⟨hlist, hunique, hstring⟩ := readers_accept_canonical
    (show longSample.length < 2 ^ 64 by decide) [List.replicate 56 0, [0x7f], [0xc0]] []
  refine ⟨hlist.mpr ⟨_, listsItems_longSample, rfl⟩, ?_, ?_⟩
  · intro items hitems
    exact hunique _ _ hitems listsItems_longSample
  · intro hcanonical
    have hread := hstring.mpr hcanonical
    exact absurd hread (by decide)

end UnlockProof.Rlp

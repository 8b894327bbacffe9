import Mathlib.Algebra.GroupWithZero.Nat
import UnlockProof.Proofs.Outcome
import UnlockProof.Proofs.Rlp.Item

/-!
# Lists and strings that fill a byte string

A list is read exactly if it is the encoding of items in a row, and what comes out are the views
of those items. A string is read exactly if it is the one encoding of what comes out.
-/

namespace UnlockProof.Rlp
open Outcome

/-- The encodings of items in a row. -/
def encodeItems (items : List Item) : Bytes := items.flatMap Item.encode

@[simp] theorem encodeItems_nil : encodeItems [] = [] := rfl

@[simp] theorem encodeItems_cons (i : Item) (items : List Item) :
    encodeItems (i :: items) = i.encode ++ encodeItems items := rfl

theorem length_payload_le (i : Item) : i.payload.length ≤ i.encode.length := by
  rw [i.encode_eq_append, List.length_append]
  omega

theorem length_encode_le (i : Item) : i.encode.length ≤ i.payload.length + 9 := by
  have hhead : i.head.length ≤ 9 := by
    match i with
    | .string [b] =>
        by_cases hb : b < 0x80
        · simp [Item.head, hb]
        · simpa [Item.head, hb] using length_head_le 0x80 1
    | .string [] => exact length_head_le 0x80 0
    | .string (a :: b :: bytes) => exact length_head_le 0x80 (a :: b :: bytes).length
    | .list payload => exact length_head_le 0xc0 payload.length
  rw [i.encode_eq_append, List.length_append]
  omega

theorem length_encodeNat_le (width n : Nat) : (encodeNat width n).length ≤ width + 9 := by
  have hdigits := length_minimalBigEndian_le width n
  have hitem := length_encode_le (.string (minimalBigEndian width n))
  rw [Item.encode, Item.payload] at hitem
  rw [encodeNat]
  omega

theorem length_encode_le_encodeItems {i : Item} {items : List Item} (h : i ∈ items) :
    i.encode.length ≤ (encodeItems items).length := by
  induction items with
  | nil => cases h
  | cons j items ih =>
      rw [encodeItems_cons, List.length_append]
      rcases List.mem_cons.mp h with rfl | h
      · omega
      · have := ih h
        omega

/-- Items that are part of a payload of proper size are of proper size. -/
theorem fits_of_mem {items : List Item} (hfits : (encodeItems items).length < UInt64.size)
    {i : Item} (hi : i ∈ items) : i.Fits :=
  Nat.lt_of_le_of_lt
    (Nat.le_trans (length_payload_le i) (length_encode_le_encodeItems hi)) hfits

theorem length_encodeItems_string_le (ps : List Bytes) :
    (encodeItems (ps.map Item.string)).length ≤ (ps.map List.length).sum + 9 * ps.length := by
  induction ps with
  | nil => exact Nat.le_refl 0
  | cons p ps ih =>
      have hhead : (Item.string p).encode.length ≤ p.length + 9 := length_encode_le (.string p)
      rw [List.map_cons, encodeItems_cons, List.length_append, List.map_cons, List.sum_cons,
        List.length_cons]
      omega

theorem elements_of_read {bs rest : Bytes} {e : Element} (h : Element.read bs = .ok (e, rest)) :
    elements bs = (elements rest).map (e :: ·) := by
  have hne : bs.isEmpty = false := by
    have := Element.length_of_read h
    cases bs with
    | nil => simp at this
    | cons b bs => rfl
  rw [elements, hne]
  simp only [Bool.false_eq_true, if_false]
  split
  case h_1 f hf => rw [h] at hf; cases hf
  case h_2 e' rest' hr => rw [h] at hr; cases hr; rfl

theorem elements_encodeItems {items : List Item} (hfits : ∀ i ∈ items, i.Fits) :
    elements (encodeItems items) = .ok (items.map Item.element) := by
  induction items with
  | nil => rw [elements]; rfl
  | cons i items ih =>
      have hread := read_encode_append (hfits i List.mem_cons_self) (encodeItems items)
      rw [encodeItems_cons, elements_of_read hread,
        ih fun j hj => hfits j (List.mem_cons_of_mem i hj)]
      rfl

theorem exists_items_of_elements {bs : Bytes} {es : List Element} (h : elements bs = .ok es) :
    ∃ items : List Item, (∀ i ∈ items, i.Fits) ∧ es = items.map Item.element ∧
      bs = encodeItems items := by
  induction es generalizing bs with
  | nil =>
      cases hr : Element.read bs with
      | error f =>
          rw [elements] at h
          split at h
          · exact ⟨[], nofun, rfl, List.isEmpty_iff.mp ‹_›⟩
          · split at h <;> simp_all
      | ok p =>
          rw [elements_of_read hr] at h
          obtain ⟨more, -, hmore⟩ := map_eq_ok_iff.mp h
          cases hmore
  | cons e es ih =>
      cases hr : Element.read bs with
      | error f =>
          rw [elements] at h
          split at h
          · cases h
          · split at h <;> simp_all
      | ok p =>
          obtain ⟨e', rest⟩ := p
          rw [elements_of_read hr] at h
          obtain ⟨more, hrest, hmore⟩ := map_eq_ok_iff.mp h
          obtain ⟨rfl, rfl⟩ := List.cons.inj hmore
          obtain ⟨i, hi, rfl, rfl⟩ := exists_item_of_read hr
          obtain ⟨items, hitems, rfl, rfl⟩ := ih hrest
          exact ⟨i :: items, by simpa using ⟨hi, hitems⟩, rfl, rfl⟩

theorem readWhole_encode {i : Item} (hfits : i.Fits) :
    readWhole i.isList i.encode = .ok i.element := by
  have hread := read_encode_append hfits []
  rw [List.append_nil] at hread
  simp [readWhole, hread, Item.element]

theorem readWhole_wrapList {payload : Bytes} (h : payload.length < UInt64.size) :
    readWhole true (wrapList payload) = .ok (Item.list payload).element :=
  readWhole_encode (i := .list payload) h

/-- No encoding is the front of a longer one. -/
theorem eq_nil_of_encode_append {i j : Item} (hi : i.Fits) (hj : j.Fits) {after : Bytes}
    (h : i.encode ++ after = j.encode) : after = [] := by
  have hfront := read_encode_append hi after
  have hwhole := read_encode_append hj []
  rw [List.append_nil, ← h, hfront] at hwhole
  exact congrArg Prod.snd (Except.ok.inj hwhole)

theorem exists_item_of_readWhole {isList : Bool} {bs : Bytes} {e : Element}
    (h : readWhole isList bs = .ok e) :
    ∃ i : Item, i.Fits ∧ i.isList = isList ∧ e = i.element ∧ bs = i.encode := by
  obtain ⟨hlist, hread⟩ := eq_of_readWhole h
  obtain ⟨i, hfits, rfl, rfl⟩ := exists_item_of_read hread
  exact ⟨i, hfits, hlist, rfl, List.append_nil _⟩

theorem decodeList_eq_ok_iff {bs : Bytes} {views : List Bytes} :
    decodeList bs = .ok views ↔ ∃ e es, readWhole true bs = .ok e ∧
      elements e.payload = .ok es ∧ es.map Element.view = views := by
  simp only [decodeList, bind_eq_ok_iff, pure_eq_ok_iff]
  constructor
  · rintro ⟨e, he, es, hes, hv⟩
    exact ⟨e, es, he, hes, hv⟩
  · rintro ⟨e, es, he, hes, hv⟩
    exact ⟨e, he, es, hes, hv⟩

theorem map_view_map_element (items : List Item) :
    (items.map Item.element).map Element.view = items.map Item.view := by
  rw [List.map_map]
  exact List.map_congr_left fun i _ => i.view_element

/-- A list of items is read as the views of its items. -/
theorem decodeList_wrapList {items : List Item}
    (hfits : (encodeItems items).length < UInt64.size) :
    decodeList (wrapList (encodeItems items)) = .ok (items.map Item.view) := by
  have hwhole := readWhole_wrapList hfits
  have helements := elements_encodeItems fun i hi => fits_of_mem hfits hi
  exact decodeList_eq_ok_iff.mpr ⟨_, _, hwhole, helements, map_view_map_element items⟩

/-- Whatever is read as a list is the encoding of items in a row. -/
theorem exists_items_of_decodeList {bs : Bytes} {views : List Bytes}
    (h : decodeList bs = .ok views) :
    ∃ items : List Item, (encodeItems items).length < UInt64.size ∧
      views = items.map Item.view ∧ bs = wrapList (encodeItems items) := by
  obtain ⟨e, es, hwhole, hes, rfl⟩ := decodeList_eq_ok_iff.mp h
  obtain ⟨i, hfits, hlist, rfl, rfl⟩ := exists_item_of_readWhole hwhole
  match i, hlist with
  | .list payload, _ =>
      obtain ⟨items, -, rfl, rfl⟩ := exists_items_of_elements hes
      exact ⟨items, hfits, map_view_map_element items, rfl⟩

/-- A string is read exactly from its one encoding. -/
theorem decodeBytes_eq_ok_iff {bs s : Bytes} :
    decodeBytes bs = .ok s ↔ s.length < UInt64.size ∧ bs = encodeBytes s := by
  simp only [decodeBytes, bind_eq_ok_iff, pure_eq_ok_iff]
  constructor
  · rintro ⟨e, hwhole, rfl⟩
    obtain ⟨i, hfits, hlist, rfl, rfl⟩ := exists_item_of_readWhole hwhole
    match i, hlist with
    | .string bytes, _ => exact ⟨hfits, rfl⟩
  · rintro ⟨hfits, rfl⟩
    exact ⟨_, readWhole_encode (i := .string s) hfits, rfl⟩

end UnlockProof.Rlp

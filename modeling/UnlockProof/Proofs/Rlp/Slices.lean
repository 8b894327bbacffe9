import Mathlib.Data.List.Basic
import UnlockProof.Proofs.Rlp.List

/-!
# Cutting a list into its items

Here a list is read by places: its head is taken off, and each item is cut out at places computed
from the size in its own head. A cut may fall outside of the bytes at hand, which is an ending of
its own, apart from faults. It never comes to that: for all bytes, cutting ends as reading does.
Every item that is cut out lies in one piece in the encoding of the list.

## Implementation notes

The last check of a head is that the whole payload follows it, and this is all that keeps the
cuts inside. A byte that stands for itself is its own payload, so no byte is passed over for its
head and only the cut behind it moves on.
-/

namespace UnlockProof

/-- How a computation over places stops early: at a place that is not there, or with a fault. -/
inductive Stop (ε : Type) where
  | outOfRange
  | fault (f : ε)
deriving DecidableEq

namespace Stop

variable {ε ε' α : Type} {xs ys : List α} {n : Nat}

/-- A stop within a larger computation, which has faults of its own. -/
def map (g : ε → ε') : Stop ε → Stop ε'
  | outOfRange => outOfRange
  | fault f => fault (g f)

/-- The entry at a place. -/
def entry (n : Nat) (xs : List α) : Except (Stop ε) α :=
  match xs[n]? with
  | some x => .ok x
  | none => .error .outOfRange

/-- The entries before a place. -/
def before (n : Nat) (xs : List α) : Except (Stop ε) (List α) :=
  if n ≤ xs.length then .ok (xs.take n) else .error .outOfRange

/-- The entries from a place on. -/
def onward (n : Nat) (xs : List α) : Except (Stop ε) (List α) :=
  if n ≤ xs.length then .ok (xs.drop n) else .error .outOfRange

/-- How far a place is behind another. -/
def distance (n m : Nat) : Except (Stop ε) Nat :=
  if m ≤ n then .ok (n - m) else .error .outOfRange

theorem entry_of_lt (h : n < xs.length) : (entry n xs : Except (Stop ε) α) = .ok xs[n] := by
  rw [entry, List.getElem?_eq_getElem h]

theorem onward_of_le (h : n ≤ xs.length) :
    (onward n xs : Except (Stop ε) (List α)) = .ok (xs.drop n) := if_pos h

theorem before_append : (before xs.length (xs ++ ys) : Except (Stop ε) (List α)) = .ok xs := by
  rw [before, if_pos (by simp), List.take_left]

theorem onward_append : (onward xs.length (xs ++ ys) : Except (Stop ε) (List α)) = .ok ys := by
  rw [onward_of_le (by simp), List.drop_left]

theorem distance_add (n m : Nat) : (distance (n + m) m : Except (Stop ε) Nat) = .ok n := by
  rw [distance, if_pos (Nat.le_add_left m n), Nat.add_sub_cancel]

end Stop

namespace Rlp
open Outcome

/-- What a head says: the kind of the element and the size of its payload. -/
structure Head where
  isList : Bool
  size : Nat
deriving DecidableEq

namespace Head

/-- Passes a head on together with the bytes behind it, which must hold the payload. -/
def within (h : Head) (rest : Bytes) : Except Fault (Head × Bytes) :=
  if rest.length < h.size then .error .tooShort else .ok (h, rest)

/-- Reads the size that takes `width` bytes. -/
def readSize (isList : Bool) (width : Nat) (rest : Bytes) : Except Fault (Head × Bytes) :=
  let sizeBytes := rest.take width
  if rest.length < width then .error .tooShort
  else if sizeBytes.head? = some 0 then .error .leadingZero
  else if ofBigEndian sizeBytes < 56 then .error .nonCanonicalSize
  else within ⟨isList, ofBigEndian sizeBytes⟩ (rest.drop width)

/-- Reads a head and returns the bytes behind it. -/
def read : Bytes → Except Fault (Head × Bytes)
  | [] => .error .tooShort
  | first :: rest =>
      let n := first.toNat
      if n < 0x80 then within ⟨false, 1⟩ (first :: rest)
      else if n = 0x81 then
        match rest with
        | [] => .error .tooShort
        | b :: _ => if b < 0x80 then .error .nonCanonicalByte else within ⟨false, 1⟩ rest
      else if n < 0xb8 then within ⟨false, n - 0x80⟩ rest
      else if n < 0xc0 then readSize false (n - 0xb7) rest
      else if n < 0xf8 then within ⟨true, n - 0xc0⟩ rest
      else readSize true (n - 0xf7) rest

/-- The head of an element, and the bytes behind the head when others follow the element. -/
def ofElement : Element × Bytes → Head × Bytes
  | (e, rest) => (⟨e.isList, e.payload.length⟩, e.payload ++ rest)

variable {isList : Bool} {rest : Bytes}

theorem within_eq (head : Bytes) (size : Nat) :
    within ⟨isList, size⟩ rest = (Element.readPayload isList head size rest).map ofElement := by
  by_cases hshort : rest.length < size
  · rw [within, if_pos hshort, Element.readPayload, if_pos hshort]
    rfl
  · have hsize : (rest.take size).length = size := List.length_take_of_le (Nat.not_lt.mp hshort)
    rw [within, if_neg hshort, Element.readPayload, if_neg hshort]
    simp only [Except.map, ofElement, hsize, List.take_append_drop]

theorem readSize_eq (first : UInt8) (width : Nat) :
    readSize isList width rest = (Element.readLong isList first width rest).map ofElement := by
  simp only [readSize, Element.readLong, within_eq (first :: rest.take width)]
  split_ifs <;> rfl

/-- A head is read exactly if an element is, and the payload of that element is behind it. -/
theorem read_eq (bs : Bytes) : read bs = (Element.read bs).map ofElement := by
  cases bs with
  | nil => rfl
  | cons first rest =>
      simp only [read, Element.read]
      split
      case isTrue => exact if_neg (by simp)
      split
      case isTrue =>
        cases rest with
        | nil => rfl
        | cons b more =>
            simp only
            split
            case isTrue => rfl
            case isFalse => exact within_eq [first] 1
      split
      case isTrue => exact within_eq [first] _
      split
      case isTrue => exact readSize_eq first _
      split
      case isTrue => exact within_eq [first] _
      case isFalse => exact readSize_eq first _

end Head

/-- Cuts out the item behind a head of a known width: a string without the head, a list with it. -/
def Head.cut (h : Head) (width : Nat) (bs behind : Bytes) : Except (Stop Fault) Bytes :=
  if h.isList then Stop.before (width + h.size) bs else Stop.before h.size behind

/-- Cuts the first item off. -/
def nextItem (bs : Bytes) : Except (Stop Fault) (Bytes × Bytes) := do
  let (head, behind) ← (Head.read bs).mapError .fault
  let width ← Stop.distance bs.length behind.length
  let item ← head.cut width bs behind
  let rest ← Stop.onward head.size behind
  return (item, rest)

theorem Head.cut_eq (e : Element) (rest : Bytes) :
    Head.cut ⟨e.isList, e.payload.length⟩ e.head.length (e.encoded ++ rest) (e.payload ++ rest) =
      .ok e.view := by
  have hlist : e.head.length + e.payload.length = e.encoded.length := List.length_append.symm
  rw [Head.cut, hlist, Stop.before_append, Stop.before_append, Element.view]
  split <;> rfl

/-- The cuts behind a head give the element with this head and what follows it. -/
theorem nextItem_of_read {bs rest : Bytes} {e : Element} (h : Element.read bs = .ok (e, rest)) :
    nextItem bs = .ok (e.view, rest) := by
  obtain ⟨rfl, -, -⟩ := Element.eq_of_read h
  have hhead : Head.read (e.encoded ++ rest) =
      .ok (⟨e.isList, e.payload.length⟩, e.payload ++ rest) := by
    rw [Head.read_eq, h]
    rfl
  have hlength : (e.encoded ++ rest).length = e.head.length + (e.payload ++ rest).length := by
    rw [Element.encoded, List.append_assoc, List.length_append]
  have hwidth : Stop.distance (e.encoded ++ rest).length (e.payload ++ rest).length =
      (.ok e.head.length : Except (Stop Fault) Nat) := by
    rw [hlength, Stop.distance_add]
  have hitem := Head.cut_eq e rest
  simp only [nextItem, bind_eq_ok_iff, pure_eq_ok_iff]
  exact ⟨_, mapError_eq_ok_iff.mpr hhead, _, hwidth, _, hitem, rest, Stop.onward_append, rfl⟩

theorem nextItem_of_read_eq_error {bs : Bytes} {f : Fault} (h : Element.read bs = .error f) :
    nextItem bs = .error (.fault f) := by
  rw [nextItem, Head.read_eq, h]
  rfl

theorem length_lt_of_nextItem {bs item rest : Bytes} (h : nextItem bs = .ok (item, rest)) :
    rest.length < bs.length := by
  cases hread : Element.read bs with
  | error f => cases (nextItem_of_read_eq_error hread).symm.trans h
  | ok p => cases (nextItem_of_read hread).symm.trans h; exact Element.length_of_read hread

/-- Cuts items off up to the end of a byte string. -/
def cutItems (bs : Bytes) : Except (Stop Fault) (List Bytes) :=
  if bs.isEmpty then .ok []
  else match h : nextItem bs with
    | .error s => .error s
    | .ok (item, rest) =>
        have := length_lt_of_nextItem h
        (cutItems rest).map (item :: ·)
termination_by bs.length

/-- Cuts the list that fills a byte string into its items. -/
def cutList (bs : Bytes) : Except (Stop Fault) (List Bytes) := do
  let (head, payload) ← (Head.read bs).mapError .fault
  if ¬ head.isList then .error (.fault .unexpectedString)
  else if payload.length ≠ head.size then .error (.fault .unexpectedLength)
  else cutItems payload

theorem elements_of_read_eq_error {bs : Bytes} {f : Fault} (hne : ¬ bs.isEmpty)
    (h : Element.read bs = .error f) : elements bs = .error f := by
  rw [elements, if_neg hne]
  split
  case h_1 f' hf => cases h.symm.trans hf; rfl
  case h_2 e rest hr => cases h.symm.trans hr

/-- Cutting items off ends as reading them does, and gives their views. -/
theorem cutItems_eq (bs : Bytes) :
    cutItems bs = ((elements bs).map (·.map Element.view)).mapError .fault := by
  fun_induction cutItems bs with
  | case1 bs hnil =>
      rw [elements, if_pos hnil]
      rfl
  | case2 bs hne s h =>
      cases hread : Element.read bs with
      | error f =>
          cases (nextItem_of_read_eq_error hread).symm.trans h
          rw [elements_of_read_eq_error hne hread]
          rfl
      | ok p => cases (nextItem_of_read hread).symm.trans h
  | case3 bs hne item rest h hlen ih =>
      cases hread : Element.read bs with
      | error f => cases (nextItem_of_read_eq_error hread).symm.trans h
      | ok p =>
          cases (nextItem_of_read hread).symm.trans h
          rw [ih, elements_of_read hread]
          cases elements p.2 with
          | error f => rfl
          | ok es => rfl

/-- Cutting a list into its items ends as reading the list does, for all bytes. -/
theorem cutList_eq (bs : Bytes) : cutList bs = (decodeList bs).mapError .fault := by
  rw [cutList, Head.read_eq, decodeList, readWhole]
  cases hread : Element.read bs with
  | error f => rfl
  | ok p =>
      obtain ⟨e, rest⟩ := p
      have hsize : (e.payload ++ rest).length ≠ e.payload.length ↔ rest ≠ [] := by simp
      simp only [Except.map, Head.ofElement, mapError_ok, bind, Except.bind, hsize]
      cases hkind : e.isList with
      | false => simp
      | true =>
          by_cases hrest : rest = []
          · subst hrest
            rw [List.append_nil, cutItems_eq]
            cases hitems : elements e.payload with
            | error f => simp [hitems, Except.map]
            | ok es => simp [hitems, Except.map, pure, Except.pure]
          · simp [hrest]

/-- Every item of a list lies in one piece in the encoding of the list. -/
theorem isInfix_of_mem_decodeList {bs item : Bytes} {items : List Bytes}
    (h : decodeList bs = .ok items) (hitem : item ∈ items) : item <:+: bs := by
  obtain ⟨is, -, rfl, rfl⟩ := exists_items_of_decodeList h
  obtain ⟨i, hi, rfl⟩ := List.mem_map.mp hitem
  have hview : i.view <:+: i.encode := by
    cases i with
    | string bytes =>
        rw [Item.encode_eq_append]
        exact (List.suffix_append _ bytes).isInfix
    | list payload => exact List.infix_rfl
  have hrow : i.encode <:+: encodeItems is := by
    rw [encodeItems, List.flatMap_def]
    exact List.infix_of_mem_flatten (List.mem_map_of_mem hi)
  have hlist : encodeItems is <:+: wrapList (encodeItems is) := (List.suffix_append _ _).isInfix
  exact hview.trans (hrow.trans hlist)

end Rlp
end UnlockProof

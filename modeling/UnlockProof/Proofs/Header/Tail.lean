import Mathlib.Data.List.Basic
import UnlockProof.Proofs.Header.Encoding

/-!
# Tails of headers

The fields of the tail stand in the order in which forks have added them. A tail has an encoding
unless it has a gap, and the gap that is named is the first one. What is encoded are the present
fields; they are among those of the header's layout, and they are all of them unless the tail ends
inside of a fork that adds several fields.

## Implementation notes

The layout of a header is judged by the last field that is present, and contiguity is asked field by
field. Only Cancun adds more than one field, so a tail that ends with one of its first two fields is
contiguous and counts as a header of Cancun that lacks fields.
-/

namespace UnlockProof

/-- The fields of the tail in their order. -/
def TailField.all : List TailField :=
  [.baseFeePerGas, .withdrawalsRoot, .blobGasUsed, .excessBlobGas, .parentBeaconBlockRoot,
    .requestsHash]

/-- The fields of the tail that a layout has. -/
def Fork.tailFields : Fork → List TailField
  | frontier => []
  | london => [.baseFeePerGas]
  | shanghai => [.baseFeePerGas, .withdrawalsRoot]
  | cancun =>
      [.baseFeePerGas, .withdrawalsRoot, .blobGasUsed, .excessBlobGas, .parentBeaconBlockRoot]
  | prague => TailField.all

theorem Fork.fieldCount_eq (k : Fork) : k.fieldCount = 15 + k.tailFields.length := by
  cases k <;> rfl

theorem Fork.filter_all (k : Fork) :
    TailField.all.filter (fun f => decide (f ∈ k.tailFields)) = k.tailFields := by
  cases k <;> rfl

theorem Fork.tailFields_sublist (k : Fork) : k.tailFields.Sublist TailField.all := by
  rw [← k.filter_all]
  exact List.filter_sublist

namespace Header
open Outcome Rlp

variable {h : Header} {bs : Bytes} {gap : TailGap}

/-- Tells whether a header has a field of the tail. -/
def has (h : Header) : TailField → Bool
  | .baseFeePerGas => h.baseFeePerGas.isSome
  | .withdrawalsRoot => h.withdrawalsRoot.isSome
  | .blobGasUsed => h.blobGasUsed.isSome
  | .excessBlobGas => h.excessBlobGas.isSome
  | .parentBeaconBlockRoot => h.parentBeaconBlockRoot.isSome
  | .requestsHash => h.requestsHash.isSome

/-- The fields of the tail that a header has. -/
def presentFields (h : Header) : List TailField := TailField.all.filter h.has

theorem map_has_all (h : Header) : TailField.all.map h.has = h.tailPresence := rfl

theorem hasContiguousTail_iff :
    h.HasContiguousTail ↔
      TailField.all.Pairwise fun earlier later => h.has later → h.has earlier := by
  rw [HasContiguousTail, ← map_has_all, List.pairwise_map]

/-- Says that a gap is the first one of a tail: no field in front of its absent one is absent, and
none between its two fields is present. -/
def FirstGap (h : Header) (gap : TailGap) : Prop :=
  ∃ front between rest, TailField.all = front ++ gap.absent :: (between ++ gap.present :: rest) ∧
    (∀ f ∈ front, h.has f) ∧ ¬ h.has gap.absent ∧ (∀ f ∈ between, ¬ h.has f) ∧ h.has gap.present

/-- A field of the tail, encoded if it is present. -/
def tailBytes (h : Header) : TailField → Option Bytes
  | .baseFeePerGas => h.baseFeePerGas.map encodeUInt64
  | .withdrawalsRoot => h.withdrawalsRoot.map encodeFixed
  | .blobGasUsed => h.blobGasUsed.map encodeUInt64
  | .excessBlobGas => h.excessBlobGas.map encodeUInt64
  | .parentBeaconBlockRoot => h.parentBeaconBlockRoot.map encodeFixed
  | .requestsHash => h.requestsHash.map encodeFixed

theorem isSome_tailBytes (h : Header) (f : TailField) : (h.tailBytes f).isSome = h.has f := by
  cases f <;> exact Option.isSome_map

theorem tail_eq_map (h : Header) : h.tail = TailField.all.map fun f => (f, h.tailBytes f) := rfl

theorem gapIn_map_eq_some_iff {fields : List TailField} {value : TailField → Option Bytes} :
    gapIn (fields.map fun f => (f, value f)) = some gap ↔
      ∃ front between rest, fields = front ++ gap.absent :: (between ++ gap.present :: rest) ∧
        (∀ f ∈ front, (value f).isSome) ∧ ¬ (value gap.absent).isSome ∧
        (∀ f ∈ between, ¬ (value f).isSome) ∧ (value gap.present).isSome := by
  induction fields with
  | nil => simp [gapIn]
  | cons field fields ih =>
      cases hvalue : value field with
      | some bytes =>
          -- A present field lies in front of the gap, if there is one.
          simp only [List.map_cons, hvalue, gapIn, ih]
          constructor
          · rintro ⟨front, between, rest, rfl, hfront, hrest⟩
            refine ⟨field :: front, between, rest, rfl, ?_, hrest⟩
            simpa [hvalue] using hfront
          · rintro ⟨front, between, rest, hsplit, hfront, habsent, hrest⟩
            cases front with
            | nil =>
                obtain ⟨rfl, -⟩ := List.cons.inj hsplit
                simp [hvalue] at habsent
            | cons f front =>
                obtain ⟨-, hsplit⟩ := List.cons.inj hsplit
                exact ⟨front, between, rest, hsplit, (List.forall_mem_cons.mp hfront).2, habsent,
                  hrest⟩
      | none =>
          -- An absent field opens the gap, which the next present one closes.
          simp only [List.map_cons, hvalue, gapIn, List.find?_map, Option.map_map,
            Option.map_eq_some_iff, List.find?_eq_some_iff_append]
          constructor
          · rintro ⟨present, ⟨hpresent, between, rest, hsplit, hbetween⟩, rfl⟩
            refine ⟨[], between, rest, by rw [hsplit]; rfl, List.forall_mem_nil _, by simp [hvalue],
              ?_, hpresent⟩
            simpa using hbetween
          · rintro ⟨front, between, rest, hsplit, hfront, habsent, hbetween, hpresent⟩
            cases front with
            | nil =>
                obtain ⟨rfl, rfl⟩ := List.cons.inj hsplit
                refine ⟨gap.present, ⟨hpresent, between, rest, rfl, ?_⟩, rfl⟩
                simpa using hbetween
            | cons f front =>
                obtain ⟨rfl, -⟩ := List.cons.inj hsplit
                simp [hvalue] at hfront

/-- The gap that is named is the first one. -/
theorem tailGap_eq_some_iff : h.tailGap = some gap ↔ h.FirstGap gap := by
  rw [tailGap, tail_eq_map, gapIn_map_eq_some_iff, FirstGap]
  simp only [isSome_tailBytes]

theorem encode_eq_error_iff : h.encode = .error gap ↔ h.tailGap = some gap := by
  rw [encode]
  cases h.tailGap with
  | none => simp
  | some gap => simp

/-- A header without an encoding fails with the field behind its first gap. -/
theorem encodeOrFail_eq_error_iff {f : Failure} :
    h.encodeOrFail = .error f ↔
      ∃ gap, h.FirstGap gap ∧ f = .encodingMismatch gap.present.name (.tailGap gap.absent) := by
  rw [encodeOrFail, mapError_eq_error_iff]
  simp only [encode_eq_error_iff, tailGap_eq_some_iff]
  exact exists_congr fun _ => and_congr_right' eq_comm

theorem length_reduceOption_tailPayloads (h : Header) :
    h.tailPayloads.reduceOption.length = h.presentFields.length := by
  calc
    h.tailPayloads.reduceOption.length = h.tailPayloads.countP Option.isSome := by
      rw [List.reduceOption_length_eq, List.countP_eq_length_filter]
    _ = h.tailPresence.countP id := by
      rw [← map_isSome_tailPayloads, List.countP_map]
      rfl
    _ = h.presentFields.length := by
      rw [← map_has_all, List.countP_map, List.countP_eq_length_filter]
      rfl

/-- A header has a payload for each of its own fields and for each present field of the tail. -/
theorem length_payloads (h : Header) : h.payloads.length = 15 + h.presentFields.length := by
  rw [length_payloads_eq_add, length_reduceOption_tailPayloads]

/-- A present field is one of the layout. -/
theorem mem_tailFields_of_has {f : TailField} (hf : h.has f) : f ∈ h.fork.tailFields := by
  rw [fork]
  -- A layout is reached only if every field that it lacks is absent.
  split_ifs <;> cases f <;> simp_all [has, Fork.tailFields, TailField.all]

theorem presentFields_sublist (h : Header) : h.presentFields.Sublist h.fork.tailFields := by
  rw [presentFields, ← h.fork.filter_all]
  apply List.monotone_filter_right
  intro f hf
  exact decide_eq_true (mem_tailFields_of_has hf)

/-- If the last of some fields is present in a contiguous tail, then all of them are. -/
theorem has_of_getLast? (hc : h.HasContiguousTail) {fields : List TailField} {last : TailField}
    (hfields : fields.Sublist TailField.all) (hlast : fields.getLast? = some last)
    (hhas : h.has last) : ∀ f ∈ fields, h.has f := by
  obtain ⟨front, rfl⟩ := List.getLast?_eq_some_iff.mp hlast
  have hpairs := (hasContiguousTail_iff.mp hc).sublist hfields
  have hfront := (List.pairwise_append.mp hpairs).2.2
  intro f hf
  rcases List.mem_append.mp hf with hf | hf
  · exact hfront f hf last List.mem_cons_self hhas
  · rw [List.mem_singleton.mp hf]
    exact hhas

/-- The last field of a layout that is not interrupted is present. -/
theorem has_of_getLast?_fork (hc : h.HasContiguousTail)
    (hwhole : h.has .blobGasUsed → h.has .parentBeaconBlockRoot) {last : TailField}
    (hlast : h.fork.tailFields.getLast? = some last) : h.has last := by
  have hused : h.has .excessBlobGas → h.has .blobGasUsed := by
    intro hexcess
    have hfields : [TailField.blobGasUsed, .excessBlobGas].Sublist TailField.all := by decide
    exact has_of_getLast? hc hfields rfl hexcess .blobGasUsed List.mem_cons_self
  rw [fork] at hlast
  split_ifs at hlast with hprague hcancun hshanghai hlondon
  · cases hlast
    exact hprague
  · cases hlast
    simp only [Bool.or_eq_true] at hcancun
    rcases hcancun with (hroot | hexcess) | hblob
    · exact hroot
    · exact hwhole (hused hexcess)
    · exact hwhole hblob
  · cases hlast
    exact hshanghai
  · cases hlast
    exact hlondon
  · cases hlast

/-- The present fields are those of the layout unless the tail is interrupted within Cancun. -/
theorem presentFields_eq_iff (hc : h.HasContiguousTail) :
    h.presentFields = h.fork.tailFields ↔
      (h.has .blobGasUsed → h.has .parentBeaconBlockRoot) := by
  constructor
  · intro heq hused
    have hlayout (k : Fork) (hk : .blobGasUsed ∈ k.tailFields) :
        .parentBeaconBlockRoot ∈ k.tailFields := by
      cases k <;> simp_all [Fork.tailFields, TailField.all]
    have hmem := hlayout h.fork (mem_tailFields_of_has hused)
    rw [← heq, presentFields, List.mem_filter] at hmem
    exact hmem.2
  · intro hwhole
    have hall : ∀ f ∈ h.fork.tailFields, h.has f := by
      cases hlast : h.fork.tailFields.getLast? with
      | none =>
          rw [List.getLast?_eq_none_iff.mp hlast]
          nofun
      | some last =>
          exact has_of_getLast? hc h.fork.tailFields_sublist hlast
            (has_of_getLast?_fork hc hwhole hlast)
    rw [presentFields, ← h.fork.filter_all]
    apply List.filter_congr
    intro f _
    rw [Bool.eq_iff_iff, decide_eq_true_iff]
    exact ⟨mem_tailFields_of_has, hall f⟩

/-- The number of items of an encoded header. It is fifteen and one for each present field of the
tail, never more than the layout has, and equal to that unless the tail is interrupted within
Cancun. -/
theorem length_items_eq_fieldCount_iff (hextra : h.extraData.length < Nat.pow 2 63)
    (he : h.encode = .ok bs) :
    ∃ items, decodeList bs = .ok items ∧ items.length = 15 + h.presentFields.length ∧
      items.length ≤ h.fork.fieldCount ∧
      (items.length = h.fork.fieldCount ↔
        (h.blobGasUsed.isSome → h.parentBeaconBlockRoot.isSome)) := by
  have hc := exists_encode_iff.mp ⟨bs, he⟩
  have hsublist := h.presentFields_sublist
  refine ⟨h.payloads, decodeList_encode hextra he, h.length_payloads, ?_, ?_⟩
  · rw [length_payloads, Fork.fieldCount_eq]
    exact Nat.add_le_add_left hsublist.length_le 15
  · rw [length_payloads, Fork.fieldCount_eq, Nat.add_left_cancel_iff]
    have hlength : h.presentFields.length = h.fork.tailFields.length ↔
        h.presentFields = h.fork.tailFields := ⟨hsublist.eq_of_length, congrArg List.length⟩
    exact hlength.trans (presentFields_eq_iff hc)

/-- A header with all fields of Cancun. -/
def cancunSample : Header :=
  { genesis with
    baseFeePerGas := some 7
    withdrawalsRoot := some (bytesOfU256 0)
    blobGasUsed := some 0
    excessBlobGas := some 0
    parentBeaconBlockRoot := some (bytesOfU256 0) }

/-- The same header, which ends with the first field of Cancun. -/
def interruptedSample : Header :=
  { cancunSample with excessBlobGas := none, parentBeaconBlockRoot := none }

theorem encode_cancunSample : cancunSample.encode = .ok cancunSample.encodeFields :=
  encode_eq_ok_iff.mpr ⟨by simp [HasContiguousTail, tailPresence, cancunSample, genesis], rfl⟩

theorem encode_interruptedSample :
    interruptedSample.encode = .ok interruptedSample.encodeFields :=
  encode_eq_ok_iff.mpr
    ⟨by simp [HasContiguousTail, tailPresence, interruptedSample, cancunSample, genesis], rfl⟩

/-- A header of Cancun has the items of its layout. -/
theorem length_items_eq_fieldCount_iff_cancunSample :
    ∃ items, decodeList cancunSample.encodeFields = .ok items ∧
      items.length = cancunSample.fork.fieldCount := by
  obtain ⟨items, hread, -, -, hiff⟩ := length_items_eq_fieldCount_iff
    (show cancunSample.extraData.length < Nat.pow 2 63 by decide) encode_cancunSample
  exact ⟨items, hread, hiff.mpr fun _ => rfl⟩

/-- A header that is encoded counts as one of Cancun and has 18 items in the place of 20. -/
theorem encoded_interrupted_fewer_items :
    interruptedSample.encode = .ok interruptedSample.encodeFields ∧
      (∃ items, decodeList interruptedSample.encodeFields = .ok items ∧ items.length = 18) ∧
      interruptedSample.fork = .cancun ∧ interruptedSample.fork.fieldCount = 20 := by
  have hextra : interruptedSample.extraData.length < Nat.pow 2 63 := by decide
  refine ⟨encode_interruptedSample, ⟨interruptedSample.payloads,
    decodeList_encode hextra encode_interruptedSample, ?_⟩, rfl, rfl⟩
  rw [length_payloads]
  rfl

end Header
end UnlockProof

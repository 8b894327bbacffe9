import Mathlib.Data.List.ReduceOption
import Mathlib.Data.Option.Basic
import UnlockProof.Proofs.Rlp.List
import UnlockProof.Record.Assembly

/-!
# The payloads of a header

The encoding of a header is the list of its payloads: fixed widths in full, numbers without
leading zeros, the fields of the tail where they are present. Reading the list gives the payloads
back, and as the tail has no gap the payloads tell which of its fields are present. So the
encoding determines every field, and only the reported hash stands outside of it.
-/

namespace UnlockProof.Header
open Rlp Outcome

/-- The payload of a 64-bit number. -/
def numberPayload (n : UInt64) : Bytes := minimalBigEndian 8 n.toNat

/-- The payload of a 256-bit number. -/
def widePayload (n : U256) : Bytes := minimalBigEndian 32 n.toNat

/-- The payloads of the fields that every header has. -/
def bodyPayloads (h : Header) : List Bytes :=
  [h.parentHash.toList, h.unclesHash.toList, h.beneficiary.toList, h.stateRoot.toList,
    h.transactionsRoot.toList, h.receiptsRoot.toList, h.logsBloom.toList,
    widePayload h.difficulty, numberPayload h.number, numberPayload h.gasLimit,
    numberPayload h.gasUsed, numberPayload h.timestamp, h.extraData, h.mixHash.toList,
    h.nonce.toList]

/-- The payloads of the fields of the tail in the order of their forks. -/
def tailPayloads (h : Header) : List (Option Bytes) :=
  [h.baseFeePerGas.map numberPayload, h.withdrawalsRoot.map FixedBytes.toList,
    h.blobGasUsed.map numberPayload, h.excessBlobGas.map numberPayload,
    h.parentBeaconBlockRoot.map FixedBytes.toList, h.requestsHash.map FixedBytes.toList]

/-- The payloads of a header, in which an absent field has no place. -/
def payloads (h : Header) : List Bytes := h.bodyPayloads ++ h.tailPayloads.reduceOption

/-- Tells of each field of the tail whether it is present, in the order of their forks. -/
def tailPresence (h : Header) : List Bool :=
  [h.baseFeePerGas.isSome, h.withdrawalsRoot.isSome, h.blobGasUsed.isSome,
    h.excessBlobGas.isSome, h.parentBeaconBlockRoot.isSome, h.requestsHash.isSome]

/-- A tail is contiguous if a field is present only where every earlier one is. -/
def HasContiguousTail (h : Header) : Prop :=
  h.tailPresence.Pairwise fun earlier later : Bool => later → earlier

/-- A header without the hash that is reported for it. -/
def withoutReport (h : Header) : Header := { h with reportedHash := none }

theorem length_bodyPayloads (h : Header) : h.bodyPayloads.length = 15 := rfl

theorem length_tailPayloads (h : Header) : h.tailPayloads.length = 6 := rfl

theorem length_payloads_eq_add (h : Header) :
    h.payloads.length = 15 + h.tailPayloads.reduceOption.length := by
  rw [payloads, List.length_append, length_bodyPayloads]

theorem length_reduceOption_tailPayloads_le (h : Header) :
    h.tailPayloads.reduceOption.length ≤ 6 :=
  List.reduceOption_length_le h.tailPayloads

theorem map_isSome_tailPayloads (h : Header) :
    h.tailPayloads.map Option.isSome = h.tailPresence := by
  simp [tailPayloads, tailPresence]

theorem numberPayload_injective : Function.Injective numberPayload := by
  intro m n h
  exact UInt64.toNat_inj.mp (minimalBigEndian_inj (toNat_lt_pow_eight m) (toNat_lt_pow_eight n) h)

theorem widePayload_injective : Function.Injective widePayload := by
  intro m n h
  exact BitVec.eq_of_toNat_eq
    (minimalBigEndian_inj (toNat_lt_pow_thirtyTwo m) (toNat_lt_pow_thirtyTwo n) h)

theorem toList_injective (n : Nat) :
    Function.Injective (FixedBytes.toList : FixedBytes n → Bytes) :=
  fun _ _ => FixedBytes.ext

theorem filterMap_tail (h : Header) :
    h.tail.filterMap Prod.snd = h.tailPayloads.reduceOption.map encodeBytes := by
  have htail : h.tail.map Prod.snd = h.tailPayloads.map (Option.map encodeBytes) := by
    simp only [tail, tailPayloads, List.map_cons, List.map_nil, Option.map_map]
    rfl
  calc
    h.tail.filterMap Prod.snd = (h.tail.map Prod.snd).reduceOption := by
      simp [List.reduceOption, List.filterMap_map]
    _ = h.tailPayloads.reduceOption.map encodeBytes := by
      rw [htail, List.reduceOption_map]

/-- The encoding of a header is the list of its payloads. -/
theorem encodeFields_eq (h : Header) :
    h.encodeFields = wrapList (encodeItems (h.payloads.map Item.string)) := by
  have hbody : h.encodedBody = h.bodyPayloads.map encodeBytes := rfl
  rw [encodeFields, filterMap_tail, hbody, ← List.map_append, payloads, encodeItems,
    List.flatMap_map, List.flatMap_def]
  rfl

theorem length_le_of_mem_tailPayloads {h : Header} {p : Bytes}
    (hp : p ∈ h.tailPayloads.reduceOption) : p.length ≤ 32 := by
  have hnumber (n : UInt64) : (numberPayload n).length ≤ 32 :=
    Nat.le_trans (length_minimalBigEndian_le 8 n.toNat) (by decide)
  have hhash (f : Hash) : f.toList.length ≤ 32 := Nat.le_of_eq f.length_toList
  rw [List.reduceOption_mem_iff] at hp
  simp only [tailPayloads, List.mem_cons, List.not_mem_nil, or_false, @eq_comm _ (some p),
    Option.map_eq_some_iff] at hp
  rcases hp with ⟨n, -, rfl⟩ | ⟨f, -, rfl⟩ | ⟨n, -, rfl⟩ | ⟨n, -, rfl⟩ | ⟨f, -, rfl⟩ | ⟨f, -, rfl⟩
  · exact hnumber n
  · exact hhash f
  · exact hnumber n
  · exact hnumber n
  · exact hhash f
  · exact hhash f

theorem sum_length_le {ps : List Bytes} {n : Nat} (h : ∀ p ∈ ps, p.length ≤ n) :
    (ps.map List.length).sum ≤ n * ps.length := by
  induction ps with
  | nil => exact Nat.le_refl 0
  | cons p ps ih =>
      have hp := h p List.mem_cons_self
      have hps := ih fun q hq => h q (List.mem_cons_of_mem p hq)
      rw [List.map_cons, List.sum_cons, List.length_cons, Nat.mul_succ]
      omega

/-- Only the extra data makes an encoding long. -/
theorem length_encodeItems_payloads_le (h : Header) :
    (encodeItems (h.payloads.map Item.string)).length ≤ h.extraData.length + 1000 := by
  have hnumber (n : UInt64) : (numberPayload n).length ≤ 8 := length_minimalBigEndian_le 8 n.toNat
  have hwide : (widePayload h.difficulty).length ≤ 32 := length_minimalBigEndian_le 32 _
  have hbody : (h.bodyPayloads.map List.length).sum ≤ h.extraData.length + 564 := by
    have h₁ := hnumber h.number
    have h₂ := hnumber h.gasLimit
    have h₃ := hnumber h.gasUsed
    have h₄ := hnumber h.timestamp
    simp only [bodyPayloads, List.map_cons, List.map_nil, List.sum_cons, List.sum_nil,
      FixedBytes.length_toList, Nat.add_zero, ← Nat.add_assoc, Nat.reduceAdd]
    omega
  have hcount := h.length_reduceOption_tailPayloads_le
  have htail : (h.tailPayloads.reduceOption.map List.length).sum ≤ 32 * 6 :=
    Nat.le_trans (sum_length_le fun p hp => length_le_of_mem_tailPayloads (h := h) hp)
      (Nat.mul_le_mul_left 32 hcount)
  calc
    (encodeItems (h.payloads.map Item.string)).length
        ≤ (h.payloads.map List.length).sum + 9 * h.payloads.length :=
      length_encodeItems_string_le h.payloads
    _ = (h.bodyPayloads.map List.length).sum + (h.tailPayloads.reduceOption.map List.length).sum
        + 9 * (15 + h.tailPayloads.reduceOption.length) := by
      rw [length_payloads_eq_add, payloads, List.map_append, List.sum_append]
    _ ≤ h.extraData.length + 564 + 32 * 6 + 9 * (15 + 6) :=
      Nat.add_le_add (Nat.add_le_add hbody htail)
        (Nat.mul_le_mul_left 9 (Nat.add_le_add_left hcount 15))
    _ ≤ h.extraData.length + 1000 := by omega

theorem gapIn_eq_none_iff {fields : List (TailField × Option Bytes)} :
    gapIn fields = none ↔
      fields.Pairwise fun earlier later => later.2.isSome → earlier.2.isSome := by
  induction fields with
  | nil => simp [gapIn]
  | cons f rest ih =>
      obtain ⟨name, value⟩ := f
      cases value with
      | some bytes => simpa [gapIn] using ih
      | none =>
          simp only [gapIn, Option.map_eq_none_iff, List.find?_eq_none, List.pairwise_cons]
          constructor
          · intro hnone
            refine ⟨fun f hf hsome => absurd hsome (hnone f hf), ?_⟩
            apply List.pairwise_of_forall_mem_list
            intro earlier _ later hlater hsome
            exact absurd hsome (hnone later hlater)
          · rintro ⟨hnone, -⟩ f hf hsome
            cases hnone f hf hsome

theorem tailGap_eq_none_iff {h : Header} : h.tailGap = none ↔ h.HasContiguousTail := by
  have hpresence : h.tailPresence = h.tail.map fun f => f.2.isSome := by
    simp [tail, tailPresence]
  rw [tailGap, gapIn_eq_none_iff, HasContiguousTail, hpresence, List.pairwise_map]

theorem encode_eq_ok_iff {h : Header} {bs : Bytes} :
    h.encode = .ok bs ↔ h.HasContiguousTail ∧ h.encodeFields = bs := by
  rw [← tailGap_eq_none_iff, encode]
  cases h.tailGap with
  | some gap => simp
  | none => simp

/-- In a contiguous list the present entries stand at their own places. -/
theorem getElem?_reduceOption {α : Type} {l : List (Option α)}
    (hl : l.Pairwise fun earlier later => later.isSome → earlier.isSome) (k : Nat) :
    l.reduceOption[k]? = l[k]?.join := by
  induction l generalizing k with
  | nil => rfl
  | cons o l ih =>
      obtain ⟨hlater, hrest⟩ := List.pairwise_cons.mp hl
      cases o with
      | some a =>
          rw [List.reduceOption_cons_of_some]
          cases k with
          | zero => rfl
          | succ k => exact ih hrest k
      | none =>
          -- An absent entry is followed by absent ones only, so nothing is left to be present.
          have hnone : ∀ o ∈ none :: l, o = none := by
            intro o ho
            cases o with
            | none => rfl
            | some a => cases hlater _ ((List.mem_cons.mp ho).resolve_left nofun) rfl
          have hnil : (none :: l).reduceOption = [] := List.filterMap_eq_nil_iff.mpr hnone
          rw [hnil, List.getElem?_nil]
          cases hentry : (none :: l)[k]? with
          | none => rfl
          | some o => rw [hnone o (List.mem_of_getElem? hentry), Option.join_some]

/-- Of two contiguous lists of equal length, the present entries tell the lists apart. -/
theorem eq_of_reduceOption_eq {α : Type} {l₁ l₂ : List (Option α)}
    (h₁ : l₁.Pairwise fun earlier later => later.isSome → earlier.isSome)
    (h₂ : l₂.Pairwise fun earlier later => later.isSome → earlier.isSome)
    (hlen : l₁.length = l₂.length) (h : l₁.reduceOption = l₂.reduceOption) : l₁ = l₂ := by
  apply List.ext_getElem hlen
  intro k hk hk'
  have hentry := getElem?_reduceOption h₁ k
  rw [h, getElem?_reduceOption h₂ k, List.getElem?_eq_getElem hk,
    List.getElem?_eq_getElem hk'] at hentry
  exact hentry.symm

/-- The payloads of a header without a gap are those of its encoding. -/
theorem decodeList_encode {h : Header} {bs : Bytes} (hextra : h.extraData.length < Nat.pow 2 63)
    (he : h.encode = .ok bs) : decodeList bs = .ok h.payloads := by
  obtain ⟨-, rfl⟩ := encode_eq_ok_iff.mp he
  have hlen := length_encodeItems_payloads_le h
  have hbound : Nat.pow 2 63 + 1000 ≤ UInt64.size := by decide
  have hfits : (encodeItems (h.payloads.map Item.string)).length < UInt64.size :=
    Nat.lt_of_le_of_lt hlen (Nat.lt_of_lt_of_le (Nat.add_lt_add_right hextra 1000) hbound)
  rw [encodeFields_eq, decodeList_wrapList hfits, List.map_map]
  exact congrArg Except.ok (List.map_id _)

/-- Extra data is no longer than the encoding that holds it. -/
theorem length_extraData_le {h : Header} {bs : Bytes} (he : h.encode = .ok bs) :
    h.extraData.length ≤ bs.length := by
  have hmem : Item.string h.extraData ∈ h.payloads.map Item.string := by
    simp [payloads, bodyPayloads]
  rw [← (encode_eq_ok_iff.mp he).2, encodeFields_eq]
  calc
    h.extraData.length ≤ (Item.string h.extraData).encode.length :=
      length_payload_le (.string h.extraData)
    _ ≤ (encodeItems (h.payloads.map Item.string)).length := length_encode_le_encodeItems hmem
    _ ≤ (wrapList (encodeItems (h.payloads.map Item.string))).length :=
      length_payload_le (.list (encodeItems (h.payloads.map Item.string)))

theorem length_encode_le {h : Header} {bs : Bytes} (he : h.encode = .ok bs) :
    bs.length ≤ h.extraData.length + 1009 := by
  rw [← (encode_eq_ok_iff.mp he).2, encodeFields_eq]
  calc
    (wrapList (encodeItems (h.payloads.map Item.string))).length
        ≤ (encodeItems (h.payloads.map Item.string)).length + 9 :=
      Rlp.length_encode_le (.list (encodeItems (h.payloads.map Item.string)))
    _ ≤ h.extraData.length + 1009 :=
      Nat.add_le_add_right (length_encodeItems_payloads_le h) 9

theorem pairwise_tailPayloads {h : Header} (hc : h.HasContiguousTail) :
    h.tailPayloads.Pairwise fun earlier later => later.isSome → earlier.isSome := by
  rwa [HasContiguousTail, ← map_isSome_tailPayloads, List.pairwise_map] at hc

/-- The payloads of a contiguous tail stand at the places of their fields. -/
theorem getElem?_payloads {h : Header} (hc : h.HasContiguousTail) (k : Nat) :
    h.payloads[15 + k]? = h.tailPayloads[k]?.join := by
  have hbody : h.bodyPayloads.length ≤ 15 + k := by
    rw [length_bodyPayloads]
    exact Nat.le_add_right 15 k
  rw [payloads, List.getElem?_append_right hbody, length_bodyPayloads, Nat.add_sub_cancel_left]
  exact getElem?_reduceOption (pairwise_tailPayloads hc) k

/-- Headers without gaps and with the same payloads differ in the reported hash only. -/
theorem withoutReport_eq_of_payloads_eq {h₁ h₂ : Header} (hc₁ : h₁.HasContiguousTail)
    (hc₂ : h₂.HasContiguousTail) (hp : h₁.payloads = h₂.payloads) :
    h₁.withoutReport = h₂.withoutReport := by
  have hlen : h₁.bodyPayloads.length = h₂.bodyPayloads.length := by
    rw [length_bodyPayloads, length_bodyPayloads]
  obtain ⟨hbody, hreduced⟩ := List.append_inj hp hlen
  have htail := eq_of_reduceOption_eq (pairwise_tailPayloads hc₁) (pairwise_tailPayloads hc₂)
    (by rw [length_tailPayloads, length_tailPayloads]) hreduced
  simp only [bodyPayloads, List.cons.injEq, (toList_injective _).eq_iff,
    numberPayload_injective.eq_iff, widePayload_injective.eq_iff, and_true] at hbody
  simp only [tailPayloads, List.cons.injEq, (Option.map_injective (toList_injective _)).eq_iff,
    (Option.map_injective numberPayload_injective).eq_iff, and_true] at htail
  simp only [withoutReport, hbody, htail]

/-- A header passes the check exactly if its encoding has the reported hash. -/
theorem checkReportedHash_eq_ok_iff {h : Header} {computed : Hash} :
    h.checkReportedHash = .ok computed ↔
      ∃ bs, h.encode = .ok bs ∧ keccak256 bs = computed ∧
        ∀ reported, h.reportedHash = some reported → reported = computed := by
  simp only [checkReportedHash, hashOrFail, encodeOrFail, bind_eq_ok_iff, map_eq_ok_iff,
    mapError_eq_ok_iff]
  cases hr : h.reportedHash with
  | none =>
      constructor
      · rintro ⟨_, ⟨bs, he, rfl⟩, hc⟩
        exact ⟨bs, he, pure_eq_ok_iff.mp hc, nofun⟩
      · rintro ⟨bs, he, rfl, -⟩
        exact ⟨_, ⟨bs, he, rfl⟩, pure_eq_ok_iff.mpr rfl⟩
  | some reported =>
      simp only [check_eq_ok_iff, pure_eq_ok_iff, Decidable.not_not, Option.some.injEq]
      constructor
      · rintro ⟨_, ⟨bs, he, rfl⟩, hsame, rfl⟩
        exact ⟨bs, he, rfl, fun _ h => h ▸ hsame⟩
      · rintro ⟨bs, he, rfl, hsame⟩
        exact ⟨_, ⟨bs, he, rfl⟩, hsame reported rfl, rfl⟩

end UnlockProof.Header

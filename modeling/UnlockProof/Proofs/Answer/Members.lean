import Mathlib.Data.List.Rotate
import UnlockProof.Proofs.Answer.Mismatch
import UnlockProof.Proofs.Json.Members

/-!
# Members of a block

What a block says is what stands under its 22 keys. Of the members that may be null it does not
matter whether they are null or absent, members under other keys do not matter at all, and a block
that is written under its keys is read back.
-/

namespace UnlockProof.BlockAnswer
open Json Outcome
open Json.Value (member? put without)

variable {key : String} {v : Value} {ms ms' : List (String × Value)} {b : BlockAnswer}

/-- The keys of a block. -/
def keys : List String := members.map Member.key

/-- The keys of the members that may be null. -/
def nullableKeys : List String :=
  ["hash", "difficulty", "baseFeePerGas", "withdrawalsRoot", "blobGasUsed", "excessBlobGas",
    "parentBeaconBlockRoot", "requestsHash"]

theorem nullableKeys_subset_keys : nullableKeys ⊆ keys := by decide

/-- Says that two objects say the same as blocks: under each key stands the same, only that a member
that may be null may as well be absent where it is null. -/
structure SaysAlike (ms ms' : List (String × Value)) : Prop where
  required : ∀ key ∈ keys, key ∉ nullableKeys → member? key ms = member? key ms'
  nullable : ∀ key ∈ nullableKeys, (member? key ms).getD .null = (member? key ms').getD .null

theorem checkIn_congr (h : SaysAlike ms ms') :
    ∀ m ∈ members, m.checkIn ms = m.checkIn ms' := by
  have hrequired {m : Member Value} (hm : m ∈ members) (hkey : m.key ∉ nullableKeys) :
      m.checkIn ms = m.checkIn ms' := by
    rw [Member.checkIn, Member.checkIn, h.required m.key (List.mem_map_of_mem hm) hkey]
  have hnullable {m : Member Value} (hm : m.check .null = .ok ()) (hkey : m.key ∈ nullableKeys) :
      m.checkIn ms = m.checkIn ms' := by
    rw [Member.checkIn_of_nullable hm, Member.checkIn_of_nullable hm, h.nullable m.key hkey]
  have hnull : ∀ m ∈ members, m.key ∈ nullableKeys → m.check .null = .ok () := by
    simp [members, nullableKeys, Member.of, Member.lacking, optionalText, optionalQuantity,
      Value.optional, Except.map]
  intro m hm
  by_cases hkey : m.key ∈ nullableKeys
  · exact hnullable (hnull m hm hkey) hkey
  · exact hrequired hm hkey

/-- Objects that say the same are read as the same block or fail in the same way. -/
theorem ofValue_congr (h : SaysAlike ms ms') :
    ofValue (.object ms) = ofValue (.object ms') := by
  have hneed {α : Type} (key : String) (read : Value → Except Fault α) (hkey : key ∈ keys)
      (hnot : key ∉ nullableKeys) :
      Found.Members.need ms key read = Found.Members.need ms' key read := by
    have hget : Found.Members.get? ms key = Found.Members.get? ms' key := h.required key hkey hnot
    rw [Found.Members.need, Found.Members.need, hget]
  have htext (key : String) (hkey : key ∈ nullableKeys) :
      Found.Members.orElse ms key optionalText none =
        Found.Members.orElse ms' key optionalText none := by
    rw [Found.Members.orElse_of_nullable rfl, Found.Members.orElse_of_nullable rfl,
      h.nullable key hkey]
  have hquantity (key : String) (hkey : key ∈ nullableKeys) :
      Found.Members.orElse ms key optionalQuantity none =
        Found.Members.orElse ms' key optionalQuantity none := by
    rw [Found.Members.orElse_of_nullable rfl, Found.Members.orElse_of_nullable rfl,
      h.nullable key hkey]
  have hcheck := Value.checkMembers_congr (checkIn_congr h)
  simp (disch := decide) only [ofValue, Value.record, bind_assoc, pure_bind, hcheck, hneed, htext,
    hquantity]

/-- It does not matter whether a member that may be null is null or absent. -/
theorem saysAlike_null_without (hkey : key ∈ nullableKeys) :
    SaysAlike (put key .null ms) (without key ms) := by
  constructor
  · intro other _ hother
    have hne : key ≠ other := ne_of_mem_of_not_mem hkey hother
    rw [Value.member?_put_of_ne hne, Value.member?_without_of_ne hne]
  · intro other _
    by_cases hne : key = other
    · rw [hne, Value.member?_put_self, Value.member?_without_self]
      rfl
    · rw [Value.member?_put_of_ne hne, Value.member?_without_of_ne hne]

/-- A member under another key does not matter. -/
theorem saysAlike_put_of_not_mem (hkey : key ∉ keys) : SaysAlike (put key v ms) ms := by
  have hother {other : String} (hmem : other ∈ keys) :
      member? other (put key v ms) = member? other ms :=
    Value.member?_put_of_ne (ne_of_mem_of_not_mem hmem hkey).symm
  constructor
  · intro other hmem _
    exact hother hmem
  · intro other hmem
    rw [hother (nullableKeys_subset_keys hmem)]

@[simp] theorem optionalText_textOrNull (s : Option String) :
    optionalText (textOrNull s) = .ok s := by
  cases s with
  | none => rfl
  | some s => rfl

@[simp] theorem ofValue_toValue_quantity (q : Quantity) : Quantity.ofValue q.toValue = .ok q := by
  cases q with
  | number n => rfl
  | text s => rfl

@[simp] theorem optionalQuantity_quantityOrNull (q : Option Quantity) :
    optionalQuantity (quantityOrNull q) = .ok q := by
  match q with
  | none => rfl
  | some (.number n) => rfl
  | some (.text s) => rfl

theorem keys_printedMembers (b : BlockAnswer) : b.printedMembers.map Prod.fst = keys := rfl

theorem nodup_keys : keys.Nodup := by decide

/-- A block is written as an object with its keys, and under the name of each field stands what is
printed in it. -/
theorem exists_toValue_eq_object (b : BlockAnswer) :
    ∃ ms, b.toValue = .object ms ∧ (ms.map Prod.fst).Perm keys ∧
      ∀ e ∈ b.fields, member? e.1 ms = some e.2.toValue := by
  have hkeys : (b.printedMembers.map Prod.fst).Nodup := nodup_keys
  refine ⟨_, toValue_eq_ofMembers b, ?_, ?_⟩
  · have hperm := Value.keys_foldl_put_perm hkeys [] fun _ _ => List.not_mem_nil
    rwa [List.map_nil, List.append_nil, keys_printedMembers] at hperm
  · intro e he
    refine Value.member?_foldl_put_of_mem hkeys ?_ []
    exact List.mem_rotate.mpr (List.mem_map_of_mem (f := fun e => (e.1, e.2.toValue)) he)

/-- A block is read back from its members. -/
theorem ofValue_of_member? (h : ∀ e ∈ b.fields, member? e.1 ms = some e.2.toValue) :
    ofValue (.object ms) = .ok b := by
  simp only [fields, List.forall_mem_cons, Printed.toValue] at h
  have hget (key : String) : Found.Members.get? ms key = member? key ms := rfl
  have hcheck : Value.checkMembers ms members = .ok () := by
    rw [Value.checkMembers_eq_ok_iff]
    simp [members, Member.checkIn, Member.of, Member.lacking, Value.asString, Except.map, h]
  simp [ofValue, Value.record, hcheck, Found.Members.need, Found.Members.orElse, hget, h,
    Value.asString, bind, Except.bind, pure, Except.pure]

/-- A block is read back from the value as which it is written. -/
theorem ofValue_toValue (b : BlockAnswer) : ofValue b.toValue = .ok b := by
  obtain ⟨ms, hvalue, -, hmembers⟩ := exists_toValue_eq_object b
  rw [hvalue, ofValue_of_member? hmembers]

/-- A block means what its known members that are not null say. Objects that say the same are read
as the same block or fail in the same way. So for each of the eight members that may be null it
does not matter whether it is null or absent, and a member under any other key but the 22 changes
nothing. Every block, whether it was read or not, is written under exactly its 22 keys, and what is
written is read as this block, so it has the same header or the same failure. -/
theorem means_known_members (ms : List (String × Value)) :
    (∀ ms', SaysAlike ms ms' → ofValue (.object ms) = ofValue (.object ms')) ∧
      (∀ key ∈ nullableKeys,
        ofValue (.object (put key .null ms)) = ofValue (.object (without key ms))) ∧
      (∀ key v, key ∉ keys → ofValue (.object (put key v ms)) = ofValue (.object ms)) ∧
      ∀ b, ∃ written, b.toValue = .object written ∧ (written.map Prod.fst).Perm keys ∧
        ofValue (.object written) = .ok b ∧
        (ofValue (.object written)).map toHeader = .ok b.toHeader := by
  refine ⟨fun ms' => ofValue_congr, ?_, ?_, ?_⟩
  · intro key hkey
    exact ofValue_congr (saysAlike_null_without hkey)
  · intro key v hkey
    exact ofValue_congr (saysAlike_put_of_not_mem hkey)
  · intro b
    obtain ⟨written, hvalue, hkeys, hmembers⟩ := exists_toValue_eq_object b
    have hread := ofValue_of_member? hmembers
    exact ⟨written, hvalue, hkeys, hread, congrArg (Except.map toHeader) hread⟩

/-- The members as which the sample block is written. -/
def sampleMembers : List (String × Value) :=
  sample.printedMembers.foldl (fun acc m => put m.1 m.2 acc) []

/-- The sample block, whose difficulty is absent, with the members of its uncles. -/
theorem means_known_members_sample :
    ofValue (.object (put "difficulty" .null sampleMembers)) =
        ofValue (.object (without "difficulty" sampleMembers)) ∧
      ofValue (.object (put "uncles" (.array []) sampleMembers)) = .ok sample ∧
      ∃ written, sample.toValue = .object written ∧ (written.map Prod.fst).Perm keys ∧
        ofValue (.object written) = .ok sample := by
  obtain ⟨-, hnull, hother, hwritten⟩ := means_known_members sampleMembers
  have hread : ofValue (.object sampleMembers) = .ok sample := ofValue_toValue sample
  obtain ⟨written, hvalue, hkeys, hback, -⟩ := hwritten sample
  refine ⟨hnull "difficulty" (by decide), ?_, written, hvalue, hkeys, hback⟩
  rw [hother "uncles" (.array []) (by decide), hread]

end UnlockProof.BlockAnswer

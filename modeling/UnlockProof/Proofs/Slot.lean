import UnlockProof.Proofs.BigEndian
import UnlockProof.Transfer

/-!
# What a slot determines

A slot is two hashes away from its transfer. What is hashed in each round has no separators, but
all its parts have fixed widths, so the bytes determine the parts. Hence two transfers share a slot
only if different byte strings of one hash are found in one of the two rounds.
-/

namespace UnlockProof

theorem bytesOfU256_injective : Function.Injective bytesOfU256 := by
  intro m n h
  apply BitVec.eq_of_toNat_eq
  rw [← ofBigEndian_bytesOfU256 m, ← ofBigEndian_bytesOfU256 n, h]

/-- Byte strings of one width are read off the front of what holds them. -/
theorem FixedBytes.append_inj {w : Nat} {f g : FixedBytes w} {as bs : Bytes}
    (h : f.toList ++ as = g.toList ++ bs) : f = g ∧ as = bs := by
  obtain ⟨hfront, hrest⟩ := List.append_inj h (f.length_toList.trans g.length_toList.symm)
  exact ⟨FixedBytes.ext hfront, hrest⟩

/-- The word whose hash is the slot of a value of a mapping: the key of the value, then the slot
at which the mapping is declared. -/
def mappingWord (mappingKey : Hash) (mappingSlot : U256) : Bytes :=
  mappingKey.toList ++ (bytesOfU256 mappingSlot).toList

theorem length_mappingWord (mappingKey : Hash) (mappingSlot : U256) :
    (mappingWord mappingKey mappingSlot).length = 64 := by
  rw [mappingWord, List.length_append, FixedBytes.length_toList, FixedBytes.length_toList]

theorem mappingWord_inj {key key' : Hash} {m m' : U256}
    (h : mappingWord key m = mappingWord key' m') : key = key' ∧ m = m' := by
  obtain ⟨hkey, hslot⟩ := FixedBytes.append_inj h
  exact ⟨hkey, bytesOfU256_injective (FixedBytes.ext hslot)⟩

namespace LogicalKey

variable {k k' : LogicalKey} {m m' : U256}

/-- The four values of a transfer are read back from their packing. -/
theorem packed_injective : Function.Injective packed := by
  intro k k' h
  simp only [packed, List.append_assoc] at h
  obtain ⟨htoken, h⟩ := FixedBytes.append_inj h
  obtain ⟨hrecipient, h⟩ := FixedBytes.append_inj h
  obtain ⟨hnonce, hamount⟩ := FixedBytes.append_inj h
  cases k
  cases k'
  obtain rfl := htoken
  obtain rfl := hrecipient
  obtain rfl := bytesOfU256_injective hnonce
  obtain rfl := bytesOfU256_injective (FixedBytes.ext hamount)
  rfl

theorem eq_or_collide_of_processedHash (h : k.processedHash = k'.processedHash) :
    k = k' ∨ Collide k.packed k'.packed := by
  rcases eq_or_collide h with hpacked | hcollide
  · exact Or.inl (packed_injective hpacked)
  · exact Or.inr hcollide

/-- The slot of a transfer is the hash of a word of 64 bytes, the hash of the 104 bytes of its four
values followed by the slot of the mapping. Two transfers of one slot are the same transfer in the
same mapping, unless different words or different packings of one hash are found. -/
theorem slot_eq_or_collide (k k' : LogicalKey) (m m' : U256) :
    k.slot m = keccak256 ((keccak256 (k.token.toList ++ k.recipient.toList
        ++ bigEndian 32 k.nonce.toNat ++ bigEndian 32 k.amount.toNat)).toList
        ++ bigEndian 32 m.toNat) ∧
      k.packed.length = 104 ∧ (mappingWord k.processedHash m).length = 64 ∧
      (k.slot m = k'.slot m' →
        (k = k' ∧ m = m') ∨ Collide k.packed k'.packed ∨
          Collide (mappingWord k.processedHash m) (mappingWord k'.processedHash m')) := by
  refine ⟨rfl, length_packed k, length_mappingWord _ _, ?_⟩
  intro h
  rcases eq_or_collide h with hword | hcollide
  · obtain ⟨hkey, hslot⟩ := mappingWord_inj hword
    rcases eq_or_collide_of_processedHash hkey with hsame | hcollide
    · exact Or.inl ⟨hsame, hslot⟩
    · exact Or.inr (Or.inl hcollide)
  · exact Or.inr (Or.inr hcollide)

/-- The first transfer of 100 units between two addresses of equal bytes. -/
def reference : LogicalKey where
  token := ⟨List.replicate 20 0xaa, List.length_replicate⟩
  recipient := ⟨List.replicate 20 0xbb, List.length_replicate⟩
  nonce := 1
  amount := 100

/-- The slot of this transfer in the mapping at slot 302, against itself. -/
theorem slot_eq_or_collide_reference :
    reference.slot 302 =
        bytesOfU256 0x9b52e6219d9728210495223f8c93c30eb66eab3c2ab90fdee575ab541cbe1f2e ∧
      ((reference = reference ∧ (302 : U256) = 302) ∨ Collide reference.packed reference.packed ∨
        Collide (mappingWord reference.processedHash 302)
          (mappingWord reference.processedHash 302)) := by
  obtain ⟨-, -, -, hdetermined⟩ := slot_eq_or_collide reference reference 302 302
  exact ⟨by decide +kernel, hdetermined rfl⟩

end LogicalKey
end UnlockProof

import UnlockProof.Proofs.Header.Encoding
import UnlockProof.Proofs.Record.Assembly
import UnlockProof.Proofs.Rlp.Canonical

/-!
# The shape of assembled headers

Assembling accepts a header exactly if it is a list of 15 to 21 items, six of which are 32 bytes
wide as entries of the list. From outside a list of 31 bytes is as wide as a hash, and the hashes of
the tail are not among the six. So an assembled header has hashes at all their places if it is an
encoded one, while a header of another origin may have lists or strings of other widths there.

## Implementation notes

Items are taken as what the encoding says and not as the entries that assembling sees, which do not
tell a string from a list.
-/

namespace UnlockProof.Record
open Rlp

variable {headerData : Bytes} {header : Header} {items : List Item} {i : Item} {p : Nat}

/-- Says that an item is a string of 32 bytes. -/
def IsHash (i : Item) : Prop := ∃ f : Hash, i = .string f.toList

theorem isHash_string {s : Bytes} : IsHash (.string s) ↔ s.length = 32 := by
  constructor
  · rintro ⟨f, hf⟩
    rw [Item.string.inj hf, f.length_toList]
  · intro hs
    exact ⟨⟨s, hs⟩, rfl⟩

theorem length_wrapList_eq_iff {payload : Bytes} :
    (wrapList payload).length = 32 ↔ payload.length = 31 := by
  rw [wrapList, List.length_append]
  rcases Nat.lt_or_ge payload.length 56 with hshort | hlong
  · rw [head_of_lt hshort, List.length_singleton]
    omega
  · omega

/-- An entry of 32 bytes is a hash or a list of 31 bytes. -/
theorem length_view_eq_iff :
    i.view.length = 32 ↔ IsHash i ∨ ∃ payload, i = .list payload ∧ payload.length = 31 := by
  cases i with
  | string s => simp [isHash_string]
  | list payload => simp [IsHash, length_wrapList_eq_iff]

theorem length_getD_map_view_iff :
    ((items.map Item.view).getD p []).length = 32 ↔
      ∃ i, items[p]? = some i ∧ i.view.length = 32 := by
  rw [List.getD_eq_getElem?_getD, List.getElem?_map]
  cases items[p]? with
  | none => simp
  | some i => simp

/-- Says that assembling accepts items as those of a header. -/
structure PassesAsHeader (items : List Item) : Prop where
  least : 15 ≤ items.length
  most : items.length ≤ 21
  wide : ∀ p ∈ hashPositions, ∃ i, items[p]? = some i ∧
    (IsHash i ∨ ∃ payload, i = .list payload ∧ payload.length = 31)

theorem passesAsHeader_iff : PassesAsHeader items ↔ 15 ≤ items.length ∧ items.length ≤ 21 ∧
    ∀ p ∈ hashPositions, ((items.map Item.view).getD p []).length = 32 := by
  simp only [length_getD_map_view_iff, length_view_eq_iff]
  constructor
  · intro h
    exact ⟨h.least, h.most, h.wide⟩
  · rintro ⟨hleast, hmost, hwide⟩
    exact ⟨hleast, hmost, hwide⟩

theorem checkHeader_eq_ok_iff_passesAsHeader
    (h : decodeList headerData = .ok (items.map Item.view)) :
    checkHeader headerData = .ok () ↔ PassesAsHeader items := by
  rw [checkHeader_of_decodeList h, passesAsHeader_iff, List.length_map]

/-- Nothing but its own check keeps a header from being assembled with some proof of an account. -/
theorem exists_assemble_iff_checkHeader :
    (∃ accountProof accountData storageProof r,
        assemble headerData accountProof accountData storageProof = .ok r) ↔
      checkHeader headerData = .ok () := by
  constructor
  · rintro ⟨accountProof, accountData, storageProof, r, h⟩
    exact (assemble_eq_ok_iff.mp h).2.2.1
  · intro h
    let account : Account := ⟨0, 0, Account.emptyStorageRoot, Account.emptyCodeHash⟩
    have hdecode : Account.decode account.encode = .ok account := Account.decode_eq_ok_iff.mpr rfl
    exact ⟨[[0xc0]], account.encode, [[0xc0]], _,
      assemble_eq_ok_iff.mpr ⟨rfl, rfl, h, ⟨account, hdecode⟩, rfl⟩⟩

theorem exists_assemble_of_passesAsHeader (hitems : ListsItems headerData items)
    (hbs : headerData.length < UInt64.size) (h : PassesAsHeader items) :
    ∃ accountProof accountData storageProof r,
      assemble headerData accountProof accountData storageProof = .ok r := by
  have hread := (decodeList_eq_ok_iff_listsItems hbs).mpr ⟨items, hitems, rfl⟩
  apply exists_assemble_iff_checkHeader.mpr
  exact (checkHeader_eq_ok_iff_passesAsHeader hread).mpr h

theorem exists_passesAsHeader_of_checkHeader (h : checkHeader headerData = .ok ()) :
    ∃ items, ListsItems headerData items ∧ PassesAsHeader items := by
  cases hread : decodeList headerData with
  | error f =>
      rw [checkHeader, hread] at h
      cases h
  | ok views =>
      obtain ⟨items, hfits, rfl, rfl⟩ := exists_items_of_decodeList hread
      exact ⟨items, listsItems_wrapList hfits,
        (checkHeader_eq_ok_iff_passesAsHeader hread).mp h⟩

/-- The places of the hashes of a header's tail. -/
def tailHashPlaces : List Nat := [16, 19, 20]

/-- Says that there is a hash at every place of a hash that is reached. -/
def HasFullHashes (items : List Item) : Prop :=
  ∀ p ∈ hashPositions ++ tailHashPlaces, ∀ i, items[p]? = some i → IsHash i

/-- The payload of a header at the place of a hash is one. -/
theorem exists_hash_of_payload (hc : header.HasContiguousTail)
    (hp : p ∈ hashPositions ++ tailHashPlaces) {s : Bytes} (hs : header.payloads[p]? = some s) :
    ∃ f : Hash, s = f.toList := by
  have htail {k : Nat} {o : Option Hash}
      (hk : header.tailPayloads[k]?.join = o.map FixedBytes.toList)
      (hs : header.payloads[15 + k]? = some s) : ∃ f : Hash, s = f.toList := by
    rw [Header.getElem?_payloads hc, hk, Option.map_eq_some_iff] at hs
    obtain ⟨f, -, hf⟩ := hs
    exact ⟨f, hf.symm⟩
  have hbody {f : Hash} (hs : some f.toList = some s) : ∃ f : Hash, s = f.toList :=
    ⟨f, (Option.some.inj hs).symm⟩
  simp only [hashPositions, tailHashPlaces, List.cons_append, List.nil_append, List.mem_cons,
    List.not_mem_nil, or_false] at hp
  rcases hp with rfl | rfl | rfl | rfl | rfl | rfl | rfl | rfl | rfl
  · exact hbody (f := header.parentHash) hs
  · exact hbody (f := header.unclesHash) hs
  · exact hbody (f := header.stateRoot) hs
  · exact hbody (f := header.transactionsRoot) hs
  · exact hbody (f := header.receiptsRoot) hs
  · exact hbody (f := header.mixHash) hs
  · exact htail (k := 1) (o := header.withdrawalsRoot) rfl hs
  · exact htail (k := 4) (o := header.parentBeaconBlockRoot) rfl hs
  · exact htail (k := 5) (o := header.requestsHash) rfl hs

/-- An encoded header has hashes at all their places. -/
theorem hasFullHashes_of_encode (he : header.encode = .ok headerData)
    (hbs : headerData.length < UInt64.size) (hitems : ListsItems headerData items) :
    HasFullHashes items := by
  obtain ⟨hc, hfields⟩ := Header.encode_eq_ok_iff.mp he
  rw [Header.encodeFields_eq] at hfields
  have hstored : ListsItems headerData (header.payloads.map Item.string) := by
    rw [← hfields] at hbs ⊢
    exact listsItems_wrapList (length_lt_of_wrapList hbs)
  rw [hitems.unique hbs hstored]
  intro p hp i hi
  rw [List.getElem?_map, Option.map_eq_some_iff] at hi
  obtain ⟨s, hs, rfl⟩ := hi
  obtain ⟨f, rfl⟩ := exists_hash_of_payload hc hp hs
  exact ⟨f, rfl⟩

/-- What passes as a header has full hashes unless a list takes the place of one of the oldest
hashes or the tail has something else at the place of a hash. -/
theorem PassesAsHeader.hasFullHashes_iff (h : PassesAsHeader items) :
    HasFullHashes items ↔
      (∀ p ∈ hashPositions, ∀ payload, items[p]? ≠ some (.list payload)) ∧
        ∀ p ∈ tailHashPlaces, ∀ i, items[p]? = some i → IsHash i := by
  rw [HasFullHashes, List.forall_mem_append]
  apply and_congr_left
  intro _
  constructor
  · intro hhash p hp payload hlist
    obtain ⟨f, hf⟩ := hhash p hp _ hlist
    cases hf
  · intro hlist p hp i hi
    obtain ⟨i', hi', hhash | ⟨payload, rfl, -⟩⟩ := h.wide p hp
    · rw [hi] at hi'
      rwa [Option.some.inj hi']
    · exact absurd hi' (hlist p hp payload)

/-- What assembling guarantees of a header. It is accepted with some proof of some account if and
only if its items pass as those of a header: 15 to 21 of them, with a hash or a list of 31 bytes at
the oldest six places of hashes. They are hashes at all places exactly if there is no such list and
the tail has hashes at its places as well, as is the case for every header that is encoded. -/
theorem exists_assemble_iff_passesAsHeader (hbs : headerData.length < Nat.pow 2 64) :
    ((∃ accountProof accountData storageProof r,
          assemble headerData accountProof accountData storageProof = .ok r) ↔
        ∃ items, ListsItems headerData items ∧ PassesAsHeader items) ∧
      (∀ items, ListsItems headerData items → PassesAsHeader items →
        (HasFullHashes items ↔
          (∀ p ∈ hashPositions, ∀ payload, items[p]? ≠ some (.list payload)) ∧
            ∀ p ∈ tailHashPlaces, ∀ i, items[p]? = some i → IsHash i)) ∧
      (∀ (header : Header) items, header.encode = .ok headerData → ListsItems headerData items →
        HasFullHashes items) := by
  refine ⟨?_, fun items _ h => h.hasFullHashes_iff, ?_⟩
  · constructor
    · intro h
      exact exists_passesAsHeader_of_checkHeader (exists_assemble_iff_checkHeader.mp h)
    · rintro ⟨items, hitems, h⟩
      exact exists_assemble_of_passesAsHeader hitems hbs h
  · intro header items he hitems
    exact hasFullHashes_of_encode he hbs hitems

/-- The first header of the main chain passes and has all its hashes. -/
theorem exists_assemble_iff_passesAsHeader_genesis :
    (∃ accountProof accountData storageProof r,
        assemble Header.genesis.encodeFields accountProof accountData storageProof = .ok r) ∧
      ∃ items, ListsItems Header.genesis.encodeFields items ∧ HasFullHashes items := by
  have hextra : Header.genesis.extraData.length < Nat.pow 2 63 := by decide
  have hlen := Header.length_encode_le Header.encode_genesis
  have hbound : Nat.pow 2 63 + 1009 ≤ Nat.pow 2 64 := by decide
  obtain ⟨hiff, -, hfull⟩ := exists_assemble_iff_passesAsHeader
    (show Header.genesis.encodeFields.length < Nat.pow 2 64 by omega)
  have hassembled := exists_assemble_iff_checkHeader.mpr
    (checkHeader_encode hextra Header.encode_genesis)
  obtain ⟨items, hitems, -⟩ := hiff.mp hassembled
  exact ⟨hassembled, items, hitems, hfull _ _ Header.encode_genesis hitems⟩

/-- A header of fifteen fields whose first one is a list. -/
def listForHash : List Item :=
  .list (List.replicate 31 0x80) :: List.replicate 14 (.string (List.replicate 32 1))

/-- A header of seventeen fields whose root of withdrawals is empty. -/
def emptyTailHash : List Item := List.replicate 16 (.string (List.replicate 32 1)) ++ [.string []]

/-- Says that the header of given items is assembled although a full hash is missing. -/
def AssembledWithoutHash (items : List Item) : Prop :=
  ListsItems (wrapList (encodeItems items)) items ∧
    (∃ accountProof accountData storageProof r,
      assemble (wrapList (encodeItems items)) accountProof accountData storageProof = .ok r) ∧
    ¬ HasFullHashes items

theorem PassesAsHeader.assembledWithoutHash (h : PassesAsHeader items)
    (hbs : (wrapList (encodeItems items)).length < UInt64.size) (hfull : ¬ HasFullHashes items) :
    AssembledWithoutHash items := by
  have hitems := listsItems_wrapList (length_lt_of_wrapList hbs)
  exact ⟨hitems, exists_assemble_of_passesAsHeader hitems hbs h, hfull⟩

theorem not_hasFullHashes_listForHash : ¬ HasFullHashes listForHash := by
  intro hfull
  obtain ⟨f, hf⟩ := hfull 0 (by decide) _ rfl
  cases hf

theorem not_hasFullHashes_emptyTailHash : ¬ HasFullHashes emptyTailHash := by
  intro hfull
  have hempty : IsHash (.string []) := hfull 16 (by decide) _ rfl
  cases isHash_string.mp hempty

/-- Two headers that are assembled with something else at the place of a hash: a list as the hash of
the parent, and nothing as the root of the withdrawals. -/
theorem assembled_without_full_hashes :
    AssembledWithoutHash listForHash ∧ AssembledWithoutHash emptyTailHash := by
  have hlist : PassesAsHeader listForHash := passesAsHeader_iff.mpr (by decide +kernel)
  have hempty : PassesAsHeader emptyTailHash := passesAsHeader_iff.mpr (by decide +kernel)
  constructor
  · exact hlist.assembledWithoutHash (by decide +kernel) not_hasFullHashes_listForHash
  · exact hempty.assembledWithoutHash (by decide +kernel) not_hasFullHashes_emptyTailHash

end UnlockProof.Record

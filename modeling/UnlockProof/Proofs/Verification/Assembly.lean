import UnlockProof.Proofs.Record.Assembly
import UnlockProof.Proofs.Verification.Tries

/-!
# Accepted records and assembled ones

A check of a record looks at what it walks and no further, while assembling looks at the shape of
all parts. So an accepted record can be one that is never assembled: its header may have fields or
widths that no layout has, its proofs may have empty nodes behind their ends, and the proof of an
empty storage may have no node at all. Nothing else keeps an accepted record from being assembled.
-/

namespace UnlockProof.Verification
open Record (checkHeader checkNodes_eq_ok_iff checkHeader_of_decodeList assemble_eq_ok_iff)

variable {r : Record} {contract : Address} {slot : Hash} {v : Verified} {root : Hash}
  {proof : List Bytes} {value : U256} {a : Account}

/-- The nodes in front of a proof that prove its account, none of them empty. -/
theorem exists_taken_of_verifyAccount (h : verifyAccount root contract proof = .ok a) :
    ∃ taken surplus, proof = taken ++ surplus ∧ (∀ n ∈ taken, n ≠ []) ∧
      verifyAccount root contract taken = .ok a := by
  obtain ⟨taken, surplus, hproof, hne, htaken⟩ :=
    Trie.exists_taken_of_lookup (verifyAccount_eq_ok_iff.mp h)
  exact ⟨taken, surplus, hproof, hne, verifyAccount_eq_ok_iff.mpr htaken⟩

/-- The nodes in front of a proof that prove its value, none of them empty. -/
theorem exists_taken_of_verifyStorage (h : verifyStorage root slot proof = .ok value) :
    ∃ taken surplus, proof = taken ++ surplus ∧ (∀ n ∈ taken, n ≠ []) ∧
      verifyStorage root slot taken = .ok value := by
  rcases verifyStorage_eq_ok_iff.mp h with ⟨rfl, hroot, hvalue⟩ | ⟨answer, hlookup, hvalue⟩
  · exact ⟨[], [], rfl, nofun, verifyStorage_eq_ok_iff.mpr (Or.inl ⟨rfl, hroot, hvalue⟩)⟩
  · obtain ⟨taken, surplus, hproof, hne, htaken⟩ := Trie.exists_taken_of_lookup hlookup
    exact ⟨taken, surplus, hproof, hne,
      verifyStorage_eq_ok_iff.mpr (Or.inr ⟨answer, htaken, hvalue⟩)⟩

/-- An account is proven by at least one node. -/
theorem ne_nil_of_verifyAccount (h : verifyAccount root contract proof = .ok a) : proof ≠ [] := by
  rintro rfl
  cases verifyAccount_eq_ok_iff.mp h

/-- Only an empty storage is proven by no node. -/
theorem eq_emptyStorageRoot_of_verifyStorage_nil (h : verifyStorage root slot [] = .ok value) :
    root = Account.emptyStorageRoot := by
  rcases verifyStorage_eq_ok_iff.mp h with ⟨-, hroot, -⟩ | ⟨answer, hlookup, -⟩
  · exact hroot
  · cases hlookup

/-- An accepted header is a list that assembling refuses only for its number of fields or for a
width that the check does not look at. -/
theorem checkHeader_of_headerSummary {headerData : Bytes} {number : UInt64}
    (h : headerSummary headerData = .ok (root, number)) :
    ∃ items, Rlp.decodeList headerData = .ok items ∧
      (checkHeader headerData = .ok () ↔
        items.length ≤ 21 ∧ ∀ p ∈ [0, 1, 4, 5, 13], (items.getD p []).length = 32) := by
  obtain ⟨items, hitems, hcount, hroot, -, -⟩ := headerSummary_eq_ok_iff.mp h
  have hwidth : (items.getD 3 []).length = 32 := by rw [hroot, root.length_toList]
  refine ⟨items, hitems, ?_⟩
  rw [checkHeader_of_decodeList hitems]
  simp only [Record.hashPositions, List.forall_mem_cons]
  constructor
  · rintro ⟨-, hmost, h₀, h₁, -, h₄, h₅, h₁₃, hnil⟩
    exact ⟨hmost, h₀, h₁, h₄, h₅, h₁₃, hnil⟩
  · rintro ⟨hmost, h₀, h₁, h₄, h₅, h₁₃, hnil⟩
    exact ⟨hcount, hmost, h₀, h₁, hwidth, h₄, h₅, h₁₃, hnil⟩

/-- Records that are accepted and assembled. An accepted record is assembled, as it is, if and only
if its storage proof has a node, no node is empty, and the header has at most 21 fields with hashes
at the places that the check does not look at. The storage proof can be empty only for an empty
storage, and empty nodes can only be surplus: without surplus nodes the record is accepted with
the same result and has no empty node. -/
theorem assemble_iff_of_verifyUnlock (h : verifyUnlock r contract slot = .ok v) :
    (∀ r', r.reassemble = .ok r' ↔
        r' = r ∧ r.storageProof ≠ [] ∧ (∀ n ∈ r.accountProof ++ r.storageProof, n ≠ []) ∧
        ∃ items, Rlp.decodeList r.headerData = .ok items ∧ items.length ≤ 21 ∧
          ∀ p ∈ [0, 1, 4, 5, 13], (items.getD p []).length = 32) ∧
      (r.storageProof = [] → v.account.storageRoot = Account.emptyStorageRoot) ∧
      ∃ accountTaken accountSurplus storageTaken storageSurplus,
        r.accountProof = accountTaken ++ accountSurplus ∧
        r.storageProof = storageTaken ++ storageSurplus ∧
        (∀ n ∈ accountTaken ++ storageTaken, n ≠ []) ∧
        verifyUnlock { r with accountProof := accountTaken, storageProof := storageTaken } contract
          slot = .ok v := by
  obtain ⟨hheader, haccount, hdata, hstorage, hhash, hslot⟩ := verifyUnlock_eq_ok_iff.mp h
  refine ⟨?_, ?_, ?_⟩
  · intro r'
    have hnode := ne_nil_of_verifyAccount haccount
    have hdecode : Account.decode r.accountData = .ok v.account :=
      Account.decode_eq_ok_iff.mpr hdata
    obtain ⟨items, hitems, hcheck⟩ := checkHeader_of_headerSummary hheader
    rw [Record.reassemble, assemble_eq_ok_iff, checkNodes_eq_ok_iff, checkNodes_eq_ok_iff, hcheck,
      List.forall_mem_append]
    constructor
    · rintro ⟨⟨-, hnodes⟩, ⟨hne, hvalues⟩, hfields, -, hr⟩
      exact ⟨hr, hne, ⟨hnodes, hvalues⟩, items, hitems, hfields⟩
    · rintro ⟨hr, hne, ⟨hnodes, hvalues⟩, items', hitems', hfields⟩
      obtain rfl := Except.ok.inj (hitems.symm.trans hitems')
      exact ⟨⟨hnode, hnodes⟩, ⟨hne, hvalues⟩, hfields, ⟨v.account, hdecode⟩, hr⟩
  · intro hempty
    rw [hempty] at hstorage
    exact eq_emptyStorageRoot_of_verifyStorage_nil hstorage
  · obtain ⟨taken, surplus, hproof, hne, htaken⟩ := exists_taken_of_verifyAccount haccount
    obtain ⟨taken', surplus', hproof', hne', htaken'⟩ := exists_taken_of_verifyStorage hstorage
    refine ⟨taken, surplus, taken', surplus', hproof, hproof',
      List.forall_mem_append.mpr ⟨hne, hne'⟩, ?_⟩
    exact verifyUnlock_eq_ok_iff.mpr ⟨hheader, htaken, hdata, htaken', hhash, hslot⟩

theorem proofOf_accountTrie (address : Address) (a : Account) (key : Hash) :
    (accountTrie address a).proofOf key = [(accountTrie address a).encode] := rfl

/-- The root node of a trie passes the check of nodes. -/
theorem checkNodes_root (list : NodeList) (t : Trie.Tree) :
    Record.checkNodes list [t.encode] = .ok () := by
  apply checkNodes_eq_ok_iff.mpr
  refine ⟨List.cons_ne_nil _ _, ?_⟩
  intro n hn
  rw [List.mem_singleton.mp hn]
  exact t.encode_ne_nil

theorem accountProof_slotRecord (address : Address) (slot : Hash) (value : U256) :
    (slotRecord address slot value []).accountProof =
      [(accountTrie address (slotAccount slot value)).encode] := rfl

theorem storageProof_slotRecord (address : Address) (slot : Hash) (value : U256) :
    (slotRecord address slot value []).storageProof = [(slotTrie slot value).encode] := rfl

/-- The record of one slot is accepted and assembled as it is. -/
theorem assemble_iff_of_verifyUnlock_slotRecord :
    (slotRecord (uniform 1) (bytesOfU256 0) 5 []).reassemble =
      .ok (slotRecord (uniform 1) (bytesOfU256 0) 5 []) := by
  obtain ⟨hiff, -, -⟩ :=
    assemble_iff_of_verifyUnlock (verifyUnlock_slotRecord (uniform 1) (bytesOfU256 0) 5 [])
  have hextra : (slotHeader (uniform 1) (bytesOfU256 0) 5).extraData.length < Nat.pow 2 63 := by
    rw [length_extraData_slotHeader]
    decide
  have he := encode_slotHeader (uniform 1) (bytesOfU256 0) 5
  have hitems := Header.decodeList_encode hextra he
  obtain ⟨-, hmost, hwidth⟩ :=
    (checkHeader_of_decodeList hitems).mp (Record.checkHeader_encode hextra he)
  have haccount := checkNodes_root .account
    (accountTrie (uniform 1) (slotAccount (bytesOfU256 0) 5))
  have hstorage := checkNodes_root .storage (slotTrie (bytesOfU256 0) 5)
  rw [checkNodes_eq_ok_iff] at haccount hstorage
  simp only [Record.hashPositions, List.forall_mem_cons] at hwidth
  apply (hiff _).mpr
  rw [accountProof_slotRecord, storageProof_slotRecord, List.forall_mem_append]
  refine ⟨rfl, hstorage.1, ⟨haccount.2, hstorage.2⟩, _, hitems, hmost, ?_⟩
  simp only [List.forall_mem_cons]
  exact ⟨hwidth.1, hwidth.2.1, hwidth.2.2.2⟩

/-- A header of strings. -/
def plainHeader (items : List Bytes) : Bytes :=
  Rlp.wrapList (Rlp.encodeItems (items.map Rlp.Item.string))

/-- The fields of a header that names a state root and block zero, with no other field than the root
and the empty one. -/
structure NamesRoot (root : Hash) (items : List Bytes) : Prop where
  least : 15 ≤ items.length
  most : items.length ≤ 22
  plain : ∀ p ∈ items, p = [] ∨ p = root.toList
  stateRoot : items.getD 3 [] = root.toList
  number : items.getD 8 [] = []

theorem decodeList_plainHeader {items : List Bytes} (h : NamesRoot root items) :
    Rlp.decodeList (plainHeader items) = .ok items := by
  have hsmall : ∀ p ∈ items, p.length ≤ 32 := by
    intro p hp
    rcases h.plain p hp with rfl | rfl
    · exact Nat.zero_le 32
    · exact Nat.le_of_eq root.length_toList
  have hsum := Header.sum_length_le hsmall
  have hlen := Rlp.length_encodeItems_string_le items
  have hmost := h.most
  have hbound : 41 * 22 < UInt64.size := by decide
  have hfits : (Rlp.encodeItems (items.map Rlp.Item.string)).length < UInt64.size := by omega
  rw [plainHeader, Rlp.decodeList_wrapList hfits, List.map_map]
  exact congrArg Except.ok (List.map_id _)

theorem headerSummary_plainHeader {items : List Bytes} (h : NamesRoot root items) :
    headerSummary (plainHeader items) = .ok (root, 0) := by
  apply headerSummary_eq_ok_iff.mpr
  refine ⟨items, decodeList_plainHeader h, h.least, h.stateRoot, ?_, ?_⟩
  · rw [h.number]
    exact Nat.zero_le 8
  · rw [h.number]
    rfl

/-- The fields of a header that has the state root at all places but that of its number. -/
def uniformFields (root : Hash) (count : Nat) : List Bytes :=
  List.replicate 8 root.toList ++ [] :: List.replicate count root.toList

/-- The fields of a header that has nothing but its state root. -/
def rootFields (root : Hash) : List Bytes :=
  List.replicate 3 [] ++ root.toList :: List.replicate 11 []

theorem length_uniformFields (root : Hash) (count : Nat) :
    (uniformFields root count).length = count + 9 := by
  simp [uniformFields]

theorem namesRoot_uniformFields {count : Nat} (hleast : 6 ≤ count) (hmost : count ≤ 13) :
    NamesRoot root (uniformFields root count) where
  least := by
    rw [length_uniformFields]
    omega
  most := by
    rw [length_uniformFields]
    omega
  plain := by
    intro p hp
    simp only [uniformFields, List.mem_append, List.mem_cons, List.mem_replicate] at hp
    rcases hp with ⟨-, rfl⟩ | rfl | ⟨-, rfl⟩
    · exact Or.inr rfl
    · exact Or.inl rfl
    · exact Or.inr rfl
  stateRoot := rfl
  number := rfl

theorem namesRoot_rootFields : NamesRoot root (rootFields root) where
  least := Nat.le_refl 15
  most := by simp [rootFields]
  plain := by
    intro p hp
    simp only [rootFields, List.mem_append, List.mem_cons, List.mem_replicate] at hp
    rcases hp with ⟨-, rfl⟩ | rfl | ⟨-, rfl⟩
    · exact Or.inl rfl
    · exact Or.inr rfl
    · exact Or.inl rfl
  stateRoot := rfl
  number := rfl

/-- An account with an empty storage. -/
def bareAccount : Account := ⟨1, 0, Account.emptyStorageRoot, Account.emptyCodeHash⟩

/-- A record that proves an empty storage by no node. -/
def bareRecord (address : Address) : Record where
  headerData := plainHeader (uniformFields (accountTrie address bareAccount).root 6)
  accountProof := (accountTrie address bareAccount).proofOf (keccak256 address.toList)
  accountData := bareAccount.encode
  storageProof := []

/-- The record of the one slot of the one account, below a header of other fields. -/
def plainRecord (address : Address) (slot : Hash) (fields : Hash → List Bytes) : Record :=
  { slotRecord address slot 5 [] with
    headerData := plainHeader (fields (accountTrie address (slotAccount slot 5)).root) }

/-- Nothing in an accepted record depends on its header but what the header names. -/
theorem verifyUnlock_of_headerSummary {headerData : Bytes}
    (h : verifyUnlock r contract slot = .ok v)
    (hsummary : headerSummary headerData = .ok (v.stateRoot, v.blockNumber)) :
    verifyUnlock { r with headerData := headerData } contract slot =
      .ok { v with blockHash := keccak256 headerData } := by
  obtain ⟨-, haccount, hdata, hstorage, -, hslot⟩ := verifyUnlock_eq_ok_iff.mp h
  exact verifyUnlock_eq_ok_iff.mpr ⟨hsummary, haccount, hdata, hstorage, rfl, hslot⟩

theorem exists_verifyUnlock_bareRecord (address : Address) (slot : Hash) :
    ∃ v, verifyUnlock (bareRecord address) address slot = .ok v := by
  have hsummary : headerSummary (plainHeader (uniformFields (accountTrie address bareAccount).root
      6)) = .ok (_, 0) :=
    headerSummary_plainHeader (namesRoot_uniformFields (Nat.le_refl 6) (by decide))
  have haccount := verifyAccount_of_holdsAccount (wellFormed_accountTrie address bareAccount) nofun
    (holdsAccount_accountTrie address bareAccount) []
  rw [List.append_nil] at haccount
  have hstorage : verifyStorage Account.emptyStorageRoot slot [] = .ok 0 :=
    verifyStorage_eq_ok_iff.mpr (Or.inl ⟨rfl, rfl, rfl⟩)
  exact ⟨⟨_, _, _, bareAccount, slot, 0⟩,
    verifyUnlock_eq_ok_iff.mpr ⟨hsummary, haccount, rfl, hstorage, rfl, rfl⟩⟩

theorem exists_verifyUnlock_plainRecord {address : Address} {fields : Hash → List Bytes}
    (hfields : ∀ root, NamesRoot root (fields root)) :
    ∃ v, verifyUnlock (plainRecord address slot fields) address slot = .ok v :=
  ⟨_, verifyUnlock_of_headerSummary (verifyUnlock_slotRecord address slot 5 [])
    (headerSummary_plainHeader (hfields _))⟩

/-- The nodes of these records pass, so that their header decides. -/
theorem reassemble_plainRecord {address : Address} {fields : Hash → List Bytes} {f : Failure}
    (hheader : ∀ root, checkHeader (plainHeader (fields root)) = .error f) :
    (plainRecord address slot fields).reassemble = .error f := by
  have haccount : Record.checkNodes .account (plainRecord address slot fields).accountProof =
      .ok () := checkNodes_root .account (accountTrie address (slotAccount slot 5))
  have hstorage : Record.checkNodes .storage (plainRecord address slot fields).storageProof =
      .ok () := checkNodes_root .storage (slotTrie slot 5)
  have hfields : checkHeader (plainRecord address slot fields).headerData = .error f := hheader _
  rw [Record.reassemble, Record.assemble, haccount, hstorage, hfields]
  rfl

/-- Four records that are accepted and not assembled: an empty storage proven by no node, an empty
surplus node, a header of 22 fields, and one with an empty hash of its parent. -/
theorem accepted_not_assembled :
    ((∃ v, verifyUnlock (bareRecord (uniform 1)) (uniform 1) (bytesOfU256 0) = .ok v) ∧
      (bareRecord (uniform 1)).reassemble = .error (.schema (.noNodes .storage))) ∧
    ((∃ v, verifyUnlock (slotRecord (uniform 1) (bytesOfU256 0) 5 [[]]) (uniform 1)
        (bytesOfU256 0) = .ok v) ∧
      (slotRecord (uniform 1) (bytesOfU256 0) 5 [[]]).reassemble =
        .error (.invalidInput (.emptyNode .account 1))) ∧
    ((∃ v, verifyUnlock (plainRecord (uniform 1) (bytesOfU256 0) (uniformFields · 13)) (uniform 1)
        (bytesOfU256 0) = .ok v) ∧
      (plainRecord (uniform 1) (bytesOfU256 0) (uniformFields · 13)).reassemble =
        .error (.invalidInput (.headerFieldCount 22))) ∧
    ((∃ v, verifyUnlock (plainRecord (uniform 1) (bytesOfU256 0) rootFields) (uniform 1)
        (bytesOfU256 0) = .ok v) ∧
      (plainRecord (uniform 1) (bytesOfU256 0) rootFields).reassemble =
        .error (.invalidInput (.headerFieldWidth 0 0))) := by
  refine ⟨⟨exists_verifyUnlock_bareRecord _ _, ?_⟩, ⟨⟨_, verifyUnlock_slotRecord _ _ _ _⟩, ?_⟩,
    ⟨exists_verifyUnlock_plainRecord ?_, reassemble_plainRecord ?_⟩,
    ⟨exists_verifyUnlock_plainRecord ?_, reassemble_plainRecord ?_⟩⟩
  · have haccount := checkNodes_root .account (accountTrie (uniform 1) bareAccount)
    simp only [Record.reassemble, Record.assemble, bareRecord, proofOf_accountTrie, haccount]
    rfl
  · have hne := (accountTrie (uniform 1) (slotAccount (bytesOfU256 0) 5)).encode_ne_nil
    simp only [Record.reassemble, Record.assemble, slotRecord, recordOf, proofOf_accountTrie,
      Record.checkNodes, List.singleton_append, List.findIdx?_cons, List.isEmpty_iff, hne]
    rfl
  · intro root
    exact namesRoot_uniformFields (by decide) (Nat.le_refl 13)
  · intro root
    rw [checkHeader,
      decodeList_plainHeader (namesRoot_uniformFields (by decide) (Nat.le_refl 13))]
    rfl
  · intro root
    exact namesRoot_rootFields
  · intro root
    rw [checkHeader, decodeList_plainHeader namesRoot_rootFields]
    rfl

end UnlockProof.Verification

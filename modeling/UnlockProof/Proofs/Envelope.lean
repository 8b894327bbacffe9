import UnlockProof.Envelope
import UnlockProof.Proofs.Json.Records
import UnlockProof.Proofs.Json.Strings

/-!
# Response envelopes

What is read as the envelope of a response that holds neither an error nor a result. Every member
of an envelope may be absent and other members are passed over, so that besides an envelope with
null members also documents are read that have nothing to do with one.
-/

namespace UnlockProof.Response
open Json Outcome

variable {t : Tree} {text : String}

/-- The members of an envelope. -/
def members : List (Member Tree) :=
  [.lacking "id" (Tree.value 1), .lacking "result" (Tree.optional (Tree.value 1)),
    .lacking "error" (Tree.optional (ErrorObject.ofTree 1))]

/-- The names of the members of an envelope. -/
def memberKeys : List String := ["id", "result", "error"]

theorem ofTree_eq_ok_iff {r : Response} :
    ofTree t = .ok r ↔ ∃ found, t.record "JsonRpcResponse" members = .ok found ∧
      found.orElse "id" (Tree.value 1) .null = .ok r.id ∧
      found.orElse "result" (Tree.optional (Tree.value 1)) none = .ok r.result ∧
      found.orElse "error" (Tree.optional (ErrorObject.ofTree 1)) none = .ok r.error := by
  have hread : ofTree t = (do
      let found ← t.record "JsonRpcResponse" members
      let id ← found.orElse "id" (Tree.value 1) .null
      let result ← found.orElse "result" (Tree.optional (Tree.value 1)) none
      let error ← found.orElse "error" (Tree.optional (ErrorObject.ofTree 1)) none
      return ⟨id, result, error⟩) := rfl
  simp only [hread, bind_eq_ok_iff, pure_eq_ok_iff]
  constructor
  · rintro ⟨found, hrecord, id, hid, result, hresult, error, herror, rfl⟩
    exact ⟨found, hrecord, hid, hresult, herror⟩
  · rintro ⟨found, hrecord, hid, hresult, herror⟩
    exact ⟨found, hrecord, r.id, hid, r.result, hresult, r.error, herror, rfl⟩

/-- Says that the entries of an object give an envelope neither an error nor a result: these and
the identifier stand there at most once, an identifier can be read, and what stands under other
names can be passed over. -/
structure BlankEntries (entries : List (String × Tree)) : Prop where
  once : ∀ key ∈ memberKeys, (entries.map Prod.fst).count key ≤ 1
  id : ∀ t, ("id", t) ∈ entries → ∃ v, t.value 1 = .ok v
  null : ∀ key ∈ ["result", "error"], ∀ t, (key, t) ∈ entries → t = .null
  foreign : ∀ e ∈ entries, e.1 ∉ memberKeys → e.2.skip = .ok ()

/-- Says that the items of a list give an envelope neither an error nor a result. -/
structure BlankItems (items : List Tree) : Prop where
  length_le : items.length ≤ memberKeys.length
  id : ∀ t ∈ items.head?, ∃ v, t.value 1 = .ok v
  null : ∀ t ∈ items.tail, t = .null

/-- Documents that are read as an envelope without an error and without a result. -/
inductive IsBlank : Tree → Prop
  | object {entries : List (String × Tree)} (h : BlankEntries entries) :
      IsBlank (.object (Tree.ofEntries entries) .closed)
  | list {items : List Tree} (h : BlankItems items) : IsBlank (.list items .closed)

/-- An object that has nothing to do with envelopes is read as a blank one. -/
theorem BlankEntries.of_foreign {entries : List (String × Tree)}
    (hnames : ∀ e ∈ entries, e.1 ∉ memberKeys) (hskip : ∀ e ∈ entries, e.2.skip = .ok ()) :
    BlankEntries entries where
  once key hkey := by
    have habsent : key ∉ entries.map Prod.fst := fun hmem =>
      have ⟨e, he, heq⟩ := List.mem_map.mp hmem
      hnames e he (heq ▸ hkey)
    rw [List.count_eq_zero.mpr habsent]
    exact Nat.zero_le 1
  id t ht := absurd List.mem_cons_self (hnames _ ht)
  null key hkey t ht := absurd (List.mem_cons_of_mem _ hkey) (hnames _ ht)
  foreign e he _ := hskip e he

/-- Says that what was found is neither an error nor a result. -/
def FoundBlank (found : Found.Members Tree) : Prop :=
  (∀ t, found.get? "id" = some t → ∃ v, t.value 1 = .ok v) ∧
    ∀ key ∈ ["result", "error"], ∀ t, found.get? key = some t → t = .null

theorem exists_ofTree_eq_iff_foundBlank :
    (∃ id, ofTree t = .ok ⟨id, none, none⟩) ↔
      ∃ found, t.record "JsonRpcResponse" members = .ok found ∧ FoundBlank found := by
  have hid : ∀ found : Found.Members Tree,
      (∃ id, found.orElse "id" (Tree.value 1) .null = .ok id) ↔
        ∀ t, found.get? "id" = some t → ∃ v, t.value 1 = .ok v := by
    intro found
    rw [Found.Members.orElse]
    cases found.get? "id" <;> simp
  simp only [ofTree_eq_ok_iff, Found.Members.orElse_optional_eq_none_iff, FoundBlank,
    List.forall_mem_cons, ← hid]
  constructor
  · rintro ⟨id, found, hrecord, hid, hresult, herror⟩
    exact ⟨found, hrecord, ⟨id, hid⟩, hresult, herror, fun _ h => absurd h List.not_mem_nil⟩
  · rintro ⟨found, hrecord, ⟨id, hid⟩, hresult, herror, -⟩
    exact ⟨id, found, hrecord, hid, hresult, herror⟩

section Objects
variable {entries : List (String × Tree)}

theorem known_nodup_iff : ((Tree.known members entries).map Prod.fst).Nodup ↔
    ∀ key ∈ memberKeys, (entries.map Prod.fst).count key ≤ 1 := by
  have hknown : (Tree.known members entries).map Prod.fst =
      (entries.map Prod.fst).filter fun key => key ∈ memberKeys := by
    rw [List.filter_map]
    rfl
  rw [hknown, List.nodup_iff_count_le_one]
  refine forall_congr' fun key => ?_
  by_cases hkey : key ∈ memberKeys
  · rw [List.count_filter (by simpa using hkey)]
    simp only [hkey, true_imp_iff]
  · have habsent : key ∉ (entries.map Prod.fst).filter fun key => key ∈ memberKeys := by
      simp [hkey]
    simp [List.count_eq_zero.mpr habsent, hkey]

theorem get?_known_eq_some_iff (hkeys : ((Tree.known members entries).map Prod.fst).Nodup)
    {key : String} (hkey : key ∈ memberKeys) :
    Found.Members.get? (Tree.known members entries).reverse key = some t ↔ (key, t) ∈ entries := by
  have hreverse : ((Tree.known members entries).reverse.map Prod.fst).Nodup := by
    rwa [List.map_reverse, List.nodup_reverse]
  rw [Found.Members.get?_eq_some_iff hreverse, List.mem_reverse, Tree.known, List.mem_filter]
  exact and_iff_left (decide_eq_true hkey)

/-- An object holds the record of an envelope with nothing found in it exactly if its entries are
blank. -/
theorem holds_foundBlank_iff :
    Tree.Holds members entries ∧ FoundBlank (Tree.known members entries).reverse ↔
      BlankEntries entries := by
  constructor
  · rintro ⟨⟨hpasses, hkeys⟩, hid, hnull⟩
    refine ⟨known_nodup_iff.mp hkeys, fun t ht => ?_, fun key hkey t ht => ?_,
      fun e he hforeign => ?_⟩
    · exact hid t ((get?_known_eq_some_iff hkeys (by decide)).mpr ht)
    · have hmem : key ∈ memberKeys := List.mem_cons_of_mem _ hkey
      exact hnull key hkey t ((get?_known_eq_some_iff hkeys hmem).mpr ht)
    · exact (Tree.passes_foreign_iff (Tree.find?_key_eq_none_iff.mpr hforeign)).mp (hpasses e he)
  · rintro ⟨honce, hid, hnull, hforeign⟩
    have hkeys := known_nodup_iff.mpr honce
    refine ⟨⟨fun e he => ?_, hkeys⟩, fun t ht => ?_, fun key hkey t ht => ?_⟩
    · -- Under the three names stands what passes the check of the member, elsewhere what is
      -- skipped.
      obtain ⟨key, t⟩ := e
      by_cases hkey : key ∈ memberKeys
      · simp only [memberKeys, List.mem_cons, List.not_mem_nil, or_false] at hkey
        obtain rfl | hkey := hkey
        · obtain ⟨v, hv⟩ := hid t he
          exact asCheck_eq_ok_iff.mpr ⟨v, hv⟩
        · obtain rfl := hnull key (by simpa using hkey) t he
          rcases hkey with rfl | rfl <;> rfl
      · exact (Tree.passes_foreign_iff (Tree.find?_key_eq_none_iff.mpr hkey)).mpr
          (hforeign _ he hkey)
    · exact hid t ((get?_known_eq_some_iff hkeys (by decide)).mp ht)
    · have hmem : key ∈ memberKeys := List.mem_cons_of_mem _ hkey
      exact hnull key hkey t ((get?_known_eq_some_iff hkeys hmem).mp ht)

end Objects

section Lists
variable {items : List Tree}

/-- The items of a list by their place, under the names of the members of an envelope. -/
def named (items : List Tree) : Found.Members Tree :=
  (members.zip items).map fun p => (p.1.key, p.2)

theorem get?_named_id : (named items).get? "id" = items.head? := by
  cases items <;> rfl

/-- Behind the identifier all items of a list are null if what stands for a result and an error
is. -/
theorem forall_mem_tail_iff (hlength : items.length ≤ memberKeys.length) :
    (∀ key ∈ ["result", "error"], ∀ t, (named items).get? key = some t → t = .null) ↔
      ∀ t ∈ items.tail, t = .null := by
  -- A list of at most three items has one of four lengths.
  rcases items with _ | ⟨a, _ | ⟨b, _ | ⟨c, _ | ⟨d, rest⟩⟩⟩⟩
  case cons.cons.cons.cons =>
    simp only [memberKeys, List.length_cons, List.length_nil] at hlength
    omega
  all_goals simp [named, members, Found.Members.get?, Member.lacking]

theorem foundBlank_named_iff (hlength : items.length ≤ memberKeys.length) :
    FoundBlank (named items) ↔ BlankItems items := by
  rw [FoundBlank, get?_named_id, forall_mem_tail_iff hlength]
  exact ⟨fun ⟨hid, hnull⟩ => ⟨hlength, hid, hnull⟩, fun h => ⟨h.id, h.null⟩⟩

theorem BlankItems.check (h : BlankItems items) :
    ∀ p ∈ members.zip items, p.1.check p.2 = .ok () := by
  cases items with
  | nil => nofun
  | cons t items =>
      obtain ⟨v, hv⟩ := h.id t rfl
      rw [members, List.zip_cons_cons, List.forall_mem_cons]
      refine ⟨asCheck_eq_ok_iff.mpr ⟨v, hv⟩, fun p hp => ?_⟩
      obtain ⟨hmember, hitem⟩ := List.of_mem_zip hp
      obtain ⟨m, t⟩ := p
      obtain rfl := h.null t hitem
      rcases List.mem_pair.mp hmember with rfl | rfl <;> rfl

theorem record_list_foundBlank_iff :
    (∃ found, Tree.record "JsonRpcResponse" members (.list items .closed) = .ok found ∧
      FoundBlank found) ↔ BlankItems items := by
  simp only [Tree.record_list_eq_ok_iff]
  constructor
  · rintro ⟨found, ⟨-, hlength, -, -, rfl⟩, hblank⟩
    exact (foundBlank_named_iff hlength).mp hblank
  · intro h
    have hlack : ∀ m ∈ members, m.mayLack = true := by
      simp [members, Member.lacking]
    exact ⟨_, ⟨trivial, h.length_le, fun m hm => hlack m (List.mem_of_mem_drop hm), h.check, rfl⟩,
      (foundBlank_named_iff h.length_le).mpr h⟩

end Lists

/-- The documents that are read as an envelope without an error and without a result. -/
theorem exists_ofTree_eq_blank_iff : (∃ id, ofTree t = .ok ⟨id, none, none⟩) ↔ IsBlank t := by
  rw [exists_ofTree_eq_iff_foundBlank]
  constructor
  · rintro ⟨found, hrecord, hblank⟩
    cases t with
    | object ms ending =>
        obtain ⟨rfl, entries, rfl, hholds, rfl⟩ := Tree.record_object_eq_ok_iff.mp hrecord
        exact .object (holds_foundBlank_iff.mp ⟨hholds, hblank⟩)
    | list items ending =>
        obtain ⟨rfl, -⟩ := Tree.record_list_eq_ok_iff.mp hrecord
        exact .list (record_list_foundBlank_iff.mp ⟨found, hrecord, hblank⟩)
    | _ => cases hrecord
  · rintro (⟨hblank⟩ | ⟨hblank⟩)
    · obtain ⟨hholds, hfound⟩ := holds_foundBlank_iff.mpr hblank
      exact ⟨_, Tree.record_object_eq_ok_iff.mpr ⟨rfl, _, rfl, hholds, rfl⟩, hfound⟩
    · exact record_list_foundBlank_iff.mpr hblank

/-- Says that a text is read as an envelope without an error and without a result. -/
def IsBlankText (text : String) : Prop := ∃ t, ReadsAs text t ∧ IsBlank t

/-- Says that a text carries an answer: it is the envelope of an error or of a result other than
null. -/
def CarriesAnswer (text : String) : Prop :=
  ∃ r, ofText text = .ok r ∧ (r.error ≠ none ∨ r.result ≠ none)

theorem exists_ofText_eq_blank_iff :
    (∃ id, ofText text = .ok ⟨id, none, none⟩) ↔ IsBlankText text := by
  simp only [ofText, decode_eq_ok_iff, IsBlankText, ← exists_ofTree_eq_blank_iff]
  constructor
  · rintro ⟨id, t, htext, ht⟩
    exact ⟨t, htext, id, ht⟩
  · rintro ⟨t, htext, id, ht⟩
    exact ⟨id, t, htext, ht⟩

section Member
variable {key : String} (message : String)

theorem read_member (fuel : Nat) :
    Tree.read (fuel + 3) (Value.object [(key, .string message)]).renderChars =
      (.object (Tree.ofEntries [(key, .string (.ok message))]) .closed, some []) := by
  simp [Value.renderChars, Value.renderMembers, Value.renderString, Tree.read, Tree.readMembers,
    isSpace, scanString_append, Tree.ofEntries]

theorem readsAs_member :
    ReadsAs (Value.object [(key, .string message)]).render
      (.object (Tree.ofEntries [(key, .string (.ok message))]) .closed) := by
  have hlength : 0 < (Value.object [(key, .string message)]).renderChars.length := Nat.succ_pos _
  obtain ⟨n, hn⟩ := Nat.exists_eq_succ_of_ne_zero hlength.ne'
  refine ⟨some [], ?_, rfl⟩
  rw [Value.render, String.toList_ofList, hn]
  exact read_member message (2 * n + 1)

/-- An object with nothing but a message under another name is read as a blank envelope. -/
theorem isBlankText_member (hkey : key ∉ memberKeys) :
    IsBlankText (Value.object [(key, .string message)]).render :=
  ⟨_, readsAs_member message, .object (.of_foreign (by simpa using hkey) (by simp [Tree.skip]))⟩

end Member

theorem IsBlankText.not_carriesAnswer (h : IsBlankText text) : ¬ CarriesAnswer text := by
  rintro ⟨r, hr, hanswer⟩
  obtain ⟨id, hid⟩ := exists_ofText_eq_blank_iff.mpr h
  obtain rfl := Except.ok.inj (hid.symm.trans hr)
  simp at hanswer

/-- A text without an answer is blank or no envelope at all. -/
theorem exists_ofText_eq_error (hanswer : ¬ CarriesAnswer text) (hblank : ¬ IsBlankText text) :
    ∃ f, ofText text = .error f := by
  cases hread : ofText text with
  | error f => exact ⟨f, rfl⟩
  | ok r =>
      obtain ⟨id, result, error⟩ := r
      have herror : error = none := by
        by_contra hsome
        exact hanswer ⟨_, hread, .inl hsome⟩
      have hresult : result = none := by
        by_contra hsome
        exact hanswer ⟨_, hread, .inr hsome⟩
      subst herror hresult
      exact absurd (exists_ofText_eq_blank_iff.mp ⟨id, hread⟩) hblank

end UnlockProof.Response

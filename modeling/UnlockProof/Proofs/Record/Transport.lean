import Mathlib.Algebra.Group.Nat.Defs
import UnlockProof.Proofs.Base64.Canonical
import UnlockProof.Proofs.BigEndian
import UnlockProof.Proofs.Text
import UnlockProof.Record.Assembly

/-!
# Records that travel

A record whose lengths can be expressed is read back from its schema bytes, and from the text that
carries them. Nothing else is read as that record: a text that is read is, without the white space
at its ends, the one text of the record that comes out.

## Implementation notes

Every reader of the schema takes what its writer has put in front of the rest. So each is stated as
an equivalence about bytes with a rest, and the whole record follows part by part.
-/

namespace UnlockProof.Record
open Outcome

variable {bs s rest : Bytes} {ns : List Bytes} {n : Nat} {r : Record}

theorem readLength_eq_ok_iff :
    readLength bs = .ok (n, rest) ↔ n < lengthBound ∧ bs = writeLength n ++ rest := by
  constructor
  · intro h
    match bs, h with
    | a :: b :: c :: d :: more, h =>
        cases h
        have hbytes : bigEndian 4 (ofBigEndian [d, c, b, a]) = [d, c, b, a] :=
          bigEndian_ofBigEndian [d, c, b, a]
        have hlt : ofBigEndian [d, c, b, a] < Nat.pow 256 4 :=
          ofBigEndian_lt_of_length_le (Nat.le_refl 4)
        have hbound : Nat.pow 256 4 = lengthBound := by decide
        rw [← hbound, writeLength, hbytes]
        exact ⟨hlt, rfl⟩
    | [], h | [_], h | [_, _], h | [_, _, _], h => cases h
  · rintro ⟨h, rfl⟩
    have hvalue : ofBigEndian (bigEndian 4 n) = n := by
      rw [ofBigEndian_bigEndian]
      exact Nat.mod_eq_of_lt h
    obtain ⟨a, b, c, d, hbytes⟩ : ∃ a b c d, bigEndian 4 n = [a, b, c, d] := ⟨_, _, _, _, rfl⟩
    rw [writeLength, hbytes]
    rw [hbytes] at hvalue
    simp only [List.reverse_cons, List.reverse_nil, List.nil_append, List.cons_append, readLength,
      hvalue]

theorem readBytes_eq_ok_iff :
    readBytes bs = .ok (s, rest) ↔ s.length < lengthBound ∧ bs = writeBytes s ++ rest := by
  simp only [readBytes, bind_eq_ok_iff, check_eq_ok_iff, pure_eq_ok_iff, Prod.exists,
    readLength_eq_ok_iff, Prod.mk.injEq]
  constructor
  · rintro ⟨n, after, ⟨hn, rfl⟩, hlen, rfl, rfl⟩
    have htake : (after.take n).length = n := by
      rw [List.length_take]
      omega
    rw [writeBytes, htake, List.append_assoc, List.take_append_drop]
    exact ⟨hn, rfl⟩
  · rintro ⟨hs, rfl⟩
    exact ⟨s.length, s ++ rest, ⟨hs, List.append_assoc _ _ _⟩, by simp, List.take_left,
      List.drop_left⟩

theorem readEntries_eq_ok_iff :
    readEntries n bs = .ok (ns, rest) ↔
      ns.length = n ∧ (∀ s ∈ ns, s.length < lengthBound) ∧
        bs = ns.flatMap writeBytes ++ rest := by
  induction n generalizing bs ns rest with
  | zero =>
      rw [readEntries, List.length_eq_zero_iff]
      constructor
      · rintro ⟨⟩
        exact ⟨rfl, nofun, rfl⟩
      · rintro ⟨rfl, -, rfl⟩
        rfl
  | succ n ih =>
      simp only [readEntries, bind_eq_ok_iff, pure_eq_ok_iff, Prod.exists, readBytes_eq_ok_iff, ih,
        Prod.mk.injEq]
      constructor
      · rintro ⟨first, after, ⟨hfirst, rfl⟩, more, rest, ⟨hcount, hmore, rfl⟩, rfl, rfl⟩
        refine ⟨congrArg Nat.succ hcount, List.forall_mem_cons.mpr ⟨hfirst, hmore⟩, ?_⟩
        rw [List.flatMap_cons, List.append_assoc]
      · rintro ⟨hcount, hall, rfl⟩
        match ns with
        | first :: more =>
            obtain ⟨hfirst, hmore⟩ := List.forall_mem_cons.mp hall
            exact ⟨first, more.flatMap writeBytes ++ rest,
              ⟨hfirst, by rw [List.flatMap_cons, List.append_assoc]⟩, more, rest,
              ⟨Nat.succ.inj hcount, hmore, rfl⟩, rfl, rfl⟩

theorem readNodes_eq_ok_iff :
    readNodes bs = .ok (ns, rest) ↔
      (ns.length < lengthBound ∧ ∀ s ∈ ns, s.length < lengthBound) ∧
        bs = writeNodes ns ++ rest := by
  simp only [readNodes, bind_eq_ok_iff, Prod.exists, readLength_eq_ok_iff, readEntries_eq_ok_iff]
  constructor
  · rintro ⟨n, after, ⟨hn, rfl⟩, rfl, hall, rfl⟩
    rw [writeNodes, List.append_assoc]
    exact ⟨⟨hn, hall⟩, rfl⟩
  · rintro ⟨⟨hn, hall⟩, rfl⟩
    exact ⟨_, _, ⟨hn, List.append_assoc _ _ _⟩, rfl, hall, rfl⟩

theorem isRepresentable_iff :
    r.isRepresentable = true ↔ r.headerData.length < lengthBound ∧
      (r.accountProof.length < lengthBound ∧ ∀ n ∈ r.accountProof, n.length < lengthBound) ∧
      r.accountData.length < lengthBound ∧
      (r.storageProof.length < lengthBound ∧ ∀ n ∈ r.storageProof, n.length < lengthBound) := by
  simp only [isRepresentable, Bool.and_eq_true, decide_eq_true_eq, List.all_eq_true, and_assoc]

theorem toSchema?_eq_some_iff :
    r.toSchema? = some bs ↔ r.isRepresentable = true ∧
      bs = writeBytes r.headerData ++ (writeNodes r.accountProof ++ (writeBytes r.accountData
        ++ (writeNodes r.storageProof ++ []))) := by
  rw [toSchema?]
  by_cases hrep : r.isRepresentable = true
  · simp [hrep, eq_comm]
  · simp [hrep]

/-- Bytes are read as a record exactly if they are its schema bytes. -/
theorem ofSchema_eq_ok_iff : ofSchema bs = .ok r ↔ r.toSchema? = some bs := by
  simp only [ofSchema, bind_eq_ok_iff, check_eq_ok_iff, pure_eq_ok_iff, Prod.exists,
    readBytes_eq_ok_iff, readNodes_eq_ok_iff, toSchema?_eq_some_iff, isRepresentable_iff]
  constructor
  · rintro ⟨_, _, ⟨hheader, rfl⟩, _, _, ⟨haccount, rfl⟩, _, _, ⟨hdata, rfl⟩, _, rest,
      ⟨hstorage, rfl⟩, hrest, rfl⟩
    rw [Classical.not_not.mp hrest]
    exact ⟨⟨hheader, haccount, hdata, hstorage⟩, rfl⟩
  · rintro ⟨⟨hheader, haccount, hdata, hstorage⟩, rfl⟩
    exact ⟨_, _, ⟨hheader, rfl⟩, _, _, ⟨haccount, rfl⟩, _, _, ⟨hdata, rfl⟩, _, _,
      ⟨hstorage, rfl⟩, Classical.not_not.mpr rfl, rfl⟩

theorem isBlank_latin1_of_mem_encode (bs : Bytes) :
    ∀ b ∈ Base64.encode bs, Text.isBlank (Text.latin1 b) = false :=
  Base64.of_mem_encode (by decide) (by decide) bs

theorem utf8EncodeChar_latin1_of_mem_encode (bs : Bytes) :
    ∀ b ∈ Base64.encode bs, String.utf8EncodeChar (Text.latin1 b) = [b] :=
  Base64.of_mem_encode (by decide) (by decide) bs

/-- A text with the bytes of a Base64 text is this text. -/
theorem utf8_eq_encode_iff {cs : List Char} :
    Text.utf8 cs = Base64.encode bs ↔ cs = (Base64.encode bs).map Text.latin1 := by
  have hbytes := Text.utf8_map_latin1 (utf8EncodeChar_latin1_of_mem_encode bs)
  constructor
  · intro h
    exact Text.utf8_injective (h.trans hbytes.symm)
  · rintro rfl
    exact hbytes

theorem serialize_eq_ok_iff {text : String} :
    r.serialize = .ok text ↔
      ∃ bs, r.toSchema? = some bs ∧ text = String.ofList ((Base64.encode bs).map Text.latin1) := by
  rw [serialize]
  cases r.toSchema? with
  | none => simp
  | some bs => simp [eq_comm]

/-- A record that travels holds no long header. -/
theorem length_headerData_of_serialize {text : String} (h : r.serialize = .ok text) :
    r.headerData.length < lengthBound := by
  obtain ⟨bs, hschema, -⟩ := serialize_eq_ok_iff.mp h
  exact (isRepresentable_iff.mp (toSchema?_eq_some_iff.mp hschema).1).1

theorem exists_serialize_iff : (∃ text, r.serialize = .ok text) ↔ r.isRepresentable = true := by
  constructor
  · rintro ⟨text, h⟩
    obtain ⟨bs, hschema, -⟩ := serialize_eq_ok_iff.mp h
    exact (toSchema?_eq_some_iff.mp hschema).1
  · intro hrep
    exact ⟨_, serialize_eq_ok_iff.mpr ⟨_, toSchema?_eq_some_iff.mpr ⟨hrep, rfl⟩, rfl⟩⟩

/-- There is no white space at the ends of a transport text. -/
theorem trim_of_serialize {text : String} (h : r.serialize = .ok text) :
    Text.trim text = text := by
  obtain ⟨bs, -, rfl⟩ := serialize_eq_ok_iff.mp h
  have hblank : ∀ c ∈ (Base64.encode bs).map Text.latin1, Text.isBlank c = false := by
    intro c hc
    obtain ⟨b, hb, rfl⟩ := List.mem_map.mp hc
    exact isBlank_latin1_of_mem_encode bs b hb
  rw [Text.trim, String.toList_ofList, Text.trimmed_of_forall hblank]

/-- A text is read as a record exactly if it is the text of the record between white space. -/
theorem deserialize_eq_ok_iff {text : String} :
    deserialize text = .ok r ↔ r.serialize = .ok (Text.trim text) := by
  have hread : deserialize text = .ok r ↔
      ∃ bs, Base64.decode (Text.utf8 (Text.trimmed text.toList)) = .ok bs ∧
        ofSchema bs = .ok r := by
    rw [deserialize]
    cases Base64.decode (Text.utf8 (Text.trimmed text.toList)) with
    | error f => simp
    | ok bs => simp [ofSchemaOrFail, mapError_eq_ok_iff]
  have htext (bs : Bytes) : Text.utf8 (Text.trimmed text.toList) = Base64.encode bs ↔
      Text.trim text = String.ofList ((Base64.encode bs).map Text.latin1) := by
    rw [utf8_eq_encode_iff, Text.trim, String.ofList_inj]
  rw [hread, serialize_eq_ok_iff]
  simp only [Base64.decode_eq_ok_iff, ofSchema_eq_ok_iff, htext, and_comm]

/-- A record is read back from its transport text. -/
theorem deserialize_of_serialize {text : String} (h : r.serialize = .ok text) :
    deserialize text = .ok r := by
  rw [deserialize_eq_ok_iff, trim_of_serialize h]
  exact h

/-- Records and transport texts match one to one. A text is read as a record if and only if it is
the text of the record between white space. A record has a text if and only if the schema can
express its lengths; it is read back from this text, and from no other but for white space. -/
theorem deserialize_iff_serialize (r : Record) :
    (∀ text, deserialize text = .ok r ↔ r.serialize = .ok (Text.trim text)) ∧
      ((∃ text, r.serialize = .ok text) ↔
        r.headerData.length ≤ 2 ^ 32 - 1 ∧
        (r.accountProof.length ≤ 2 ^ 32 - 1 ∧ ∀ n ∈ r.accountProof, n.length ≤ 2 ^ 32 - 1) ∧
        r.accountData.length ≤ 2 ^ 32 - 1 ∧
        (r.storageProof.length ≤ 2 ^ 32 - 1 ∧ ∀ n ∈ r.storageProof, n.length ≤ 2 ^ 32 - 1)) ∧
      ∀ text, r.serialize = .ok text → deserialize text = .ok r ∧
        ∀ other, deserialize other = .ok r → Text.trim other = text := by
  have hbound (n : Nat) : n ≤ 2 ^ 32 - 1 ↔ n < lengthBound := Nat.lt_succ_iff.symm
  refine ⟨fun text => deserialize_eq_ok_iff, ?_, ?_⟩
  · simp only [exists_serialize_iff, isRepresentable_iff, hbound]
  · intro text htext
    refine ⟨deserialize_of_serialize htext, ?_⟩
    intro other hother
    exact Except.ok.inj ((deserialize_eq_ok_iff.mp hother).symm.trans htext)

/-- A record with an empty node and an empty list of nodes. -/
def sparse : Record := ⟨[0xaa, 0xbb], [[], [0x02, 0x03]], [], []⟩

/-- The text of the record with empty parts is read between white space as well. -/
theorem deserialize_iff_serialize_sparse :
    sparse.serialize = .ok "AgAAAKq7AgAAAAAAAAACAAAAAgMAAAAAAAAAAA==" ∧
      deserialize "\u3000AgAAAKq7AgAAAAAAAAACAAAAAgMAAAAAAAAAAA==\r\n" = .ok sparse ∧
      ∀ other, deserialize other = .ok sparse →
        Text.trim other = "AgAAAKq7AgAAAAAAAAACAAAAAgMAAAAAAAAAAA==" := by
  obtain ⟨hread, -, hone⟩ := deserialize_iff_serialize sparse
  have hschema : sparse.toSchema? =
      some [2, 0, 0, 0, 0xaa, 0xbb, 2, 0, 0, 0, 0, 0, 0, 0, 2, 0, 0, 0, 2, 3, 0, 0, 0, 0, 0, 0, 0,
        0] := by decide
  have htext : sparse.serialize = .ok "AgAAAKq7AgAAAAAAAAACAAAAAgMAAAAAAAAAAA==" :=
    serialize_eq_ok_iff.mpr ⟨_, hschema, by decide +kernel⟩
  refine ⟨htext, (hread _).mpr ?_, (hone _ htext).2⟩
  rw [htext]
  exact congrArg Except.ok (by decide +kernel)

end UnlockProof.Record

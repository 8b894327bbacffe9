import Mathlib.Data.List.Nodup
import UnlockProof.Json.Shape
import UnlockProof.Proofs.Outcome

/-!
# Records in documents

When a document is read as a record, and what is found in it. In an object every member of the
record stands at most once, and whatever has another name only has to be skippable; a list has the
values in the order of the members and may end early where the members that it lacks allow it.

## Implementation notes

The members of an object are collected backwards, so what is found is the reverse of the entries
with a known name. As their names differ, the order does not matter to looking one up.
-/

namespace UnlockProof.Json
open Outcome

variable {members : List (Member Tree)} {found found' : Found.Members Tree} {ending : Ending}

/-- Says that a text starts with a tree and that only spaces follow. Nothing follows a tree inside
which the text breaks off. -/
def ReadsAs (text : String) (t : Tree) : Prop :=
  ∃ rest, Tree.read (2 * text.toList.length + 2) text.toList = (t, rest) ∧
    (rest.getD []).all isSpace = true

theorem decode_eq_ok_iff {α : Type} {reader : Tree → Except Fault α} {text : String} {a : α} :
    decode reader text = .ok a ↔ ∃ t, ReadsAs text t ∧ reader t = .ok a := by
  simp only [decode, ReadsAs]
  generalize Tree.read (2 * text.toList.length + 2) text.toList = read
  obtain ⟨tree, rest⟩ := read
  rw [bind_eq_ok_iff]
  constructor
  · rintro ⟨b, hread, hrest⟩
    split at hrest
    case isTrue hspace =>
      obtain rfl := pure_eq_ok_iff.mp hrest
      exact ⟨tree, ⟨rest, rfl, hspace⟩, hread⟩
    case isFalse => cases hrest
  · rintro ⟨t, ⟨rest', heq, hspace⟩, hread⟩
    obtain ⟨rfl, rfl⟩ := Prod.mk.inj heq
    exact ⟨a, hread, by rw [if_pos hspace]; rfl⟩

theorem Tree.optional_eq_none_iff {α : Type} {read : Tree → Except Fault α} {t : Tree} :
    t.optional read = .ok none ↔ t = .null := by
  cases t <;> simp [optional, map_eq_ok_iff]

namespace Found.Members
variable {δ : Type} {kept : Found.Members δ} {key : String} {d : δ}

theorem get?_eq_none_iff : get? kept key = none ↔ key ∉ kept.map Prod.fst := by
  rw [get?, Option.map_eq_none_iff, List.find?_eq_none, List.mem_map, not_exists]
  simp only [decide_eq_true_eq, not_and]

/-- Where the names differ, a lookup finds every value under its name. -/
theorem get?_eq_some_iff (hkeys : (kept.map Prod.fst).Nodup) :
    get? kept key = some d ↔ (key, d) ∈ kept := by
  induction kept with
  | nil => simp [get?]
  | cons m kept ih =>
      obtain ⟨hm, hkeys⟩ := List.nodup_cons.mp hkeys
      have hget : get? (m :: kept) key = if m.1 = key then some m.2 else get? kept key := by
        by_cases hkey : m.1 = key <;> simp [get?, hkey]
      rw [hget, List.mem_cons]
      by_cases hkey : m.1 = key
      · have hnot : (key, d) ∉ kept := fun h => hm (hkey ▸ List.mem_map_of_mem h)
        simp [hkey, hnot, Prod.ext_iff, eq_comm]
      · have hne : (key, d) ≠ m := fun h => hkey (congrArg Prod.fst h).symm
        simp only [if_neg hkey, hne, false_or, ih hkeys]

theorem orElse_eq_ok_iff {α : Type} {read : δ → Except Fault α} {default a : α} :
    orElse kept key read default = .ok a ↔
      (∀ d, get? kept key = some d → read d = .ok a) ∧ (get? kept key = none → default = a) := by
  rw [orElse]
  cases get? kept key with
  | none => simp
  | some d => simp

theorem orElse_optional_eq_none_iff {α : Type} {read : Tree → Except Fault α} {key : String} :
    found.orElse key (Tree.optional read) none = .ok none ↔
      ∀ t, found.get? key = some t → t = .null := by
  simp only [orElse_eq_ok_iff, Tree.optional_eq_none_iff, implies_true, and_true]

end Found.Members

namespace Tree

/-- Entries whose keys can be read, as the members of an object. -/
def ofEntries (entries : List (String × Tree)) : List (Except Fault String × Tree) :=
  entries.map fun e => (.ok e.1, e.2)

/-- Says that an entry does not keep a record from being read: it passes the check of the member
with its name, or no member has its name and it can be skipped. -/
def Passes (members : List (Member Tree)) (e : String × Tree) : Prop :=
  match members.find? fun m => m.key = e.1 with
  | some m => m.check e.2 = .ok ()
  | none => e.2.skip = .ok ()

/-- The entries with the name of a member. -/
def known (members : List (Member Tree)) (entries : List (String × Tree)) : Found.Members Tree :=
  entries.filter fun e => e.1 ∈ members.map Member.key

theorem find?_key_eq_none_iff {key : String} :
    members.find? (fun m => m.key = key) = none ↔ key ∉ members.map Member.key := by
  rw [List.find?_eq_none, List.mem_map, not_exists]
  simp only [decide_eq_true_eq, not_and]

section Entry
variable {key : String} {t : Tree} {m : Member Tree} {entries : List (String × Tree)}
  {rest : List (Except Fault String × Tree)}

theorem passes_foreign_iff (hkey : members.find? (fun m => m.key = key) = none) :
    Passes members (key, t) ↔ t.skip = .ok () := by
  simp only [Passes, hkey]

theorem passes_named_iff (hkey : members.find? (fun m => m.key = key) = some m) :
    Passes members (key, t) ↔ m.check t = .ok () := by
  simp only [Passes, hkey]

theorem known_cons_foreign (hkey : members.find? (fun m => m.key = key) = none) :
    known members ((key, t) :: entries) = known members entries :=
  List.filter_cons_of_neg (by simpa using find?_key_eq_none_iff.mp hkey)

theorem known_cons_named (hkey : members.find? (fun m => m.key = key) = some m) :
    known members ((key, t) :: entries) = (key, t) :: known members entries := by
  have hmem : key ∈ members.map Member.key := by
    by_contra hnot
    exact Option.some_ne_none m (hkey.symm.trans (find?_key_eq_none_iff.mpr hnot))
  exact List.filter_cons_of_pos (by simpa using hmem)

theorem collect_foreign_eq_ok_iff (hkey : members.find? (fun m => m.key = key) = none) :
    collect members found ((.ok key, t) :: rest) = .ok found' ↔
      t.skip = .ok () ∧ collect members found rest = .ok found' := by
  rw [collect, bind_eq_ok_iff]
  simp only [Except.ok.injEq, exists_eq_left', hkey]
  rw [bind_eq_ok_iff]
  exact ⟨fun ⟨(), hskip, hrest⟩ => ⟨hskip, hrest⟩, fun ⟨hskip, hrest⟩ => ⟨(), hskip, hrest⟩⟩

theorem collect_named_eq_ok_iff (hkey : members.find? (fun m => m.key = key) = some m) :
    collect members found ((.ok key, t) :: rest) = .ok found' ↔
      key ∉ found.map Prod.fst ∧ m.check t = .ok () ∧
        collect members ((key, t) :: found) rest = .ok found' := by
  rw [collect, bind_eq_ok_iff, ← Found.Members.get?_eq_none_iff, ← Option.isNone_iff_eq_none]
  simp only [Except.ok.injEq, exists_eq_left', hkey]
  rw [check_eq_ok_iff, bind_eq_ok_iff, Bool.not_eq_true, Option.isSome_eq_false_iff]
  refine and_congr_right fun _ => ?_
  exact ⟨fun ⟨(), hcheck, hrest⟩ => ⟨hcheck, hrest⟩, fun ⟨hcheck, hrest⟩ => ⟨(), hcheck, hrest⟩⟩

end Entry

/-- What is found in an object with readable keys: the entries with the name of a member, none of
which may have the name of another one or of what was found before. -/
theorem collect_ofEntries_eq_ok_iff {entries : List (String × Tree)}
    (hfound : (found.map Prod.fst).Nodup) :
    collect members found (ofEntries entries) = .ok found' ↔
      (∀ e ∈ entries, Passes members e) ∧ (found'.map Prod.fst).Nodup ∧
        found' = (known members entries).reverse ++ found := by
  -- Each step puts a known entry in front of what was found, so this varies in the induction.
  induction entries generalizing found with
  | nil =>
      constructor
      · rintro ⟨⟩
        exact ⟨nofun, hfound, rfl⟩
      · rintro ⟨-, -, rfl⟩
        rfl
  | cons e entries ih =>
      obtain ⟨key, t⟩ := e
      rw [List.forall_mem_cons]
      cases hkey : members.find? (fun m => m.key = key) with
      | none =>
          rw [ofEntries, List.map_cons, collect_foreign_eq_ok_iff hkey, ← ofEntries, ih hfound,
            passes_foreign_iff hkey, known_cons_foreign hkey, and_assoc]
      | some m =>
          rw [ofEntries, List.map_cons, collect_named_eq_ok_iff hkey, ← ofEntries,
            passes_named_iff hkey, known_cons_named hkey, List.reverse_cons, List.append_assoc,
            List.singleton_append]
          constructor
          · rintro ⟨hnew, hcheck, hrest⟩
            have hfound' : (((key, t) :: found).map Prod.fst).Nodup :=
              List.nodup_cons.mpr ⟨hnew, hfound⟩
            obtain ⟨hpass, hkeys, heq⟩ := (ih hfound').mp hrest
            exact ⟨⟨hcheck, hpass⟩, hkeys, heq⟩
          · rintro ⟨⟨hcheck, hpass⟩, hkeys, rfl⟩
            have hfound' : (((key, t) :: found).map Prod.fst).Nodup :=
              hkeys.sublist ((List.sublist_append_right _ _).map _)
            exact ⟨(List.nodup_cons.mp hfound').1, hcheck, (ih hfound').mpr ⟨hpass, hkeys, rfl⟩⟩

/-- A key that cannot be read keeps an object from being read. -/
theorem exists_eq_ofEntries {ms : List (Except Fault String × Tree)}
    (h : collect members found ms = .ok found') : ∃ entries, ms = ofEntries entries := by
  induction ms generalizing found with
  | nil => exact ⟨[], rfl⟩
  | cons m ms ih =>
      obtain ⟨key, t⟩ := m
      cases key with
      | error f => cases h
      | ok key =>
          have hrest : ∃ before, collect members before ms = .ok found' := by
            cases hkey : members.find? (fun m => m.key = key) with
            | none => exact ⟨found, ((collect_foreign_eq_ok_iff hkey).mp h).2⟩
            | some m => exact ⟨_, ((collect_named_eq_ok_iff hkey).mp h).2.2⟩
          obtain ⟨before, hrest⟩ := hrest
          obtain ⟨entries, rfl⟩ := ih hrest
          exact ⟨(key, t) :: entries, rfl⟩

/-- Says that an object with the given entries holds a record: every entry passes, and no two have
the name of the same member. -/
structure Holds (members : List (Member Tree)) (entries : List (String × Tree)) : Prop where
  passes : ∀ e ∈ entries, Passes members e
  nodup : ((known members entries).map Prod.fst).Nodup

theorem orFault_eq_ok_iff {fault : Option Fault} {u : Unit} :
    orFault fault = .ok u ↔ fault = none := by
  cases fault <;> simp [orFault]

theorem objectFault_eq_none_iff : objectFault ending = none ↔ ending = .closed := by
  cases ending <;> simp [objectFault]

/-- The objects that are read as a record, and what is found in them. -/
theorem record_object_eq_ok_iff {name : String} {ms : List (Except Fault String × Tree)} :
    record name members (object ms ending) = .ok found ↔ ending = .closed ∧
      ∃ entries, ms = ofEntries entries ∧ Holds members entries ∧
        found = (known members entries).reverse := by
  have hempty : (([] : Found.Members Tree).map Prod.fst).Nodup := List.nodup_nil
  rw [record, bind_eq_ok_iff]
  constructor
  · rintro ⟨found', hcollect, hrest⟩
    obtain ⟨⟨⟩, hending, hrest⟩ := bind_eq_ok_iff.mp hrest
    obtain rfl := pure_eq_ok_iff.mp hrest
    obtain ⟨entries, rfl⟩ := exists_eq_ofEntries hcollect
    obtain ⟨hpass, hkeys, rfl⟩ := (collect_ofEntries_eq_ok_iff hempty).mp hcollect
    rw [List.append_nil] at hkeys ⊢
    rw [List.map_reverse, List.nodup_reverse] at hkeys
    exact ⟨objectFault_eq_none_iff.mp (orFault_eq_ok_iff.mp hending), entries, rfl,
      ⟨hpass, hkeys⟩, rfl⟩
  · rintro ⟨rfl, entries, rfl, ⟨hpass, hkeys⟩, rfl⟩
    refine ⟨(known members entries).reverse, (collect_ofEntries_eq_ok_iff hempty).mpr
      ⟨hpass, ?_, (List.append_nil _).symm⟩, rfl⟩
    rwa [List.map_reverse, List.nodup_reverse]

theorem listFault_eq_none_iff : listFault ending = none ↔ ending = .closed := by
  cases ending <;> simp [listFault]

theorem leftOver_eq_none_iff {left : List Tree} :
    leftOver left ending = none ↔ left = [] ∧ ending = .closed := by
  cases left <;> cases ending <;> simp [leftOver]

section Step
variable {wanted : String} {place : Nat} {m : Member Tree} {t : Tree} {items left : List Tree}

theorem take_lacking_eq_ok_iff :
    take wanted ending place (m :: members) [] = .ok (found, left) ↔
      (ending = .closed ∧ m.mayLack = true) ∧
        take wanted ending (place + 1) members [] = .ok (found, left) := by
  rw [take, bind_eq_ok_iff, and_assoc]
  simp only [orFault_eq_ok_iff, listFault_eq_none_iff, exists_and_left, exists_const]
  refine and_congr_right fun _ => ?_
  cases m.mayLack <;> simp [throw, throwThe, MonadExceptOf.throw]

theorem take_present_eq_ok_iff :
    take wanted ending place (m :: members) (t :: items) = .ok (found, left) ↔
      m.check t = .ok () ∧ ∃ found',
        take wanted ending (place + 1) members items = .ok (found', left) ∧
        (m.key, t) :: found' = found := by
  rw [take, bind_eq_ok_iff]
  simp only [bind_eq_ok_iff, pure_eq_ok_iff, Prod.exists, Prod.mk.injEq]
  constructor
  · rintro ⟨⟨⟩, hcheck, found', left', htake, rfl, rfl⟩
    exact ⟨hcheck, found', htake, rfl⟩
  · rintro ⟨hcheck, found', htake, rfl⟩
    exact ⟨(), hcheck, found', left, htake, rfl, rfl⟩

end Step

/-- What is taken from a list: the values that are there, under the names of the members. -/
theorem take_eq_ok_iff {wanted : String} {place : Nat} {items left : List Tree} :
    take wanted ending place members items = .ok (found, left) ↔
      (∀ p ∈ members.zip items, p.1.check p.2 = .ok ()) ∧
      (∀ m ∈ members.drop items.length, ending = .closed ∧ m.mayLack = true) ∧
      (members.zip items).map (fun p => (p.1.key, p.2)) = found ∧
      items.drop members.length = left := by
  induction members generalizing place items found with
  | nil => simp [take]
  | cons m members ih =>
      cases items with
      | nil =>
          rw [take_lacking_eq_ok_iff, ih]
          simp [and_assoc]
      | cons t items =>
          rw [take_present_eq_ok_iff]
          simp only [ih, List.zip_cons_cons, List.forall_mem_cons, List.length_cons,
            List.drop_succ_cons, List.map_cons]
          constructor
          · rintro ⟨hcheck, found', ⟨hchecks, hlack, rfl, hleft⟩, rfl⟩
            exact ⟨⟨hcheck, hchecks⟩, hlack, rfl, hleft⟩
          · rintro ⟨⟨hcheck, hchecks⟩, hlack, rfl, hleft⟩
            exact ⟨hcheck, _, ⟨hchecks, hlack, rfl, hleft⟩, rfl⟩

/-- The lists that are read as a record, and what is found in them. -/
theorem record_list_eq_ok_iff {name : String} {items : List Tree} :
    record name members (list items ending) = .ok found ↔ ending = .closed ∧
      items.length ≤ members.length ∧ (∀ m ∈ members.drop items.length, m.mayLack = true) ∧
      (∀ p ∈ members.zip items, p.1.check p.2 = .ok ()) ∧
      (members.zip items).map (fun p => (p.1.key, p.2)) = found := by
  rw [record, bind_eq_ok_iff]
  constructor
  · rintro ⟨⟨found', left⟩, htake, hrest⟩
    obtain ⟨⟨⟩, hleft, hrest⟩ := bind_eq_ok_iff.mp hrest
    obtain rfl := pure_eq_ok_iff.mp hrest
    obtain ⟨hcheck, hlack, rfl, rfl⟩ := take_eq_ok_iff.mp htake
    obtain ⟨hnone, rfl⟩ := leftOver_eq_none_iff.mp (orFault_eq_ok_iff.mp hleft)
    exact ⟨rfl, List.drop_eq_nil_iff.mp hnone, fun m hm => (hlack m hm).2, hcheck, rfl⟩
  · rintro ⟨rfl, hlength, hlack, hcheck, rfl⟩
    have hleft : items.drop members.length = [] := List.drop_eq_nil_iff.mpr hlength
    refine ⟨(_, _), take_eq_ok_iff.mpr ⟨hcheck, fun m hm => ⟨rfl, hlack m hm⟩, rfl, rfl⟩, ?_⟩
    rw [hleft]
    rfl

end Tree
end UnlockProof.Json

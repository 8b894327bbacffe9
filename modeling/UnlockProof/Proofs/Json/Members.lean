import Mathlib.Data.List.Basic
import UnlockProof.Json.Shape
import UnlockProof.Proofs.Outcome

/-!
# Members of objects

What stands under a key of an object is what was put there last; the other keys do not matter to it,
nor does the order of the members. A record that is read from an object depends on nothing but what
stands under the keys of its members, and a member that may be null is as good as absent if it is.
-/

namespace UnlockProof.Json
open Outcome

variable {key other : String} {v : Value} {ms ms' : List (String × Value)}

namespace Value

theorem member?_cons (m : String × Value) (ms : List (String × Value)) :
    member? key (m :: ms) = if m.1 = key then some m.2 else member? key ms := by
  rw [member?, List.find?_cons]
  by_cases hm : m.1 = key
  · simp [hm]
  · simp [hm, member?]

@[simp] theorem member?_put_self : member? key (put key v ms) = some v := by
  induction ms with
  | nil => rw [put, member?_cons, if_pos rfl]
  | cons m ms ih =>
      rw [put]
      split
      case isTrue => rw [member?_cons, if_pos rfl]
      case isFalse =>
        split
        case isTrue => rw [member?_cons, if_pos rfl]
        case isFalse hkey => rw [member?_cons, if_neg (Ne.symm hkey), ih]

theorem member?_put_of_ne (h : other ≠ key) : member? key (put other v ms) = member? key ms := by
  induction ms with
  | nil => rw [put, member?_cons, if_neg h]
  | cons m ms ih =>
      rw [put]
      split
      case isTrue => rw [member?_cons, if_neg h]
      case isFalse =>
        split
        case isTrue hother => rw [member?_cons, member?_cons, if_neg h, if_neg (hother ▸ h)]
        case isFalse => rw [member?_cons, member?_cons, ih]

/-- The members of an object without those under a key. -/
def without (key : String) (ms : List (String × Value)) : List (String × Value) :=
  ms.filter fun m => m.1 ≠ key

@[simp] theorem member?_without_self : member? key (without key ms) = none := by
  rw [member?, without, List.find?_filter]
  simp

theorem member?_without_of_ne (h : other ≠ key) :
    member? key (without other ms) = member? key ms := by
  induction ms with
  | nil => rfl
  | cons m ms ih =>
      rw [without] at ih ⊢
      by_cases hm : m.1 = other
      · rw [List.filter_cons_of_neg (by simp [hm]), ih, member?_cons, if_neg (hm ▸ h)]
      · rw [List.filter_cons_of_pos (by simp [hm]), member?_cons, member?_cons, ih]

theorem member?_foldl_put (h : key ∉ ms.map Prod.fst) (acc : List (String × Value)) :
    member? key (ms.foldl (fun acc m => put m.1 m.2 acc) acc) = member? key acc := by
  induction ms generalizing acc with
  | nil => rfl
  | cons m ms ih =>
      rw [List.map_cons, List.mem_cons, not_or] at h
      rw [List.foldl_cons, ih h.2, member?_put_of_ne (Ne.symm h.1)]

/-- Under keys that differ stands what was put there. -/
theorem member?_foldl_put_of_mem (hkeys : (ms.map Prod.fst).Nodup) (hmem : (key, v) ∈ ms)
    (acc : List (String × Value)) :
    member? key (ms.foldl (fun acc m => put m.1 m.2 acc) acc) = some v := by
  induction ms generalizing acc with
  | nil => cases hmem
  | cons m ms ih =>
      obtain ⟨hm, hkeys⟩ := List.nodup_cons.mp hkeys
      rw [List.foldl_cons]
      rcases List.mem_cons.mp hmem with rfl | hmem
      · rw [member?_foldl_put hm, member?_put_self]
      · exact ih hkeys hmem _

theorem keys_put_perm (h : key ∉ ms.map Prod.fst) :
    ((put key v ms).map Prod.fst).Perm (key :: ms.map Prod.fst) := by
  induction ms with
  | nil => exact .refl _
  | cons m ms ih =>
      rw [List.map_cons, List.mem_cons, not_or] at h
      rw [put]
      split
      case isTrue => exact .refl _
      case isFalse =>
        rw [if_neg h.1]
        exact ((ih h.2).cons m.1).trans (.swap _ _ _)

/-- An object has the keys of the members that it is made of, if these differ. -/
theorem keys_foldl_put_perm (hkeys : (ms.map Prod.fst).Nodup) (acc : List (String × Value))
    (hacc : ∀ m ∈ ms, m.1 ∉ acc.map Prod.fst) :
    ((ms.foldl (fun acc m => put m.1 m.2 acc) acc).map Prod.fst).Perm
      (ms.map Prod.fst ++ acc.map Prod.fst) := by
  induction ms generalizing acc with
  | nil => exact .refl _
  | cons m ms ih =>
      obtain ⟨hm, hkeys⟩ := List.nodup_cons.mp hkeys
      obtain ⟨hfirst, hacc⟩ := List.forall_mem_cons.mp hacc
      have hput := keys_put_perm (v := m.2) hfirst
      rw [List.foldl_cons]
      refine (ih hkeys _ ?_).trans ((hput.append_left _).trans List.perm_middle)
      intro n hn hmem
      rcases List.mem_cons.mp (hput.mem_iff.mp hmem) with heq | hmem
      · exact hm (heq ▸ List.mem_map_of_mem hn)
      · exact hacc n hn hmem

end Value

/-- Checks what stands under the key of a member. -/
def Member.checkIn (m : Member Value) (ms : List (String × Value)) : Except Fault Unit :=
  match Value.member? m.key ms with
  | some v => m.check v
  | none => .ok ()

/-- A member that may be null is as good as absent if it is null. -/
theorem Member.checkIn_of_nullable {m : Member Value} (hm : m.check .null = .ok ()) :
    m.checkIn ms = m.check ((Value.member? m.key ms).getD .null) := by
  rw [checkIn]
  cases Value.member? m.key ms with
  | none => exact hm.symm
  | some v => rfl

theorem Found.Members.orElse_of_nullable {α : Type} {read : Value → Except Fault (Option α)}
    (hread : read .null = .ok none) :
    Found.Members.orElse ms key read none = read ((Value.member? key ms).getD .null) := by
  have hget : Found.Members.get? ms key = Value.member? key ms := rfl
  rw [orElse, hget]
  cases Value.member? key ms with
  | none => exact hread.symm
  | some v => rfl

namespace Value

variable {members : List (Member Value)}

/-- The order in which members are checked does not matter to whether all of them pass. -/
theorem checkMembers_eq_ok_iff :
    checkMembers ms members = .ok () ↔ ∀ m ∈ members, m.checkIn ms = .ok () := by
  have hcheck : checkMembers ms members =
      (members.mergeSort fun a b => decide (a.key ≤ b.key)).forM fun m => m.checkIn ms := rfl
  rw [hcheck, forM_eq_ok_iff]
  simp only [List.mem_mergeSort]

/-- Objects that pass the same checks, one by one, fail in the same way. -/
theorem checkMembers_congr (h : ∀ m ∈ members, m.checkIn ms = m.checkIn ms') :
    checkMembers ms members = checkMembers ms' members :=
  forM_congr fun m hm => h m (List.mem_mergeSort.mp hm)

end Value
end UnlockProof.Json

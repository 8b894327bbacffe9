import Mathlib.Data.List.Basic
import Mathlib.Data.List.TakeWhile
import UnlockProof.Text.Basic

/-!
# Texts and the white space around them

White space at the ends of a text does not matter to what is left of it, a text is known from its
bytes, and a text of ASCII characters has one byte for each of them.
-/

namespace UnlockProof.Text

variable {cs before after : List Char} {b : UInt8} {c : Char}

/-- A text pads characters if it adds nothing but white space at their ends. -/
def Pads (s : String) (cs : List Char) : Prop :=
  ∃ before after, (∀ c ∈ before, isBlank c = true) ∧ (∀ c ∈ after, isBlank c = true) ∧
    s.toList = before ++ (cs ++ after)

/-- What stands between white space is left of a text. -/
theorem trimmed_append (hbefore : ∀ c ∈ before, isBlank c = true)
    (hafter : ∀ c ∈ after, isBlank c = true) (h : ∀ c ∈ cs, isBlank c = false) :
    trimmed (before ++ (cs ++ after)) = cs := by
  have hkeep {cs : List Char} (h : ∀ c ∈ cs, isBlank c = false) : cs.dropWhile isBlank = cs := by
    cases cs with
    | nil => rfl
    | cons c cs => simp [h c List.mem_cons_self]
  rw [trimmed, List.dropWhile_append_of_pos hbefore]
  cases cs with
  | nil =>
      rw [List.nil_append, List.dropWhile_eq_nil_iff.mpr hafter]
      rfl
  | cons c cs =>
      have hfront : (c :: cs ++ after).dropWhile isBlank = c :: cs ++ after := by
        simp [h c List.mem_cons_self]
      have hback : ∀ d ∈ after.reverse, isBlank d = true :=
        fun d hd => hafter d (List.mem_reverse.mp hd)
      have hmiddle : ∀ d ∈ (c :: cs).reverse, isBlank d = false :=
        fun d hd => h d (List.mem_reverse.mp hd)
      rw [hfront, List.reverse_append, List.dropWhile_append_of_pos hback, hkeep hmiddle,
        List.reverse_reverse]

theorem trimmed_of_forall (h : ∀ c ∈ cs, isBlank c = false) : trimmed cs = cs := by
  have htrimmed : trimmed ([] ++ (cs ++ [])) = cs := trimmed_append nofun nofun h
  rwa [List.append_nil, List.nil_append] at htrimmed

theorem Pads.trimmed {s : String} (hs : Pads s cs) (h : ∀ c ∈ cs, isBlank c = false) :
    trimmed s.toList = cs := by
  obtain ⟨before, after, hbefore, hafter, htext⟩ := hs
  rw [htext, trimmed_append hbefore hafter h]

theorem pads_ofList (cs : List Char) : Pads (String.ofList cs) cs :=
  ⟨[], [], nofun, nofun, by simp⟩

/-- A text pads what is left of it without the white space at its ends. -/
theorem pads_trimmed (s : String) : Pads s (trimmed s.toList) := by
  let rest := (s.toList.dropWhile isBlank).reverse
  have hrest : rest.takeWhile isBlank ++ rest.dropWhile isBlank = rest :=
    List.takeWhile_append_dropWhile
  refine ⟨s.toList.takeWhile isBlank, (rest.takeWhile isBlank).reverse, ?_, ?_, ?_⟩
  · intro c hc
    exact List.mem_takeWhile_imp hc
  · intro c hc
    exact List.mem_takeWhile_imp (List.mem_reverse.mp hc)
  · rw [trimmed, ← List.reverse_append, hrest, List.reverse_reverse,
      List.takeWhile_append_dropWhile]

/-- A text is known from its bytes. -/
theorem utf8_injective : Function.Injective utf8 := by
  intro cs ds h
  have hbytes : cs.utf8Encode = ds.utf8Encode := congrArg List.toByteArray h
  rw [← String.toByteArray_ofList, ← String.toByteArray_ofList, String.toByteArray_inj] at hbytes
  exact String.ofList_injective hbytes

/-- Characters of one byte each have these bytes in a row. -/
theorem utf8_map {α : Type} {char : α → Char} {byte : α → UInt8} {xs : List α}
    (h : ∀ x ∈ xs, String.utf8EncodeChar (char x) = [byte x]) :
    utf8 (xs.map char) = xs.map byte := by
  rw [utf8, List.flatMap_map, List.flatMap_congr h]
  exact List.flatMap_pure_eq_map byte xs

/-- The bytes of a text of ASCII characters are their numbers. -/
theorem utf8_map_latin1 {bs : Bytes} (h : ∀ b ∈ bs, String.utf8EncodeChar (latin1 b) = [b]) :
    utf8 (bs.map latin1) = bs := by
  rw [utf8_map h, List.map_id']

/-- The character with the number of a byte below 128 has this byte only. -/
theorem utf8EncodeChar_latin1 (hb : b.toNat < 128) : String.utf8EncodeChar (latin1 b) = [b] := by
  have hvalid : b.toNat.isValidChar := Or.inl (by omega)
  have hnumber : (latin1 b).val.toNat = b.toNat := by
    rw [latin1, Char.ofNat, dif_pos hvalid]
    rfl
  rw [String.utf8EncodeChar]
  simp only [hnumber]
  rw [if_pos (Nat.le_of_lt_succ hb), UInt8.ofNat_toNat]

/-- A text whose bytes are all below 128 has the characters with their numbers. -/
theorem eq_map_latin1_of_forall (h : ∀ b ∈ utf8 cs, b.toNat < 128) : cs = (utf8 cs).map latin1 :=
  utf8_injective (utf8_map_latin1 fun b hb => utf8EncodeChar_latin1 (h b hb)).symm

/-- A character has a byte below 128 only if it is the one with this number, as the bytes of all
others have their highest bit set. -/
theorem eq_latin1_of_mem_utf8EncodeChar (hmem : b ∈ String.utf8EncodeChar c) (hb : b.toNat < 128) :
    c = latin1 b := by
  by_cases hc : c.val.toNat ≤ 127
  · rw [String.utf8EncodeChar] at hmem
    simp only [if_pos hc, List.mem_singleton] at hmem
    have hbyte : (UInt8.ofNat c.val.toNat).toNat = c.val.toNat :=
      UInt8.toNat_ofNat_of_lt' (Nat.lt_of_le_of_lt hc (by decide))
    rw [hmem, latin1, hbyte]
    exact c.ofNat_toNat.symm
  · have hbit {m : Nat} (hm : m < 256) (h : 128 ≤ m) : 128 ≤ (UInt8.ofNat m).toNat := by
      rwa [UInt8.toNat_ofNat_of_lt' hm]
    have hhigh : ∀ b ∈ String.utf8EncodeChar c, 128 ≤ b.toNat := by
      rw [String.utf8EncodeChar]
      simp only [if_neg hc]
      split
      case isTrue =>
        simp only [List.forall_mem_cons]
        exact ⟨hbit (by omega) (by omega), hbit (by omega) (by omega), nofun⟩
      case isFalse =>
        split
        case isTrue =>
          simp only [List.forall_mem_cons]
          exact ⟨hbit (by omega) (by omega), hbit (by omega) (by omega),
            hbit (by omega) (by omega), nofun⟩
        case isFalse =>
          simp only [List.forall_mem_cons]
          exact ⟨hbit (by omega) (by omega), hbit (by omega) (by omega),
            hbit (by omega) (by omega), hbit (by omega) (by omega), nofun⟩
    exact absurd hb (Nat.not_lt.mpr (hhigh b hmem))

/-- To leave out a byte below 128 is to leave out the character with its number. -/
theorem filter_ne_utf8 (hb : b.toNat < 128) (cs : List Char) :
    (utf8 cs).filter (· ≠ b) = utf8 (cs.filter (· ≠ latin1 b)) := by
  induction cs with
  | nil => rfl
  | cons c cs ih =>
      have hcons (c : Char) (cs : List Char) :
          utf8 (c :: cs) = String.utf8EncodeChar c ++ utf8 cs := rfl
      rw [hcons, List.filter_append, ih]
      by_cases hc : c = latin1 b
      · rw [hc, utf8EncodeChar_latin1 hb]
        simp
      · have hother : ∀ d ∈ String.utf8EncodeChar c, d ≠ b := by
          rintro d hd rfl
          exact hc (eq_latin1_of_mem_utf8EncodeChar hd hb)
        have hkeep : (String.utf8EncodeChar c).filter (· ≠ b) = String.utf8EncodeChar c :=
          List.filter_eq_self.mpr fun d hd => decide_eq_true (hother d hd)
        have hchar : (c :: cs).filter (· ≠ latin1 b) = c :: cs.filter (· ≠ latin1 b) :=
          List.filter_cons_of_pos (decide_eq_true hc)
        rw [hkeep, hchar, hcons]

end UnlockProof.Text

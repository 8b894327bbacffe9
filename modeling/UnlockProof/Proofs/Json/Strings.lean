import Mathlib.Tactic.IntervalCases
import Mathlib.Tactic.SplitIfs
import UnlockProof.Json.Tree

/-!
# Strings between quotes

A string is read back from its text, whatever follows its closing quote, and it is skipped as far as
it is read. Each character stands for itself or behind a backslash, and the readers take it up as
one step.
-/

namespace UnlockProof.Json

variable {c : Char} {before cs rest more : List Char} {n : Nat}

/-- The ways to write a character inside a string. -/
inductive Escaped (c : Char) : List Char → Prop
  | self (hquote : c ≠ '"') (hslash : c ≠ '\\') (hcontrol : 0x20 ≤ c.toNat) : Escaped c [c]
  | letter {e : Char} (h : simpleEscape? e = some c) : Escaped c ['\\', e]
  | unit {ds : List Char} (hcontrol : c.toNat < 0x20) (h : hexUnit ds = .ok (c.toNat, [])) :
      Escaped c ('\\' :: 'u' :: ds)

/-- The four digits of a control character stand for it. -/
theorem hexUnit_control (hn : n < 0x20) :
    hexUnit (List.replicate (4 - (Text.hexDigits n).length) '0' ++ Text.hexDigits n) =
      .ok (n, []) := by
  interval_cases n <;> rfl

theorem escaped_escapeChar (c : Char) : Escaped c (Value.escapeChar c) := by
  rw [Value.escapeChar]
  split_ifs with hquote hslash hline hreturn htab hback hfeed hcontrol
  · exact .letter (by rw [hquote]; rfl)
  · exact .letter (by rw [hslash]; rfl)
  · exact .letter (by rw [hline]; rfl)
  · exact .letter (by rw [hreturn]; rfl)
  · exact .letter (by rw [htab]; rfl)
  · exact .letter (by rw [hback]; rfl)
  · exact .letter (by rw [hfeed]; rfl)
  · exact .unit hcontrol (hexUnit_control hcontrol)
  · exact .self hquote hslash (Nat.le_of_not_lt hcontrol)

theorem hexUnit_append (h : hexUnit cs = .ok (n, rest)) :
    hexUnit (cs ++ more) = .ok (n, rest ++ more) := by
  unfold hexUnit at h
  split at h
  case h_1 a b c d rest' =>
    simp only [List.cons_append, hexUnit]
    split at h
    case h_1 =>
      cases h
      rfl
    case h_2 => cases h
  case h_2 => cases h

section Escapes
variable {e : Char} {ds : List Char}

/-- The letter of numbered escapes stands for no character by itself. -/
theorem ne_of_simpleEscape? (h : simpleEscape? e = some c) : e ≠ 'u' := by
  rintro rfl
  cases h

theorem unescape_letter (h : simpleEscape? e = some c) :
    unescape (e :: rest) = .ok (c, rest) := by
  rw [unescape, h]
  exact ne_of_simpleEscape? h

theorem unescape_unit (hcontrol : c.toNat < 0x20) (h : hexUnit ds = .ok (c.toNat, [])) :
    unescape ('u' :: (ds ++ rest)) = .ok (c, rest) := by
  have hsecond : ¬ 0xdc00 ≤ c.toNat := by omega
  have hfirst : ¬ 0xd800 ≤ c.toNat := by omega
  rw [unescape, hexUnit_append h]
  simp [hsecond, hfirst, bind, Except.bind, pure, Except.pure]

theorem readString_backslash (h : unescape cs = .ok (c, rest)) :
    readString before ('\\' :: cs) = readString (c :: before) rest := by
  rw [readString]
  split
  case h_1 f hfault => cases h.symm.trans hfault
  case h_2 c' after hafter =>
    obtain ⟨rfl, rfl⟩ := Prod.mk.inj (Except.ok.inj (h.symm.trans hafter))
    rfl

theorem skipString_letter (h : simpleEscape? e = some c) :
    skipString ('\\' :: e :: rest) = skipString rest := by
  rw [skipString, h]
  · rfl
  · exact ne_of_simpleEscape? h

theorem skipString_unit (h : hexUnit ds = .ok (c.toNat, [])) :
    skipString ('\\' :: 'u' :: (ds ++ rest)) = skipString rest := by
  rw [skipString]
  split
  case h_1 f hfault => cases (hexUnit_append h).symm.trans hfault
  case h_2 n after hafter =>
    obtain ⟨-, rfl⟩ := Prod.mk.inj (Except.ok.inj ((hexUnit_append h).symm.trans hafter))
    rfl

end Escapes

theorem readString_escaped (h : Escaped c cs) :
    readString before (cs ++ rest) = readString (c :: before) rest := by
  cases h with
  | self hquote hslash hcontrol =>
      rw [List.singleton_append, readString, if_neg (Nat.not_lt_of_le hcontrol)]
      · exact hquote
      · exact hslash
  | letter hsimple => exact readString_backslash (unescape_letter hsimple)
  | unit hcontrol hdigits => exact readString_backslash (unescape_unit hcontrol hdigits)

theorem skipString_escaped (h : Escaped c cs) : skipString (cs ++ rest) = skipString rest := by
  cases h with
  | self hquote hslash hcontrol =>
      rw [List.singleton_append, skipString, if_neg (Nat.not_lt_of_le hcontrol)]
      all_goals simp [hquote, hslash]
  | letter hsimple => exact skipString_letter hsimple
  | unit hcontrol hdigits => exact skipString_unit hdigits

theorem readString_append (cs : List Char) :
    readString before (cs.flatMap Value.escapeChar ++ '"' :: rest) =
      .ok (String.ofList (before.reverse ++ cs), rest) := by
  induction cs generalizing before with
  | nil => simp [readString]
  | cons c cs ih =>
      rw [List.flatMap_cons, List.append_assoc, readString_escaped (escaped_escapeChar c), ih,
        List.reverse_cons, List.append_assoc, List.singleton_append]

theorem skipString_append (cs : List Char) :
    skipString (cs.flatMap Value.escapeChar ++ '"' :: rest) = .ok rest := by
  induction cs with
  | nil => simp [skipString]
  | cons c cs ih =>
      rw [List.flatMap_cons, List.append_assoc, skipString_escaped (escaped_escapeChar c), ih]

/-- A string is read back from its text behind the opening quote. -/
theorem scanString_append (s : String) :
    scanString (s.toList.flatMap Value.escapeChar ++ '"' :: rest) = .ok (.ok s, rest) := by
  rw [scanString, skipString_append, readString_append, List.reverse_nil, List.nil_append,
    String.ofList_toList]
  rfl

end UnlockProof.Json

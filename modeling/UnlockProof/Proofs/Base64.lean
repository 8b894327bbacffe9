import UnlockProof.Base64
import UnlockProof.Proofs.Outcome

/-!
# Written Base64

What is written as Base64 is read back. Each group of symbols spells the bytes that it was made
of, and the filling of the last group is complete.
-/

namespace UnlockProof.Base64
open Outcome

theorem value?_symbol : ∀ n < 64, value? (symbol n) = some n := by decide

theorem symbol_ne_filling : ∀ n < 64, symbol n ≠ filling := by decide

theorem readSymbol_symbol (offset : Nat) {n : Nat} (h : n < 64) :
    readSymbol offset (symbol n) = .ok n := by
  rw [readSymbol, value?_symbol n h]

theorem lastSymbols_symbol (offset place : Nat) {n : Nat} (h : n < 64) (rest : Bytes) :
    lastSymbols offset place (symbol n :: rest) =
      (lastSymbols offset (place + 1) rest).map (n :: ·) := by
  rw [lastSymbols, if_neg (symbol_ne_filling n h), readSymbol_symbol _ h]
  cases lastSymbols offset (place + 1) rest with
  | error f => rfl
  | ok symbols => rfl

theorem lastSymbols_filling (offset : Nat) {place : Nat} (h : 2 ≤ place) {rest : Bytes}
    (hrest : rest.all (· == filling)) : lastSymbols offset place (filling :: rest) = .ok [] := by
  rw [lastSymbols, if_pos rfl, if_neg (Nat.not_lt_of_le h), if_pos hrest]

theorem encode_ne_nil {bs : Bytes} (h : bs ≠ []) : encode bs ≠ [] := by
  match bs with
  | [a] => simp [encode]
  | [a, b] => simp [encode]
  | a :: b :: c :: rest => simp [encode]

theorem ofNat_eq_of_toNat_eq {n : Nat} {b : UInt8} (h : n = b.toNat) : UInt8.ofNat n = b := by
  rw [h, UInt8.ofNat_toNat]

/-- The symbols of three bytes spell them. -/
theorem bytesOfGroup_encode (a b c : UInt8) :
    bytesOfGroup (a.toNat / 4) (a.toNat % 4 * 16 + b.toNat / 16) (b.toNat % 16 * 4 + c.toNat / 64)
      (c.toNat % 64) = [a, b, c] := by
  have ha := a.toNat_lt
  have hb := b.toNat_lt
  have hc := c.toNat_lt
  have hfirst : a.toNat / 4 * 4 + (a.toNat % 4 * 16 + b.toNat / 16) / 16 = a.toNat := by omega
  have hsecond : (a.toNat % 4 * 16 + b.toNat / 16) % 16 * 16 +
      (b.toNat % 16 * 4 + c.toNat / 64) / 4 = b.toNat := by omega
  have hthird : (b.toNat % 16 * 4 + c.toNat / 64) % 4 * 64 + c.toNat % 64 = c.toNat := by omega
  rw [bytesOfGroup, ofNat_eq_of_toNat_eq hfirst, ofNat_eq_of_toNat_eq hsecond,
    ofNat_eq_of_toNat_eq hthird]

/-- What stands for three bytes are numbers of six bits. -/
theorem group_lt (a b c : UInt8) :
    a.toNat / 4 < 64 ∧ a.toNat % 4 * 16 + b.toNat / 16 < 64 ∧
      b.toNat % 16 * 4 + c.toNat / 64 < 64 ∧ c.toNat % 64 < 64 := by
  have ha := a.toNat_lt
  have hb := b.toNat_lt
  have hc := c.toNat_lt
  omega

theorem decodeLast_two {offset a b : Nat} {group : Bytes}
    (hsymbols : lastSymbols offset 0 group = .ok [a, b]) (hlen : group.length = 4)
    (hunused : b % 16 = 0) : decodeLast offset group = .ok [UInt8.ofNat (a * 4 + b / 16)] := by
  rw [decodeLast, hsymbols]
  simp only [bind, Except.bind, hlen, hunused, ne_eq, not_true, if_false, if_true]

theorem decodeLast_three {offset a b c : Nat} {group : Bytes}
    (hsymbols : lastSymbols offset 0 group = .ok [a, b, c]) (hlen : group.length = 4)
    (hunused : c % 4 = 0) : decodeLast offset group =
      .ok [UInt8.ofNat (a * 4 + b / 16), UInt8.ofNat (b % 16 * 16 + c / 4)] := by
  rw [decodeLast, hsymbols]
  simp only [bind, Except.bind, hlen, hunused, ne_eq, not_true, if_false, if_true]

theorem decodeLast_encode_one (offset : Nat) (a : UInt8) :
    decodeLast offset (encode [a]) = .ok [a] := by
  have ha := a.toNat_lt
  have h₁ : a.toNat / 4 < 64 := by omega
  have h₂ : a.toNat % 4 * 16 < 64 := by omega
  have hsymbols : lastSymbols offset 0 (encode [a]) =
      .ok [a.toNat / 4, a.toNat % 4 * 16] := by
    rw [encode, lastSymbols_symbol _ _ h₁, lastSymbols_symbol _ _ h₂,
      lastSymbols_filling _ (Nat.le_refl 2) rfl]
    rfl
  have hbyte : a.toNat / 4 * 4 + a.toNat % 4 * 16 / 16 = a.toNat := by omega
  rw [decodeLast_two hsymbols rfl (by omega), ofNat_eq_of_toNat_eq hbyte]

theorem decodeLast_encode_two (offset : Nat) (a b : UInt8) :
    decodeLast offset (encode [a, b]) = .ok [a, b] := by
  have ha := a.toNat_lt
  have hb := b.toNat_lt
  have h₁ : a.toNat / 4 < 64 := by omega
  have h₂ : a.toNat % 4 * 16 + b.toNat / 16 < 64 := by omega
  have h₃ : b.toNat % 16 * 4 < 64 := by omega
  have hsymbols : lastSymbols offset 0 (encode [a, b]) =
      .ok [a.toNat / 4, a.toNat % 4 * 16 + b.toNat / 16, b.toNat % 16 * 4] := by
    rw [encode, lastSymbols_symbol _ _ h₁, lastSymbols_symbol _ _ h₂, lastSymbols_symbol _ _ h₃,
      lastSymbols_filling _ (by decide) rfl]
    rfl
  have hfirst : a.toNat / 4 * 4 + (a.toNat % 4 * 16 + b.toNat / 16) / 16 = a.toNat := by omega
  have hsecond : (a.toNat % 4 * 16 + b.toNat / 16) % 16 * 16 + b.toNat % 16 * 4 / 4 = b.toNat := by
    omega
  rw [decodeLast_three hsymbols rfl (by omega), ofNat_eq_of_toNat_eq hfirst,
    ofNat_eq_of_toNat_eq hsecond]

theorem decodeLast_encode_three (offset : Nat) (a b c : UInt8) :
    decodeLast offset (encode [a, b, c]) = .ok [a, b, c] := by
  obtain ⟨h₁, h₂, h₃, h₄⟩ := group_lt a b c
  have hsymbols : lastSymbols offset 0 (encode [a, b, c]) =
      .ok [a.toNat / 4, a.toNat % 4 * 16 + b.toNat / 16, b.toNat % 16 * 4 + c.toNat / 64,
        c.toNat % 64] := by
    rw [encode, encode, lastSymbols_symbol _ _ h₁, lastSymbols_symbol _ _ h₂,
      lastSymbols_symbol _ _ h₃, lastSymbols_symbol _ _ h₄]
    rfl
  rw [decodeLast, hsymbols]
  exact congrArg Except.ok (bytesOfGroup_encode a b c)

theorem decodeGroups_of_length_le {offset : Nat} {last : Bytes} (h : last.length ≤ 4) :
    decodeGroups offset last = decodeLast offset last := by
  rw [decodeGroups]
  rintro a b c d e rest rfl
  simp only [List.length_cons] at h
  omega

/-- A full group that is not the last is read on its own. -/
theorem decodeGroups_encode_cons (offset : Nat) (a b c : UInt8) {rest : Bytes}
    (hrest : rest ≠ []) : decodeGroups offset (encode (a :: b :: c :: rest)) =
      (decodeGroups (offset + 4) (encode rest)).map ([a, b, c] ++ ·) := by
  obtain ⟨h₁, h₂, h₃, h₄⟩ := group_lt a b c
  obtain ⟨first, more, hmore⟩ := List.exists_cons_of_ne_nil (encode_ne_nil hrest)
  rw [encode, hmore, decodeGroups, readSymbol_symbol _ h₁, readSymbol_symbol _ h₂,
    readSymbol_symbol _ h₃, readSymbol_symbol _ h₄]
  simp only [bind, Except.bind, bytesOfGroup_encode]
  cases decodeGroups (offset + 4) (first :: more) with
  | error f => rfl
  | ok bytes => rfl

/-- Written bytes are symbols and filling. -/
theorem of_mem_encode {p : UInt8 → Prop} (hsymbol : ∀ n < 64, p (symbol n)) (hfilling : p filling)
    (bs : Bytes) : ∀ b ∈ encode bs, p b := by
  induction bs using encode.induct with
  | case1 => nofun
  | case2 a =>
      have ha := a.toNat_lt
      simp only [encode, List.forall_mem_cons]
      exact ⟨hsymbol _ (by omega), hsymbol _ (by omega), hfilling, hfilling, nofun⟩
  | case3 a b =>
      have ha := a.toNat_lt
      have hb := b.toNat_lt
      simp only [encode, List.forall_mem_cons]
      exact ⟨hsymbol _ (by omega), hsymbol _ (by omega), hsymbol _ (by omega), hfilling, nofun⟩
  | case4 a b c rest ih =>
      obtain ⟨h₁, h₂, h₃, h₄⟩ := group_lt a b c
      simp only [encode, List.forall_mem_cons]
      exact ⟨hsymbol _ h₁, hsymbol _ h₂, hsymbol _ h₃, hsymbol _ h₄, ih⟩

theorem length_encode_mod (bs : Bytes) : (encode bs).length % 4 = 0 := by
  induction bs using encode.induct with
  | case1 => rfl
  | case2 a => simp [encode]
  | case3 a b => simp [encode]
  | case4 a b c rest ih =>
      rw [encode]
      simp only [List.length_cons]
      omega

theorem decodeGroups_encode (offset : Nat) (bs : Bytes) :
    decodeGroups offset (encode bs) = .ok bs := by
  induction bs using encode.induct generalizing offset with
  | case1 => exact decodeGroups_of_length_le (Nat.zero_le 4)
  | case2 a =>
      rw [decodeGroups_of_length_le (by rw [encode]; simp)]
      exact decodeLast_encode_one offset a
  | case3 a b =>
      rw [decodeGroups_of_length_le (by rw [encode]; simp)]
      exact decodeLast_encode_two offset a b
  | case4 a b c rest ih =>
      by_cases hrest : rest = []
      · rw [hrest, decodeGroups_of_length_le (by rw [encode, encode]; simp)]
        exact decodeLast_encode_three offset a b c
      · rw [decodeGroups_encode_cons offset a b c hrest, ih (offset + 4)]
        rfl

/-- What is written is read back. -/
theorem decode_encode (bs : Bytes) : decode (encode bs) = .ok bs := by
  have hlen := length_encode_mod bs
  rw [decode]
  cases hlast : (encode bs).getLast? with
  | none =>
      have hnil : encode bs = [] := List.getLast?_eq_none_iff.mp hlast
      by_cases hbs : bs = []
      · rw [hbs]
      · exact absurd hnil (encode_ne_nil hbs)
  | some last =>
      have hwhole : ¬ ((encode bs).length % 4 = 1 ∧ last ≠ filling ∧ (value? last).isNone) := by
        rw [hlen]
        simp
      simp only [if_neg hwhole]
      exact decodeGroups_encode 0 bs

end UnlockProof.Base64

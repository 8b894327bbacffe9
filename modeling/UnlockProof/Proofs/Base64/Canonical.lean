import UnlockProof.Proofs.Base64

/-!
# The one Base64 text of a byte string

Only what is written is read. Every symbol has one number, the filling of the last group has to be
complete, and as the unused bits of the last symbol are zero they leave no choice either.
-/

namespace UnlockProof.Base64
open Outcome

variable {text group bs : Bytes} {offset place : Nat}

set_option maxRecDepth 4096 in
theorem eq_symbol_of_value?_ofNat :
    ∀ m < 256, ∀ n ∈ value? (UInt8.ofNat m), n < 64 ∧ UInt8.ofNat m = symbol n := by decide

theorem eq_symbol_of_value? {b : UInt8} {n : Nat} (h : value? b = some n) :
    n < 64 ∧ b = symbol n := by
  have hb := eq_symbol_of_value?_ofNat b.toNat b.toNat_lt n
  rw [UInt8.ofNat_toNat] at hb
  exact hb h

theorem eq_symbol_of_readSymbol {b : UInt8} {n : Nat} (h : readSymbol offset b = .ok n) :
    n < 64 ∧ b = symbol n := by
  rw [readSymbol] at h
  cases hvalue : value? b with
  | none =>
      rw [hvalue] at h
      cases h
  | some m =>
      rw [hvalue] at h
      cases h
      exact eq_symbol_of_value? hvalue

/-- A last group consists of symbols and of filling behind at least two of them. -/
theorem exists_filling_of_lastSymbols {ns : List Nat}
    (h : lastSymbols offset place group = .ok ns) :
    ∃ k, group = ns.map symbol ++ List.replicate k filling ∧ (0 < k → 2 ≤ place + ns.length) ∧
      ∀ n ∈ ns, n < 64 := by
  induction group generalizing place ns with
  | nil =>
      cases h
      exact ⟨0, rfl, nofun, nofun⟩
  | cons b rest ih =>
      rw [lastSymbols] at h
      split at h
      case isTrue hfilling =>
        split at h
        case isTrue => cases h
        case isFalse hplace =>
          split at h
          case isTrue hrest =>
            cases h
            have hall : ∀ c ∈ rest, c = filling := by simpa using hrest
            refine ⟨rest.length + 1, ?_, fun _ => Nat.le_of_not_lt hplace, nofun⟩
            rw [hfilling, List.replicate_succ, ← List.eq_replicate_of_mem hall]
            rfl
          case isFalse => cases h
      case isFalse =>
        simp only [bind_eq_ok_iff, pure_eq_ok_iff] at h
        obtain ⟨n, hn, more, hmore, rfl⟩ := h
        obtain ⟨hlt, rfl⟩ := eq_symbol_of_readSymbol hn
        obtain ⟨k, rfl, hplace, hmore⟩ := ih hmore
        refine ⟨k, rfl, ?_, List.forall_mem_cons.mpr ⟨hlt, hmore⟩⟩
        intro hk
        have := hplace hk
        rw [List.length_cons]
        omega

theorem encode_bytesOfGroup {a b c d : Nat} (ha : a < 64) (hb : b < 64) (hc : c < 64)
    (hd : d < 64) (rest : Bytes) : encode (bytesOfGroup a b c d ++ rest) =
      symbol a :: symbol b :: symbol c :: symbol d :: encode rest := by
  have hx : (UInt8.ofNat (a * 4 + b / 16)).toNat = a * 4 + b / 16 :=
    UInt8.toNat_ofNat_of_lt' (show _ < 256 by omega)
  have hy : (UInt8.ofNat (b % 16 * 16 + c / 4)).toNat = b % 16 * 16 + c / 4 :=
    UInt8.toNat_ofNat_of_lt' (show _ < 256 by omega)
  have hz : (UInt8.ofNat (c % 4 * 64 + d)).toNat = c % 4 * 64 + d :=
    UInt8.toNat_ofNat_of_lt' (show _ < 256 by omega)
  have h₁ : (a * 4 + b / 16) / 4 = a := by omega
  have h₂ : (a * 4 + b / 16) % 4 * 16 + (b % 16 * 16 + c / 4) / 16 = b := by omega
  have h₃ : (b % 16 * 16 + c / 4) % 16 * 4 + (c % 4 * 64 + d) / 64 = c := by omega
  have h₄ : (c % 4 * 64 + d) % 64 = d := by omega
  rw [bytesOfGroup, List.cons_append, List.cons_append, List.cons_append, List.nil_append, encode,
    hx, hy, hz, h₁, h₂, h₃, h₄]

theorem encode_one {a b : Nat} (ha : a < 64) (hb : b < 64) (hunused : b % 16 = 0) :
    encode [UInt8.ofNat (a * 4 + b / 16)] = [symbol a, symbol b, filling, filling] := by
  have hx : (UInt8.ofNat (a * 4 + b / 16)).toNat = a * 4 + b / 16 :=
    UInt8.toNat_ofNat_of_lt' (show _ < 256 by omega)
  have h₁ : (a * 4 + b / 16) / 4 = a := by omega
  have h₂ : (a * 4 + b / 16) % 4 * 16 = b := by omega
  rw [encode, hx, h₁, h₂]

theorem encode_two {a b c : Nat} (ha : a < 64) (hb : b < 64) (hc : c < 64) (hunused : c % 4 = 0) :
    encode [UInt8.ofNat (a * 4 + b / 16), UInt8.ofNat (b % 16 * 16 + c / 4)] =
      [symbol a, symbol b, symbol c, filling] := by
  have hx : (UInt8.ofNat (a * 4 + b / 16)).toNat = a * 4 + b / 16 :=
    UInt8.toNat_ofNat_of_lt' (show _ < 256 by omega)
  have hy : (UInt8.ofNat (b % 16 * 16 + c / 4)).toNat = b % 16 * 16 + c / 4 :=
    UInt8.toNat_ofNat_of_lt' (show _ < 256 by omega)
  have h₁ : (a * 4 + b / 16) / 4 = a := by omega
  have h₂ : (a * 4 + b / 16) % 4 * 16 + (b % 16 * 16 + c / 4) / 16 = b := by omega
  have h₃ : (b % 16 * 16 + c / 4) % 16 * 4 = c := by omega
  rw [encode, hx, hy, h₁, h₂, h₃]

/-- A last group is read only if it is written so. -/
theorem eq_encode_of_decodeLast (hlen : group.length ≤ 4) (h : decodeLast offset group = .ok bs) :
    group = encode bs := by
  rw [decodeLast, bind_eq_ok_iff] at h
  obtain ⟨ns, hns, h⟩ := h
  obtain ⟨k, rfl, hplace, hlt⟩ := exists_filling_of_lastSymbols hns
  rw [List.length_append, List.length_map, List.length_replicate] at hlen
  simp only [List.length_append, List.length_map, List.length_replicate] at h
  obtain _ | ⟨a, _ | ⟨b, _ | ⟨c, _ | ⟨d, more⟩⟩⟩⟩ := ns
  case nil =>
      cases h
      have hnone : ¬ 0 < k := fun hpos => absurd (hplace hpos) (by decide)
      have hk : k = 0 := by omega
      subst hk
      rfl
  case cons.nil => cases h
  case cons.cons.nil =>
      simp only [List.forall_mem_cons] at hlt
      simp only [check_eq_ok_iff, List.length_cons, List.length_nil] at h
      obtain ⟨hfour, h⟩ := h
      split at h
      case isTrue hunused =>
        cases h
        have hk : k = 2 := by omega
        subst hk
        exact (encode_one hlt.1 hlt.2.1 hunused).symm
      case isFalse => cases h
  case cons.cons.cons.nil =>
      simp only [List.forall_mem_cons] at hlt
      simp only [check_eq_ok_iff, List.length_cons, List.length_nil] at h
      obtain ⟨hfour, h⟩ := h
      split at h
      case isTrue hunused =>
        cases h
        have hk : k = 1 := by omega
        subst hk
        exact (encode_two hlt.1 hlt.2.1 hlt.2.2.1 hunused).symm
      case isFalse => cases h
  case cons.cons.cons.cons =>
      cases h
      simp only [List.length_cons] at hlen
      have hmore : more = [] := List.length_eq_zero_iff.mp (by omega)
      have hk : k = 0 := by omega
      subst hmore hk
      simp only [List.forall_mem_cons] at hlt
      have hgroup := encode_bytesOfGroup hlt.1 hlt.2.1 hlt.2.2.1 hlt.2.2.2.1 []
      rw [List.append_nil] at hgroup
      exact hgroup.symm

theorem eq_encode_of_decodeGroups (h : decodeGroups offset text = .ok bs) : text = encode bs := by
  induction offset, text using decodeGroups.induct generalizing bs with
  | case1 offset a b c d e rest ih =>
      rw [decodeGroups] at h
      simp only [bind_eq_ok_iff, pure_eq_ok_iff] at h
      obtain ⟨w, hw, x, hx, y, hy, z, hz, more, hmore, rfl⟩ := h
      obtain ⟨hlt₁, rfl⟩ := eq_symbol_of_readSymbol hw
      obtain ⟨hlt₂, rfl⟩ := eq_symbol_of_readSymbol hx
      obtain ⟨hlt₃, rfl⟩ := eq_symbol_of_readSymbol hy
      obtain ⟨hlt₄, rfl⟩ := eq_symbol_of_readSymbol hz
      rw [encode_bytesOfGroup hlt₁ hlt₂ hlt₃ hlt₄, ← ih hmore]
  | case2 offset last hlast =>
      have hlen : last.length ≤ 4 := by
        apply Nat.le_of_not_lt
        intro hlong
        obtain _ | ⟨a, _ | ⟨b, _ | ⟨c, _ | ⟨d, _ | ⟨e, rest⟩⟩⟩⟩⟩ := last
        case cons.cons.cons.cons.cons => exact hlast a b c d e rest rfl
        all_goals simp at hlong
      rw [decodeGroups_of_length_le hlen] at h
      exact eq_encode_of_decodeLast hlen h

/-- A text is read exactly if it is what is written of what comes out. -/
theorem decode_eq_ok_iff : decode text = .ok bs ↔ text = encode bs := by
  constructor
  · intro h
    rw [decode] at h
    split at h
    case h_1 hnone =>
      cases h
      exact List.getLast?_eq_none_iff.mp hnone
    case h_2 =>
      split at h
      case isTrue => cases h
      case isFalse => exact eq_encode_of_decodeGroups h
  · rintro rfl
    exact decode_encode bs

end UnlockProof.Base64

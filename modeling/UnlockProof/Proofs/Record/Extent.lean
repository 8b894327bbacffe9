import UnlockProof.Proofs.Record.Transport

/-!
# Where schema bytes end

The schema bytes of a record tell where they end. Cut short at any place they end early, and with
anything behind them they go on. So no part of them is taken for a smaller record, wherever the cut
falls, and no schema bytes begin with those of another record.

## Implementation notes

A cut is not looked for place by place. What is read from a part of some bytes is read from all of
them as well, with the rest of the bytes left over. If the part were the bytes of a record, or more
than these, the whole would go on behind them.
-/

namespace UnlockProof.Record
open Outcome

variable {bs part more : Bytes} {r : Record}

/-- A reader of a part never complains that the bytes go on. -/
theorem failsOnly_readLength (bs : Bytes) : FailsOnly (· = .endsEarly) (readLength bs) := by
  rw [readLength.eq_def]
  split
  · exact failsOnly_ok
  · exact failsOnly_error_iff.mpr rfl

theorem failsOnly_readBytes (bs : Bytes) : FailsOnly (· = .endsEarly) (readBytes bs) := by
  refine failsOnly_bind_iff.mpr ⟨failsOnly_readLength bs, ?_⟩
  rintro ⟨n, rest⟩ -
  simp only
  split
  · exact failsOnly_throw_iff.mpr rfl
  · exact failsOnly_pure

theorem failsOnly_readEntries (n : Nat) (bs : Bytes) :
    FailsOnly (· = .endsEarly) (readEntries n bs) := by
  induction n generalizing bs with
  | zero => exact failsOnly_ok
  | succ n ih =>
      simp only [readEntries, failsOnly_bind_iff, failsOnly_readBytes, ih, failsOnly_pure,
        implies_true, and_self]

theorem failsOnly_readNodes (bs : Bytes) : FailsOnly (· = .endsEarly) (readNodes bs) :=
  failsOnly_bind_iff.mpr ⟨failsOnly_readLength bs, fun _ _ => failsOnly_readEntries _ _⟩

/-- Bytes go on exactly if they begin with those of a record and do not end there. -/
theorem ofSchema_eq_goesOn_iff :
    ofSchema bs = .error .goesOn ↔
      ∃ (r : Record) (front more : Bytes),
        r.toSchema? = some front ∧ more ≠ [] ∧ bs = front ++ more := by
  have hbytes (bs : Bytes) : readBytes bs ≠ .error .goesOn := fun h =>
    Fault.noConfusion (failsOnly_readBytes bs _ h)
  have hnodes (bs : Bytes) : readNodes bs ≠ .error .goesOn := fun h =>
    Fault.noConfusion (failsOnly_readNodes bs _ h)
  simp only [ofSchema, bind_eq_error_iff, check_eq_error_iff, hbytes, hnodes, pure_ne_error,
    false_or, and_false, or_false, and_true, Prod.exists, readBytes_eq_ok_iff, readNodes_eq_ok_iff,
    toSchema?_eq_some_iff, isRepresentable_iff]
  constructor
  · rintro ⟨header, _, ⟨hheader, rfl⟩, account, _, ⟨haccount, rfl⟩, data, _, ⟨hdata, rfl⟩, storage,
      more, ⟨hstorage, rfl⟩, hmore⟩
    refine ⟨⟨header, account, data, storage⟩, _, more,
      ⟨⟨hheader, haccount, hdata, hstorage⟩, rfl⟩, hmore, ?_⟩
    simp only [List.append_assoc, List.nil_append]
  · rintro ⟨⟨header, account, data, storage⟩, _, more,
      ⟨⟨hheader, haccount, hdata, hstorage⟩, rfl⟩, hmore, rfl⟩
    refine ⟨header, _, ⟨hheader, ?_⟩, account, _, ⟨haccount, rfl⟩, data, _, ⟨hdata, rfl⟩, storage,
      more, ⟨hstorage, rfl⟩, hmore⟩
    simp only [List.append_assoc, List.nil_append]

/-- With anything behind them the bytes of a record go on. -/
theorem ofSchema_append (h : r.toSchema? = some bs) (hmore : more ≠ []) :
    ofSchema (bs ++ more) = .error .goesOn :=
  ofSchema_eq_goesOn_iff.mpr ⟨r, bs, more, h, hmore, rfl⟩

/-- Cut short anywhere the bytes of a record end early. -/
theorem ofSchema_of_append (h : r.toSchema? = some (part ++ more)) (hmore : more ≠ []) :
    ofSchema part = .error .endsEarly := by
  have hwhole : ofSchema (part ++ more) = .ok r := ofSchema_eq_ok_iff.mpr h
  -- If the part were read or went on, the whole would go on too, but the whole is read.
  cases hread : ofSchema part with
  | ok r' =>
      have hgoesOn := ofSchema_append (ofSchema_eq_ok_iff.mp hread) hmore
      rw [hwhole] at hgoesOn
      cases hgoesOn
  | error fault =>
      cases fault with
      | endsEarly => rfl
      | goesOn =>
          obtain ⟨r', front, rest, hfront, hrest, rfl⟩ := ofSchema_eq_goesOn_iff.mp hread
          have hgoesOn : ofSchema (front ++ (rest ++ more)) = .error .goesOn :=
            ofSchema_append hfront (List.append_ne_nil_of_left_ne_nil hrest more)
          rw [← List.append_assoc, hwhole] at hgoesOn
          cases hgoesOn

/-- The bytes of no record begin with those of another. -/
theorem eq_of_toSchema?_isPrefix {r' : Record} {bs' : Bytes} (h : r.toSchema? = some bs)
    (h' : r'.toSchema? = some bs') (hfront : bs <+: bs') : bs' = bs ∧ r' = r := by
  obtain ⟨more, rfl⟩ := hfront
  have hmore : more = [] := by
    by_contra hmore
    have hcut := ofSchema_of_append h' hmore
    rw [ofSchema_eq_ok_iff.mpr h] at hcut
    cases hcut
  rw [hmore, List.append_nil] at h' ⊢
  have hread := ofSchema_eq_ok_iff.mpr h'
  rw [ofSchema_eq_ok_iff.mpr h] at hread
  exact ⟨rfl, (Except.ok.inj hread).symm⟩

/-- Schema bytes tell where they end. They are read as their record. Every part that they begin
with, the whole apart, ends early, and with anything behind them they go on, so in both cases they
do not fit the schema. No schema bytes begin with those of another record. -/
theorem schema_tells_its_end (h : r.toSchema? = some bs) :
    ofSchemaOrFail bs = .ok r ∧
      (∀ part, part <+: bs → part ≠ bs →
        ofSchemaOrFail part = .error (.schema (.reading .endsEarly))) ∧
      (∀ more, more ≠ [] → ofSchemaOrFail (bs ++ more) = .error (.schema (.reading .goesOn))) ∧
      ∀ (r' : Record) bs', r'.toSchema? = some bs' → bs <+: bs' → bs' = bs ∧ r' = r := by
  refine ⟨?_, ?_, ?_, ?_⟩
  · rw [ofSchemaOrFail, ofSchema_eq_ok_iff.mpr h, mapError_ok]
  · rintro part ⟨more, rfl⟩ hpart
    have hmore : more ≠ [] := by
      rintro rfl
      exact hpart (List.append_nil part).symm
    rw [ofSchemaOrFail, ofSchema_of_append h hmore, mapError_error]
  · intro more hmore
    rw [ofSchemaOrFail, ofSchema_append h hmore, mapError_error]
  · intro r' bs' h' hfront
    exact eq_of_toSchema?_isPrefix h h' hfront

/-- The schema bytes of the record with empty parts. -/
def sparseSchema : Bytes :=
  [2, 0, 0, 0, 0xaa, 0xbb, 2, 0, 0, 0, 0, 0, 0, 0, 2, 0, 0, 0, 2, 3, 0, 0, 0, 0, 0, 0, 0, 0]

/-- The record with empty parts, cut between its two nodes and with an empty list behind it. -/
theorem schema_tells_its_end_sparse :
    sparse.toSchema? = some sparseSchema ∧
      ofSchemaOrFail (sparseSchema.take 14) = .error (.schema (.reading .endsEarly)) ∧
      ofSchemaOrFail (sparseSchema ++ [0, 0, 0, 0]) = .error (.schema (.reading .goesOn)) := by
  have hschema : sparse.toSchema? = some sparseSchema := by decide
  obtain ⟨-, hcut, hmore, -⟩ := schema_tells_its_end hschema
  exact ⟨hschema, hcut _ (List.take_prefix 14 sparseSchema) (by decide), hmore _ (by decide)⟩

end UnlockProof.Record

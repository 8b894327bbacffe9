import UnlockProof.Trie.Walk

/-!
# Descents

A descent is a walk that has come to its end, with exactly the nodes that it took from the list.
A walk answers if and only if the nodes in front of its list make a descent to that answer. Two
descents from one node along one path are the same unless they take different nodes of one hash.

## Implementation notes

A descent forgets the counters of the walk, which only place a fault. An embedded child takes no
node, so the nodes of a descent are as few as the hashes that it follows.
-/

namespace UnlockProof.Trie

/-- Where a node leads along a path, if it is a node at all. -/
def Leads (node : Bytes) (path : List Nibble) (s : Step) : Prop :=
  ∃ items, Rlp.decodeList node = .ok items ∧ step items path = some s

theorem Leads.unique {node : Bytes} {path : List Nibble} {s s' : Step} (h : Leads node path s)
    (h' : Leads node path s') : s = s' := by
  obtain ⟨items, hd, hs⟩ := h
  obtain ⟨items', hd', hs'⟩ := h'
  have hitems := Except.ok.inj (hd.symm.trans hd')
  subst items'
  exact Option.some.inj (hs.symm.trans hs')

/-- From a node along a path to an answer, by way of exactly the nodes that are taken. -/
inductive Descent : Bytes → List Nibble → List Bytes → Option Bytes → Prop
  | found {node path value} (h : Leads node path (.found value)) :
      Descent node path [] (some value)
  | absent {node path} (h : Leads node path .absent) : Descent node path [] none
  | embedded {node path child rest taken answer} (h : Leads node path (.below child rest))
      (hlen : child.length < 32) (tail : Descent child rest taken answer) :
      Descent node path taken answer
  | named {node path next rest taken answer}
      (h : Leads node path (.below (keccak256 next).toList rest))
      (tail : Descent next rest taken answer) : Descent node path (next :: taken) answer

variable {node child next : Bytes} {path rest : List Nibble} {taken later : List Bytes}
  {answer : Option Bytes} {index depth : Nat}

/-- What a walk does after a step. -/
def afterStep (later : List Bytes) (index depth : Nat) : Step → Except Fault (Option Bytes)
  | .found value => .ok (some value)
  | .absent => .ok none
  | .below child rest =>
      if child.length < 32 then descend child rest later index (depth + 1)
      else if child.length > 32 then .error (.referenceLength index child.length)
      else match later with
        | [] => .error (.incomplete (depth + 1))
        | next :: later =>
            if (keccak256 next).toList = child then
              descend next rest later (index + 1) (depth + 1)
            else .error (.rootMismatch (keccak256 next).toList child)

theorem descend_of_leads {s : Step} (h : Leads node path s) :
    descend node path later index depth = afterStep later index depth s := by
  obtain ⟨items, hd, hs⟩ := h
  rw [descend]
  split
  · next f hd' => cases hd.symm.trans hd'
  · next items' hd' =>
      cases hd.symm.trans hd'
      split
      · next hs' => cases hs.symm.trans hs'
      · next value hs' => cases hs.symm.trans hs'; rfl
      · next hs' => cases hs.symm.trans hs'; rfl
      · next child rest hs' => cases hs.symm.trans hs'; rfl

theorem descend_of_embedded (h : Leads node path (.below child rest)) (hlen : child.length < 32) :
    descend node path later index depth = descend child rest later index (depth + 1) := by
  rw [descend_of_leads h]
  exact if_pos hlen

theorem descend_of_named (h : Leads node path (.below (keccak256 next).toList rest)) :
    descend node path (next :: later) index depth =
      descend next rest later (index + 1) (depth + 1) := by
  have hlen : (keccak256 next).toList.length = 32 := (keccak256 next).length_toList
  rw [descend_of_leads h]
  simp only [afterStep, hlen, Nat.lt_irrefl, if_false, if_true, gt_iff_lt]

/-- A walk along a descent comes to its answer, whatever nodes follow. -/
theorem Descent.descend_append (run : Descent node path taken answer) (surplus : List Bytes)
    (index depth : Nat) : descend node path (taken ++ surplus) index depth = .ok answer := by
  induction run generalizing index depth with
  | found h => exact descend_of_leads h
  | absent h => exact descend_of_leads h
  | embedded h hlen tail ih =>
      rw [descend_of_embedded h hlen]
      exact ih index (depth + 1)
  | named h tail ih =>
      rw [List.cons_append, descend_of_named h]
      exact ih (index + 1) (depth + 1)

/-- A walk that answers has taken a descent from the front of its list. -/
theorem exists_descent_of_descend (h : descend node path later index depth = .ok answer) :
    ∃ taken surplus, later = taken ++ surplus ∧ Descent node path taken answer := by
  fun_induction descend node path later index depth with
  | case1 => cases h
  | case2 => cases h
  | case3 node path later index depth items hd value hs =>
      cases h
      exact ⟨[], later, rfl, .found ⟨items, hd, hs⟩⟩
  | case4 node path later index depth items hd hs =>
      cases h
      exact ⟨[], later, rfl, .absent ⟨items, hd, hs⟩⟩
  | case5 node path later index depth items hd child rest hs hlen _ ih =>
      obtain ⟨taken, surplus, hlater, tail⟩ := ih h
      exact ⟨taken, surplus, hlater, .embedded ⟨items, hd, hs⟩ hlen tail⟩
  | case6 => cases h
  | case7 => cases h
  | case8 node path index depth items hd rest next later hs _ _ ih =>
      obtain ⟨taken, surplus, rfl, tail⟩ := ih h
      exact ⟨next :: taken, surplus, rfl, .named ⟨items, hd, hs⟩ tail⟩
  | case9 => cases h

/-- A walk answers exactly if its list starts with the nodes of a descent to that answer. -/
theorem descend_eq_ok_iff :
    descend node path later index depth = .ok answer ↔
      ∃ taken surplus, later = taken ++ surplus ∧ Descent node path taken answer := by
  constructor
  · exact exists_descent_of_descend
  · rintro ⟨taken, surplus, rfl, run⟩
    exact run.descend_append surplus index depth

/-- A proof answers exactly if it starts with a node of the expected hash, followed by the nodes
of a descent from there. -/
theorem lookup_eq_ok_iff {root key : Hash} {proof : List Bytes} :
    lookup root key proof = .ok answer ↔
      ∃ node taken surplus, proof = node :: (taken ++ surplus) ∧ keccak256 node = root ∧
        Descent node (nibbles key.toList) taken answer := by
  cases proof with
  | nil => simp [lookup]
  | cons first later =>
      rw [lookup]
      constructor
      · intro h
        split at h
        · next hroot =>
            obtain ⟨taken, surplus, rfl, run⟩ := descend_eq_ok_iff.mp h
            exact ⟨first, taken, surplus, rfl, hroot, run⟩
        · cases h
      · rintro ⟨node, taken, surplus, hproof, hroot, run⟩
        obtain ⟨rfl, hlater⟩ := List.cons.inj hproof
        rw [if_pos hroot]
        exact descend_eq_ok_iff.mpr ⟨taken, surplus, hlater, run⟩

theorem Leads.ne_nil {s : Step} (h : Leads node path s) : node ≠ [] := by
  have hlist : ∀ items, Rlp.decodeList [] ≠ .ok items := nofun
  rintro rfl
  obtain ⟨items, hitems, -⟩ := h
  exact hlist items hitems

/-- No node of a descent is empty. -/
theorem Descent.ne_nil (run : Descent node path taken answer) :
    node ≠ [] ∧ ∀ n ∈ taken, n ≠ [] := by
  induction run with
  | found h => exact ⟨h.ne_nil, nofun⟩
  | absent h => exact ⟨h.ne_nil, nofun⟩
  | embedded h hlen tail ih => exact ⟨h.ne_nil, ih.2⟩
  | named h tail ih => exact ⟨h.ne_nil, List.forall_mem_cons.mpr ih⟩

/-- A proof that answers does so without its surplus nodes, and then none of its nodes is empty. -/
theorem exists_taken_of_lookup {root key : Hash} {proof : List Bytes}
    (h : lookup root key proof = .ok answer) :
    ∃ taken surplus, proof = taken ++ surplus ∧ (∀ n ∈ taken, n ≠ []) ∧
      lookup root key taken = .ok answer := by
  obtain ⟨node, taken, surplus, rfl, hroot, run⟩ := lookup_eq_ok_iff.mp h
  have hfront : lookup root key (node :: taken) = .ok answer :=
    lookup_eq_ok_iff.mpr ⟨node, taken, [], by rw [List.append_nil], hroot, run⟩
  exact ⟨node :: taken, surplus, rfl, List.forall_mem_cons.mpr run.ne_nil, hfront⟩

/-- Descents from one node along one path take the same nodes to the same answer, unless at some
step they take different nodes of one hash. -/
theorem Descent.deterministic (run : Descent node path taken answer) :
    ∀ {taken' answer'}, Descent node path taken' answer' →
      (taken = taken' ∧ answer = answer') ∨ HasCollision taken taken' := by
  induction run with
  | found h =>
      intro taken' answer' run'
      cases run' with
      | found h' => cases h.unique h'; exact Or.inl ⟨rfl, rfl⟩
      | absent h' | embedded h' | named h' => cases h.unique h'
  | absent h =>
      intro taken' answer' run'
      cases run' with
      | absent h' => exact Or.inl ⟨rfl, rfl⟩
      | found h' | embedded h' | named h' => cases h.unique h'
  | embedded h hlen tail ih =>
      intro taken' answer' run'
      cases run' with
      | embedded h' hlen' tail' => cases h.unique h'; exact ih tail'
      | named h' tail' => cases h.unique h'; simp at hlen
      | found h' | absent h' => cases h.unique h'
  | @named node path next rest taken answer h tail ih =>
      intro taken' answer' run'
      cases run' with
      | @named _ _ next' rest' taken' _ h' tail' =>
          obtain ⟨hname, rfl⟩ := Step.below.inj (h.unique h')
          have hhash : keccak256 next = keccak256 next' := FixedBytes.ext hname
          rcases eq_or_collide hhash with rfl | hcollide
          · rcases ih tail' with ⟨rfl, rfl⟩ | hfound
            · exact Or.inl ⟨rfl, rfl⟩
            · exact Or.inr (hfound.mono (List.subset_cons_self _ _) (List.subset_cons_self _ _))
          · exact Or.inr ⟨next, List.mem_cons_self, next', List.mem_cons_self, hcollide⟩
      | embedded h' hlen' tail' => cases h.unique h'; simp at hlen'
      | found h' | absent h' => cases h.unique h'

/-- Two proofs for one key below one root have the same answer, unless a node of one and a node of
the other are different and have the same hash. -/
theorem eq_of_lookup_eq_ok {root key : Hash} {proof proof' : List Bytes}
    {answer' : Option Bytes} (h : lookup root key proof = .ok answer)
    (h' : lookup root key proof' = .ok answer') :
    answer = answer' ∨ HasCollision proof proof' := by
  obtain ⟨node, taken, surplus, rfl, hroot, run⟩ := lookup_eq_ok_iff.mp h
  obtain ⟨node', taken', surplus', rfl, hroot', run'⟩ := lookup_eq_ok_iff.mp h'
  rcases eq_or_collide (hroot.trans hroot'.symm) with rfl | hcollide
  · rcases run.deterministic run' with ⟨-, hanswer⟩ | hfound
    · exact Or.inl hanswer
    · refine Or.inr (hfound.mono ?_ ?_)
      · exact List.subset_cons_of_subset node (List.subset_append_left taken surplus)
      · exact List.subset_cons_of_subset node (List.subset_append_left taken' surplus')
  · exact Or.inr ⟨node, List.mem_cons_self, node', List.mem_cons_self, hcollide⟩

end UnlockProof.Trie

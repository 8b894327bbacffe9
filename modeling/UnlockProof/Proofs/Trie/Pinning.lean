import UnlockProof.Proofs.Trie.Tree

/-!
# What pins an answer

The answer of a walk rests on the nodes that it takes, on all of them and on no others. Without
the last of them the walk is incomplete, with a node of another hash in the place of one it fails
right there, and what follows the last one does not matter.

## Implementation notes

In front of each node that it takes, a walk stands at a parent that names the hash of this node.
What the walk does with the next node of its list, or without one, follows from this place alone,
so the shortened and the altered lists need no descents of their own.
-/

namespace UnlockProof.Trie

variable {root key : Hash} {node original other : Bytes} {path rest : List Nibble}
  {taken front back later proof nodes : List Bytes} {answer : Option Bytes} {index depth k k' : Nat}

theorem descend_of_missing (h : Leads node path (.below (keccak256 original).toList rest)) :
    descend node path [] index depth = .error (.incomplete (depth + 1)) := by
  have hlen : (keccak256 original).toList.length = 32 := (keccak256 original).length_toList
  rw [descend_of_leads h]
  simp only [afterStep, hlen, Nat.lt_irrefl, if_false, gt_iff_lt]

theorem descend_of_other (h : Leads node path (.below (keccak256 original).toList rest))
    (hother : keccak256 other ≠ keccak256 original) :
    descend node path (other :: later) index depth =
      .error (.rootMismatch (keccak256 other).toList (keccak256 original).toList) := by
  have hlen : (keccak256 original).toList.length = 32 := (keccak256 original).length_toList
  have hname : (keccak256 other).toList ≠ (keccak256 original).toList := mt FixedBytes.ext hother
  rw [descend_of_leads h]
  simp only [afterStep, hlen, hname, Nat.lt_irrefl, if_false, gt_iff_lt]

/-- A walk along a descent comes to the parent of each node that the descent takes, and whatever
follows in its list is met there. -/
theorem Descent.exists_parent (run : Descent node path taken answer)
    (htaken : taken = front ++ original :: back) (index depth : Nat) :
    ∃ parent rest below depth', Leads parent rest (.below (keccak256 original).toList below) ∧
      ∀ later, descend node path (front ++ later) index depth =
        descend parent rest later (index + front.length) depth' := by
  induction run generalizing front index depth with
  | found h => cases front <;> cases htaken
  | absent h => cases front <;> cases htaken
  | embedded h hlen tail ih =>
      -- An embedded child is one level down, but no node of the list is taken for it.
      obtain ⟨parent, rest, below, depth', hparent, hwalk⟩ := ih htaken index (depth + 1)
      refine ⟨parent, rest, below, depth', hparent, ?_⟩
      intro later
      rw [descend_of_embedded h hlen]
      exact hwalk later
  | @named node path next rest taken answer h tail ih =>
      cases front with
      | nil =>
          obtain ⟨rfl, -⟩ := List.cons.inj htaken
          exact ⟨node, path, rest, depth, h, fun later => rfl⟩
      | cons first front =>
          obtain ⟨rfl, htail⟩ := List.cons.inj htaken
          obtain ⟨parent, rest', below, depth', hparent, hwalk⟩ := ih htail (index + 1) (depth + 1)
          refine ⟨parent, rest', below, depth', hparent, ?_⟩
          intro later
          rw [List.cons_append, descend_of_named h, hwalk later, List.length_cons]
          congr 1
          omega

/-- A walk whose list ends before its descent is incomplete. -/
theorem Descent.descend_front (run : Descent node path (front ++ original :: back) answer)
    (index depth : Nat) : ∃ d, descend node path front index depth = .error (.incomplete d) := by
  obtain ⟨parent, rest, below, depth', hparent, hwalk⟩ := run.exists_parent rfl index depth
  have hend := hwalk []
  rw [List.append_nil, descend_of_missing hparent] at hend
  exact ⟨_, hend⟩

/-- A walk fails at the first node of its list that has not the hash of the one it should take. -/
theorem Descent.descend_other (run : Descent node path (front ++ original :: back) answer)
    (hother : keccak256 other ≠ keccak256 original) (later : List Bytes) (index depth : Nat) :
    descend node path (front ++ other :: later) index depth =
      .error (.rootMismatch (keccak256 other).toList (keccak256 original).toList) := by
  obtain ⟨parent, rest, below, depth', hparent, hwalk⟩ := run.exists_parent rfl index depth
  rw [hwalk, descend_of_other hparent hother]

/-- Says that the answer of a proof rests on its first `k` nodes. Fewer of them are incomplete,
these are enough whatever follows, and none of them can be replaced by a node of another hash. -/
structure PinnedBy (root key : Hash) (proof : List Bytes) (answer : Option Bytes) (k : Nat) :
    Prop where
  pos : 1 ≤ k
  le_length : k ≤ proof.length
  incomplete : ∀ j, 1 ≤ j → j < k →
    ∃ depth, lookup root key (proof.take j) = .error (.incomplete depth)
  answers : ∀ nodes, proof.take k <+: nodes → lookup root key nodes = .ok answer
  mismatch : ∀ nodes i original other, i < k → nodes.take i = proof.take i →
    proof[i]? = some original → nodes[i]? = some other → other ≠ original →
    lookup root key nodes =
        .error (.rootMismatch (keccak256 other).toList (keccak256 original).toList) ∨
      Collide original other

/-- There is only one such number of nodes. -/
theorem PinnedBy.unique (h : PinnedBy root key proof answer k)
    (h' : PinnedBy root key proof answer k') : k = k' := by
  have hle : ∀ {k k'}, PinnedBy root key proof answer k → PinnedBy root key proof answer k' →
      k' ≤ k := by
    intro k k' h h'
    apply Nat.le_of_not_lt
    intro hlt
    obtain ⟨depth, hfew⟩ := h'.incomplete k h.pos hlt
    rw [h.answers _ (List.prefix_refl _)] at hfew
    cases hfew
  exact Nat.le_antisymm (hle h' h) (hle h h')

theorem lookup_cons (hroot : keccak256 node = root) (later : List Bytes) :
    lookup root key (node :: later) = descend node (nibbles key.toList) later 0 0 := by
  rw [lookup, if_pos hroot]

/-- A proof that ends before its descent is incomplete. -/
theorem lookup_front (hroot : keccak256 node = root)
    (run : Descent node (nibbles key.toList) taken answer)
    (htaken : node :: taken = front ++ original :: back) (hfront : front ≠ []) :
    ∃ depth, lookup root key front = .error (.incomplete depth) := by
  cases front with
  | nil => exact absurd rfl hfront
  | cons first front =>
      obtain ⟨rfl, rfl⟩ := List.cons.inj htaken
      rw [lookup_cons hroot]
      exact run.descend_front 0 0

/-- A proof fails at its first node that has not the hash of the one it should be. -/
theorem lookup_other (hroot : keccak256 node = root)
    (run : Descent node (nibbles key.toList) taken answer)
    (htaken : node :: taken = front ++ original :: back)
    (hother : keccak256 other ≠ keccak256 original) (later : List Bytes) :
    lookup root key (front ++ other :: later) =
      .error (.rootMismatch (keccak256 other).toList (keccak256 original).toList) := by
  cases front with
  | nil =>
      obtain ⟨rfl, -⟩ := List.cons.inj htaken
      rw [hroot] at hother ⊢
      exact if_neg hother
  | cons first front =>
      obtain ⟨rfl, rfl⟩ := List.cons.inj htaken
      rw [List.cons_append, lookup_cons hroot]
      exact run.descend_other hother later 0 0

/-- A list is what stands in front of one of its members, the member, and what follows it. -/
theorem eq_take_append_cons {i : Nat} (h : nodes[i]? = some node) :
    nodes = nodes.take i ++ node :: nodes.drop (i + 1) := by
  obtain ⟨hi, rfl⟩ := List.getElem?_eq_some_iff.mp h
  rw [List.getElem_cons_drop, List.take_append_drop]

/-- A proof is pinned by the nodes of its descent. -/
theorem Descent.pinnedBy (run : Descent node (nibbles key.toList) taken answer)
    (hroot : keccak256 node = root) (surplus : List Bytes) :
    PinnedBy root key ((node :: taken) ++ surplus) answer (node :: taken).length := by
  have hfront {i : Nat} (hi : i ≤ (node :: taken).length) :
      ((node :: taken) ++ surplus).take i = (node :: taken).take i :=
    List.take_append_of_le_length hi
  refine ⟨?_, ?_, ?_, ?_, ?_⟩
  · exact Nat.succ_le_succ (Nat.zero_le _)
  · rw [List.length_append]
    exact Nat.le_add_right _ _
  · intro j hpos hj
    have hsplit := eq_take_append_cons (List.getElem?_eq_getElem hj)
    rw [hfront (Nat.le_of_lt hj)]
    apply lookup_front hroot run hsplit
    intro hnil
    have hlen := congrArg List.length hnil
    rw [List.length_take, List.length_nil] at hlen
    omega
  · rintro nodes ⟨more, rfl⟩
    rw [hfront (Nat.le_refl _), List.take_length]
    exact lookup_eq_ok_iff.mpr ⟨node, taken, more, rfl, hroot, run⟩
  · intro nodes i original other hi hsame horiginal hother hne
    rw [List.getElem?_append_left hi] at horiginal
    have hnodes := eq_take_append_cons hother
    rw [hsame, hfront (Nat.le_of_lt hi)] at hnodes
    -- A node of the same hash would be taken, so only then does the walk not fail here.
    by_cases hhash : keccak256 other = keccak256 original
    · exact Or.inr ⟨hne.symm, hhash.symm⟩
    · rw [hnodes]
      exact Or.inl (lookup_other hroot run (eq_take_append_cons horiginal) hhash _)

/-- A proof that is read off a trie is pinned by the nodes that the trie gives for the key. -/
theorem Tree.pinnedBy_proofOf {t : Tree} (h : t.WellFormed) (hnode : t ≠ .empty) (key : Hash)
    (surplus : List Bytes) :
    PinnedBy t.root key (t.proofOf key ++ surplus) (t.get key) (t.proofOf key).length := by
  have hbool : t.isEmpty = false := Bool.eq_false_iff.mpr (mt isEmpty_iff.mp hnode)
  have run := descent_of_wellFormed h (nibbles key.toList) hbool
  rw [proofOf_eq_cons hnode]
  exact run.pinnedBy rfl surplus

/-- A proof that answers is pinned by the nodes that its walk takes: fewer of them are incomplete,
they are enough whatever follows, and a list that parts from them at another node fails there,
unless this node has the hash of the one it replaces. -/
theorem exists_pinnedBy_of_lookup (h : lookup root key proof = .ok answer) :
    ∃ k, PinnedBy root key proof answer k := by
  obtain ⟨node, taken, surplus, rfl, hroot, run⟩ := lookup_eq_ok_iff.mp h
  exact ⟨_, run.pinnedBy hroot surplus⟩

/-- A trie of two nodes that are known by their hashes, the second a branch that holds one leaf as
it is and another by its hash. -/
def Tree.forked : Tree :=
  .extension (List.replicate 60 0)
    (.branch (fun n =>
      if n = 0 then .leaf [0, 0, 0] [5]
      else if n = 1 then .leaf [0, 0, 0] (List.replicate 32 7)
      else .empty) [])

theorem Tree.wellFormed_forked : forked.WellFormed := by
  apply WellFormed.extension
  · decide
  · apply WellFormed.branch
    · intro n
      split
      · exact .leaf (by decide) (by decide +kernel)
      · split
        · exact .leaf (by decide) (by decide +kernel)
        · exact .empty
    · decide +kernel
  · decide +kernel

/-- Of three nodes the first two pin the answer: the leaf stands in the second one, and the third
is not looked at. -/
theorem exists_pinnedBy_of_lookup_forked :
    lookup Tree.forked.root (bytesOfU256 0) (Tree.forked.proofOf (bytesOfU256 0) ++ [[]]) =
        .ok (some [5]) ∧
      ∃ k, PinnedBy Tree.forked.root (bytesOfU256 0) (Tree.forked.proofOf (bytesOfU256 0) ++ [[]])
        (some [5]) k ∧ k = 2 := by
  have hget : Tree.forked.get (bytesOfU256 0) = some [5] := by decide +kernel
  have hlen : (Tree.forked.proofOf (bytesOfU256 0)).length = 2 := by decide +kernel
  have hlookup := Tree.lookup_proofOf Tree.wellFormed_forked nofun (bytesOfU256 0) [[]]
  have htree := Tree.pinnedBy_proofOf Tree.wellFormed_forked nofun (bytesOfU256 0) [[]]
  rw [hget] at hlookup htree
  rw [hlen] at htree
  obtain ⟨k, hk⟩ := exists_pinnedBy_of_lookup hlookup
  exact ⟨hlookup, k, hk, hk.unique htree⟩

end UnlockProof.Trie

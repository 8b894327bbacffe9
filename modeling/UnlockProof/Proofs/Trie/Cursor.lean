import UnlockProof.Proofs.Rlp.Slices
import UnlockProof.Proofs.Trie.Descent

/-!
# Walking by places

Here a walk goes round a loop with a cursor: an entry of the proof, a node in it, and how much of
the key is done. Each round looks entries up and cuts parts off at computed places, and a place
that is not there ends it in a way of its own. No walk comes to that, whatever the root, the key
and the nodes. Every walk ends, as the lookup does, after no more rounds than the nodes of the
proof have bytes, with one more for each node.

## Implementation notes

An extension by no nibble leaves the key as it is and an embedded child leaves the entry as it
is, so neither counts the rounds. Bytes do: a child in place is shorter than its node. The rounds
done, together with the length of the node at hand, stay below what the entries up to the one at
hand have room for.
-/

namespace UnlockProof.Trie
open Outcome

/-- Where a walk stands: the entry of the proof, the node at hand, the nibbles of the key that
are done and the steps that are done. -/
structure Cursor where
  index : Nat
  node : Bytes
  nibble : Nat
  depth : Nat
deriving DecidableEq

/-- What a node tells: an answer, or a child with the nibbles that are done above it. -/
inductive Finding where
  | answer (value : Option Bytes)
  | child (reference : Bytes) (nibble : Nat)
deriving DecidableEq

/-- What a round of the loop comes to, if it is not stopped. -/
inductive Round where
  | ended (answer : Option Bytes)
  | goesOn (next : Cursor)
deriving DecidableEq

/-- The answer that a stored value gives; an empty value is none. -/
def answerOf (value : Bytes) : Option Bytes := if value.isEmpty then none else some value

/-- Reads a branch. -/
def readBranch (path : List Nibble) (nibble : Nat) (items : List Bytes) :
    Except (Stop Fault) Finding :=
  if path.length ≤ nibble then do
    let value ← Stop.entry 16 items
    return .answer (answerOf value)
  else do
    let n ← Stop.entry nibble path
    let child ← Stop.entry n.val items
    return if child.isEmpty then .answer none else .child child (nibble + 1)

/-- Reads a leaf or an extension; what its path leads to is looked up if the path fits. -/
def readCompact (path : List Nibble) (nibble : Nat) (items : List Bytes) :
    Except (Stop Fault) Finding := do
  let compact ← Stop.entry 0 items
  let (own, isLeaf) := compactPath compact
  let remaining ← Stop.onward nibble path
  if isLeaf then
    if remaining = own then do
      let value ← Stop.entry 1 items
      return .answer (answerOf value)
    else return .answer none
  else if own.isPrefixOf remaining then do
    let child ← Stop.entry 1 items
    return .child child (nibble + own.length)
  else return .answer none

/-- Reads a node with the given items. -/
def readNode (path : List Nibble) (nibble depth : Nat) (items : List Bytes) :
    Except (Stop Fault) Finding :=
  if items.length = 17 then readBranch path nibble items
  else if items.length = 2 then readCompact path nibble items
  else .error (.fault (.nodeKind depth items.length))

/-- Takes a hash out of a reference, which must be exactly as long. -/
def hashOf (reference : Bytes) : Except (Stop Fault) Hash :=
  match FixedBytes.ofList? reference with
  | some hash => .ok hash
  | none => .error .outOfRange

/-- Follows a reference to a child: into the node at hand, or to the next entry of the proof. -/
def follow (proof : List Bytes) (c : Cursor) (reference : Bytes) (nibble : Nat) :
    Except (Stop Fault) Round :=
  if reference.length < 32 then .ok (.goesOn ⟨c.index, reference, nibble, c.depth + 1⟩)
  else if reference.length > 32 then
    .error (.fault (.referenceLength c.index reference.length))
  else match proof[c.index + 1]? with
    | none => .error (.fault (.incomplete (c.depth + 1)))
    | some next => do
        let expected ← hashOf reference
        if keccak256 next = expected then
          .ok (.goesOn ⟨c.index + 1, next, nibble, c.depth + 1⟩)
        else .error (.fault (.rootMismatch (keccak256 next).toList expected.toList))

/-- One round of the loop. -/
def round (proof : List Bytes) (path : List Nibble) (c : Cursor) :
    Except (Stop Fault) Round := do
  let items ← (Rlp.cutList c.node).mapError (Stop.map (.encoding c.index))
  let finding ← readNode path c.nibble c.depth items
  match finding with
  | .answer value => .ok (.ended value)
  | .child reference nibble => follow proof c reference nibble

variable {proof : List Bytes} {path rest : List Nibble} {items : List Bytes} {c : Cursor}
  {nibble depth : Nat}

/-- The finding that a step along a path makes. -/
def findingOf (path : List Nibble) : Step → Finding
  | .found value => .answer (some value)
  | .absent => .answer none
  | .below child rest => .child child (path.length - rest.length)

theorem findingOf_ofValue (value : Bytes) :
    findingOf path (.ofValue value) = .answer (answerOf value) := by
  rw [Step.ofValue, answerOf]
  split <;> rfl

theorem readBranch_eq (h : items.length = 17) :
    readBranch path nibble items = .ok (findingOf path (stepAt items h (path.drop nibble))) := by
  by_cases hend : path.length ≤ nibble
  · have hvalue : (Stop.entry 16 items : Except (Stop Fault) Bytes) = .ok items[16] :=
      Stop.entry_of_lt (by omega)
    rw [readBranch, if_pos hend, hvalue, List.drop_eq_nil_of_le hend, stepAt, findingOf_ofValue]
    rfl
  · have hlt : nibble < path.length := Nat.not_le.mp hend
    have hchild : (Stop.entry path[nibble].val items : Except (Stop Fault) Bytes) =
        .ok items[path[nibble].val] := Stop.entry_of_lt (by omega)
    have hdone : path.length - (path.drop (nibble + 1)).length = nibble + 1 := by
      rw [List.length_drop]
      omega
    rw [readBranch, if_neg hend, Stop.entry_of_lt hlt, List.drop_eq_getElem_cons hlt, stepAt]
    simp only [bind, Except.bind, hchild, List.get_eq_getElem]
    split
    case isTrue => rfl
    case isFalse => rw [findingOf, hdone]; rfl

theorem readCompact_eq (compact target : Bytes) (h : nibble ≤ path.length) :
    readCompact path nibble [compact, target] =
      .ok (findingOf path (stepAlong compact target (path.drop nibble))) := by
  have hentry : (Stop.entry 0 [compact, target] : Except (Stop Fault) Bytes) = .ok compact := rfl
  rw [readCompact, hentry, stepAlong]
  simp only [bind, Except.bind, Stop.onward_of_le h]
  split
  case isTrue =>
    split
    case isTrue => rw [findingOf_ofValue]; rfl
    case isFalse => rfl
  case isFalse =>
    split
    case isTrue hown =>
      have hle := (List.isPrefixOf_iff_prefix.mp hown).length_le
      have hdone : path.length - ((path.drop nibble).drop (compactPath compact).1.length).length =
          nibble + (compactPath compact).1.length := by
        simp only [List.length_drop] at hle ⊢
        omega
      rw [findingOf, hdone]
      rfl
    case isFalse => rfl

theorem step_eq_none (h17 : items.length ≠ 17) (h2 : items.length ≠ 2) :
    step items path = none := by
  rw [step, dif_neg h17]
  split
  case h_1 compact target => exact absurd rfl h2
  case h_2 => rfl

/-- A node is read as it is stepped at, along what is left of the path. -/
theorem readNode_eq (h : nibble ≤ path.length) :
    readNode path nibble depth items = match step items (path.drop nibble) with
      | none => .error (.fault (.nodeKind depth items.length))
      | some s => .ok (findingOf path s) := by
  by_cases h17 : items.length = 17
  · rw [readNode, if_pos h17, readBranch_eq h17, step, dif_pos h17]
  · by_cases h2 : items.length = 2
    · obtain ⟨compact, target, rfl⟩ := List.length_eq_two.mp h2
      rw [readNode, if_neg h17, if_pos h2, readCompact_eq compact target h, step, dif_neg h17]
    · rw [readNode, if_neg h17, if_neg h2, step_eq_none h17 h2]

/-- What is left to walk from a cursor. -/
def Cursor.walk (c : Cursor) (proof : List Bytes) (path : List Nibble) :
    Except Fault (Option Bytes) :=
  descend c.node (path.drop c.nibble) (proof.drop (c.index + 1)) c.index c.depth

/-- A round that is the last one, with the result of the walk. -/
def lastRound : Except Fault (Option Bytes) → Except (Stop Fault) Round
  | .ok answer => .ok (.ended answer)
  | .error f => .error (.fault f)

/-- How a walk goes on: into a child that is a shorter part of the node at hand, or to the next
entry of the proof; what is left to walk comes to the same. -/
structure Cursor.Advances (proof : List Bytes) (path : List Nibble) (c c' : Cursor) : Prop where
  nibble_le : c'.nibble ≤ path.length
  walk_eq : c.walk proof path = c'.walk proof path
  place : (c'.index = c.index ∧ c'.node <:+: c.node ∧ c'.node.length < c.node.length) ∨
    (c'.index = c.index + 1 ∧ proof[c'.index]? = some c'.node)

/-- What a round may come to: the end of the walk or the next cursor. -/
def Cursor.EndsOrAdvances (proof : List Bytes) (path : List Nibble) (c : Cursor)
    (x : Except (Stop Fault) Round) : Prop :=
  x = lastRound (c.walk proof path) ∨
    ∃ c', x = .ok (.goesOn c') ∧ c.Advances proof path c'

theorem ends_of_walk {r : Except Fault (Option Bytes)} (h : c.walk proof path = r) :
    c.EndsOrAdvances proof path (lastRound r) := Or.inl (congrArg lastRound h).symm

section Follow

variable {child : Bytes} {hash : Hash}

theorem walk_of_leads {s : Step} (h : Leads c.node (path.drop c.nibble) s) :
    c.walk proof path = afterStep (proof.drop (c.index + 1)) c.index c.depth s :=
  descend_of_leads h

/-- The nibbles that are done above a child are all but those that are left below it. -/
theorem drop_of_leads (h : Leads c.node (path.drop c.nibble) (.below child rest)) :
    path.drop (path.length - rest.length) = rest := by
  obtain ⟨items, -, hstep⟩ := h
  have hrest : rest <:+ path :=
    (mem_and_suffix_of_step hstep).2.trans (List.drop_suffix c.nibble path)
  exact (List.suffix_iff_eq_drop.mp hrest).symm

theorem follow_of_lt (h : Leads c.node (path.drop c.nibble) (.below child rest))
    (hshort : child.length < 32) :
    c.EndsOrAdvances proof path (follow proof c child (path.length - rest.length)) := by
  have hwalk : c.walk proof path =
      Cursor.walk ⟨c.index, child, path.length - rest.length, c.depth + 1⟩ proof path := by
    calc
      c.walk proof path
          = afterStep (proof.drop (c.index + 1)) c.index c.depth (.below child rest) :=
            walk_of_leads h
      _ = descend child rest (proof.drop (c.index + 1)) c.index (c.depth + 1) := if_pos hshort
      _ = Cursor.walk ⟨c.index, child, path.length - rest.length, c.depth + 1⟩ proof path := by
            rw [Cursor.walk, drop_of_leads h]
  obtain ⟨items, hitems, hstep⟩ := h
  have hpart := Rlp.isInfix_of_mem_decodeList hitems (mem_of_step hstep)
  have hlt := Rlp.length_lt_of_mem_decodeList hitems (mem_of_step hstep)
  rw [follow, if_pos hshort]
  exact Or.inr ⟨_, rfl, Nat.sub_le _ _, hwalk, Or.inl ⟨rfl, hpart, hlt⟩⟩

/-- A reference that is as long as a hash is one, so it is taken without a stop. -/
theorem follow_hash (h : Leads c.node (path.drop c.nibble) (.below hash.toList rest)) :
    c.EndsOrAdvances proof path (follow proof c hash.toList (path.length - rest.length)) := by
  have hshort : ¬ hash.toList.length < 32 := by simp
  have hlong : ¬ hash.toList.length > 32 := by simp
  have hwalk : c.walk proof path = _ :=
    (walk_of_leads h).trans ((if_neg hshort).trans (if_neg hlong))
  rw [follow, if_neg hshort, if_neg hlong]
  cases hentry : proof[c.index + 1]? with
  | none =>
      rw [List.drop_eq_nil_of_le (List.getElem?_eq_none_iff.mp hentry)] at hwalk
      exact ends_of_walk hwalk
  | some next =>
      obtain ⟨hlt, hnext⟩ := List.getElem?_eq_some_iff.mp hentry
      rw [List.drop_eq_getElem_cons hlt, hnext] at hwalk
      simp only [hashOf, FixedBytes.ofList?_toList, bind, Except.bind]
      split
      case isTrue hhash =>
        replace hwalk := hwalk.trans (if_pos (congrArg FixedBytes.toList hhash))
        refine Or.inr ⟨_, rfl, Nat.sub_le _ _, hwalk.trans ?_, Or.inr ⟨rfl, hentry⟩⟩
        rw [Cursor.walk, drop_of_leads h]
      case isFalse hhash =>
        exact ends_of_walk (hwalk.trans (if_neg fun h => hhash (FixedBytes.ext h)))

/-- Following a reference ends the walk or goes on with it. -/
theorem follow_endsOrAdvances (h : Leads c.node (path.drop c.nibble) (.below child rest)) :
    c.EndsOrAdvances proof path (follow proof c child (path.length - rest.length)) := by
  rcases Nat.lt_trichotomy child.length 32 with hshort | hlen | hlong
  · exact follow_of_lt h hshort
  · obtain ⟨hash, rfl⟩ : ∃ hash : Hash, child = hash.toList := ⟨⟨child, hlen⟩, rfl⟩
    exact follow_hash h
  · have hshort : ¬ child.length < 32 := Nat.lt_asymm hlong
    rw [follow, if_neg hshort, if_pos hlong]
    exact ends_of_walk ((walk_of_leads h).trans ((if_neg hshort).trans (if_pos hlong)))

end Follow

theorem walk_of_undecodable {f : Rlp.Fault} (h : Rlp.decodeList c.node = .error f) :
    c.walk proof path = .error (.encoding c.index f) := by
  rw [Cursor.walk, descend]
  split
  case h_1 f' hf => cases h.symm.trans hf; rfl
  case h_2 items hitems => cases h.symm.trans hitems

theorem walk_of_no_step (h : Rlp.decodeList c.node = .ok items)
    (hstep : step items (path.drop c.nibble) = none) :
    c.walk proof path = .error (.nodeKind c.depth items.length) := by
  rw [Cursor.walk, descend]
  split
  case h_1 f hf => cases h.symm.trans hf
  case h_2 items' hitems =>
    cases h.symm.trans hitems
    split
    · rfl
    all_goals next hs => cases hstep.symm.trans hs

/-- A round ends the walk or goes on with it, as long as no more of the key is done than there
is. -/
theorem round_endsOrAdvances (h : c.nibble ≤ path.length) :
    c.EndsOrAdvances proof path (round proof path c) := by
  rw [round, Rlp.cutList_eq]
  cases hitems : Rlp.decodeList c.node with
  | error f => exact ends_of_walk (walk_of_undecodable hitems)
  | ok items =>
      simp only [mapError_ok, bind, Except.bind, readNode_eq h]
      cases hstep : step items (path.drop c.nibble) with
      | none => exact ends_of_walk (walk_of_no_step hitems hstep)
      | some s =>
          have hleads : Leads c.node (path.drop c.nibble) s := ⟨items, hitems, hstep⟩
          cases s with
          | found value => exact ends_of_walk (walk_of_leads hleads)
          | absent => exact ends_of_walk (walk_of_leads hleads)
          | below child rest => exact follow_endsOrAdvances hleads

theorem lastRound_ne_goesOn (r : Except Fault (Option Bytes)) (c : Cursor) :
    lastRound r ≠ .ok (.goesOn c) := by
  cases r with
  | error f => exact nofun
  | ok answer => exact nofun

theorem lastRound_ne_outOfRange (r : Except Fault (Option Bytes)) :
    lastRound r ≠ .error .outOfRange := by
  cases r with
  | error f => exact nofun
  | ok answer => exact nofun

theorem advances_of_goesOn {c' : Cursor} (h : c.nibble ≤ path.length)
    (hround : round proof path c = .ok (.goesOn c')) : c.Advances proof path c' := by
  rcases round_endsOrAdvances h with hlast | ⟨next, hnext, hadv⟩
  · exact absurd (hlast.symm.trans hround) (lastRound_ne_goesOn _ c')
  · cases hnext.symm.trans hround
    exact hadv

/-- No place that a round looks at is missing. -/
theorem round_ne_outOfRange (h : c.nibble ≤ path.length) :
    round proof path c ≠ .error .outOfRange := by
  rcases round_endsOrAdvances h with hlast | ⟨next, hnext, -⟩
  · rw [hlast]
    exact lastRound_ne_outOfRange _
  · rw [hnext]
    exact nofun

/-- The cursors of a walk, each with the number of rounds before it. -/
inductive Visits (root key : Hash) (proof : List Bytes) : Nat → Cursor → Prop
  | start {node} (hentry : proof[0]? = some node) (hroot : keccak256 node = root) :
      Visits root key proof 0 ⟨0, node, 0, 0⟩
  | next {n c c'} (run : Visits root key proof n c)
      (h : round proof (nibbles key.toList) c = .ok (.goesOn c')) :
      Visits root key proof (n + 1) c'

variable {root key : Hash} {c' : Cursor} {n : Nat}

/-- How many rounds the nodes of a proof have room for: one for each byte and one for each node. -/
def room (proof : List Bytes) : Nat := (proof.map fun node => node.length + 1).sum

theorem room_take_succ {index : Nat} {entry : Bytes} (h : proof[index]? = some entry) :
    room (proof.take (index + 1)) = room (proof.take index) + (entry.length + 1) := by
  rw [List.take_add_one, h, room, room]
  simp

theorem room_take_le (proof : List Bytes) (index : Nat) : room (proof.take index) ≤ room proof := by
  conv_rhs => rw [← List.take_append_drop index proof]
  rw [room, room, List.map_append, List.sum_append]
  exact Nat.le_add_right _ _

/-- What holds at a cursor after `n` rounds: the node is a part of the entry, no more of the key
is done than there is, and there was room for the rounds. -/
structure Cursor.InBounds (proof : List Bytes) (path : List Nibble) (n : Nat) (c : Cursor) :
    Prop where
  part : ∃ entry, proof[c.index]? = some entry ∧ c.node <:+: entry
  nibble_le : c.nibble ≤ path.length
  rounds_lt : n + c.node.length < room (proof.take (c.index + 1))

theorem Cursor.inBounds_start {node : Bytes} (hentry : proof[0]? = some node) :
    Cursor.InBounds proof path 0 ⟨0, node, 0, 0⟩ where
  part := ⟨node, hentry, List.infix_rfl⟩
  nibble_le := Nat.zero_le _
  rounds_lt := by
    rw [room_take_succ hentry]
    simp only [Nat.zero_add]
    omega

/-- A walk that goes on from a cursor in bounds comes to a cursor in bounds. -/
theorem Cursor.InBounds.next (inv : c.InBounds proof path n) (hadv : c.Advances proof path c') :
    c'.InBounds proof path (n + 1) := by
  have hrounds := inv.rounds_lt
  rcases hadv.place with ⟨hindex, hpart, hshort⟩ | ⟨hindex, hentry⟩
  · obtain ⟨entry, hentry, hwhole⟩ := inv.part
    refine ⟨⟨entry, by rw [hindex, hentry], hpart.trans hwhole⟩, hadv.nibble_le, ?_⟩
    rw [hindex]
    omega
  · refine ⟨⟨c'.node, hentry, List.infix_rfl⟩, hadv.nibble_le, ?_⟩
    rw [room_take_succ hentry, hindex]
    omega

theorem Visits.inBounds (run : Visits root key proof n c) :
    c.InBounds proof (nibbles key.toList) n := by
  induction run with
  | start hentry hroot => exact Cursor.inBounds_start hentry
  | next run h ih => exact ih.next (advances_of_goesOn ih.nibble_le h)

/-- There is room for every round of a walk. -/
theorem Visits.lt_room (run : Visits root key proof n c) : n < room proof := by
  have hrounds := run.inBounds.rounds_lt
  have hroom := room_take_le proof (c.index + 1)
  omega

/-- A walk that has begun has a last round, with the result of what was left to walk. -/
theorem Visits.exists_last (run : Visits root key proof n c) :
    ∃ m last, Visits root key proof m last ∧
      round proof (nibbles key.toList) last =
        lastRound (c.walk proof (nibbles key.toList)) := by
  -- What runs out is the room that is left for more rounds.
  induction hleft : room proof - n using Nat.strongRecOn generalizing n c with
  | ind left ih =>
      rcases round_endsOrAdvances run.inBounds.nibble_le with hlast | ⟨next, hnext, hadv⟩
      · exact ⟨n, c, run, hlast⟩
      · have run' := run.next hnext
        have hroom := run.lt_room
        rw [hadv.walk_eq]
        exact ih (room proof - (n + 1)) (by omega) run' rfl

/-- A walk has begun at a first node with the expected hash. -/
theorem Visits.exists_root (run : Visits root key proof n c) :
    ∃ node, proof[0]? = some node ∧ keccak256 node = root := by
  induction run with
  | start hentry hroot => exact ⟨_, hentry, hroot⟩
  | next run h ih => exact ih

/-- A lookup whose walk begins is what is left to walk at the root. -/
theorem lookup_eq_walk {node : Bytes} (hentry : proof[0]? = some node)
    (hroot : keccak256 node = root) :
    lookup root key proof = Cursor.walk ⟨0, node, 0, 0⟩ proof (nibbles key.toList) := by
  cases proof with
  | nil => cases hentry
  | cons first later =>
      cases hentry
      exact if_pos hroot

/-- A lookup whose walk does not begin is refused. -/
theorem exists_lookup_eq_error (h : ¬ ∃ node, proof[0]? = some node ∧ keccak256 node = root) :
    ∃ f, lookup root key proof = .error f := by
  cases proof with
  | nil => exact ⟨_, rfl⟩
  | cons first later => exact ⟨_, if_neg fun hroot => h ⟨first, rfl, hroot⟩⟩

theorem length_nibbles_toList (key : Hash) : (nibbles key.toList).length = 64 := by
  rw [length_nibbles, key.length_toList]

/-- Walks stay in bounds and end, whatever the root, the key and the nodes are. Cutting a list
ends as reading it does, so no cut falls outside. In every round of a walk the entry is one of the
proof, the node lies in one piece in it, at most all 64 nibbles of the key are done, and nothing
that is looked at is out of range; a round that goes on enters a shorter part of its node or takes
the next entry. There are at most as many rounds as the nodes have bytes, with one more for each
node. A walk has a last round, with the result of the lookup, unless it does not even begin and
the lookup is refused. -/
theorem walk_stays_in_bounds (root key : Hash) (proof : List Bytes) :
    (∀ bs, Rlp.cutList bs = (Rlp.decodeList bs).mapError .fault) ∧
    (∀ n c, Visits root key proof n c →
      c.index < proof.length ∧
      (∃ entry, proof[c.index]? = some entry ∧ c.node <:+: entry) ∧
      c.nibble ≤ 64 ∧
      round proof (nibbles key.toList) c ≠ .error .outOfRange ∧
      (∀ c', round proof (nibbles key.toList) c = .ok (.goesOn c') →
        (c'.index = c.index ∧ c'.node <:+: c.node ∧ c'.node.length < c.node.length) ∨
          c'.index = c.index + 1) ∧
      n < (proof.map fun node => node.length + 1).sum) ∧
    ((∃ n c, Visits root key proof n c ∧
        round proof (nibbles key.toList) c = lastRound (lookup root key proof)) ∨
      (∀ n c, ¬ Visits root key proof n c) ∧ ∃ f, lookup root key proof = .error f) := by
  refine ⟨Rlp.cutList_eq, ?_, ?_⟩
  · intro n c run
    have inv := run.inBounds
    obtain ⟨entry, hentry, hpart⟩ := inv.part
    have hlt : c.index < proof.length := (List.getElem?_eq_some_iff.mp hentry).1
    have hnibble : c.nibble ≤ 64 := length_nibbles_toList key ▸ inv.nibble_le
    refine ⟨hlt, ⟨entry, hentry, hpart⟩, hnibble, round_ne_outOfRange inv.nibble_le, ?_,
      run.lt_room⟩
    intro c' hround
    exact (advances_of_goesOn inv.nibble_le hround).place.imp_right And.left
  · by_cases hbegins : ∃ node, proof[0]? = some node ∧ keccak256 node = root
    · obtain ⟨node, hentry, hroot⟩ := hbegins
      have hstart : Visits root key proof 0 ⟨0, node, 0, 0⟩ := .start hentry hroot
      obtain ⟨n, c, run, hlast⟩ := hstart.exists_last
      exact Or.inl ⟨n, c, run, by rw [hlast, lookup_eq_walk hentry hroot]⟩
    · exact Or.inr ⟨fun n c run => hbegins run.exists_root, exists_lookup_eq_error hbegins⟩

/-- An extension by no nibble whose child is embedded: a round that uses up neither key nor
proof. -/
theorem round_emptyExtension {child : Bytes} (h : Rlp.decodeList c.node = .ok [[], child])
    (hshort : child.length < 32) (hle : c.nibble ≤ path.length) :
    round proof path c = .ok (.goesOn ⟨c.index, child, c.nibble, c.depth + 1⟩) := by
  have hstep : step [[], child] (path.drop c.nibble) = some (.below child (path.drop c.nibble)) :=
    rfl
  have hdone : path.length - (path.drop c.nibble).length = c.nibble := by
    rw [List.length_drop]
    omega
  have hread : readNode path c.nibble c.depth [[], child] = .ok (.child child c.nibble) := by
    rw [readNode_eq hle, hstep]
    simp only [findingOf, hdone]
  simp only [round, Rlp.cutList_eq, h, mapError_ok, bind, Except.bind, hread]
  exact if_pos hshort

/-- An extension by no nibble to an empty child. -/
def innermostNode : Bytes := [0xc2, 0x80, 0x80]

/-- Extensions by no nibble around `innermostNode`, one inside the other. -/
def nestedNode : Bytes := [0xc6, 0x80, 0xc4, 0x80, 0xc2, 0x80, 0x80]

theorem visits_nestedNode :
    Visits (keccak256 nestedNode) (bytesOfU256 0) [nestedNode] 2 ⟨0, innermostNode, 0, 2⟩ := by
  have houter : Rlp.decodeList nestedNode = .ok [[], [0xc4, 0x80, 0xc2, 0x80, 0x80]] :=
    @Rlp.decodeList_wrapList [.string [], .list [0x80, 0xc2, 0x80, 0x80]] (by decide)
  have hmiddle : Rlp.decodeList [0xc4, 0x80, 0xc2, 0x80, 0x80] = .ok [[], innermostNode] :=
    @Rlp.decodeList_wrapList [.string [], .list [0x80, 0x80]] (by decide)
  have hstart : Visits (keccak256 nestedNode) (bytesOfU256 0) [nestedNode] 0
      ⟨0, nestedNode, 0, 0⟩ := .start rfl rfl
  have hfirst := hstart.next (round_emptyExtension houter (by decide) (Nat.zero_le _))
  exact hfirst.next (round_emptyExtension hmiddle (by decide) (Nat.zero_le _))

theorem round_innermostNode :
    round [nestedNode] (nibbles (bytesOfU256 0).toList) ⟨0, innermostNode, 0, 2⟩ =
      .ok (.goesOn ⟨0, [], 0, 3⟩) := by
  have hinner : Rlp.decodeList innermostNode = .ok [[], []] :=
    @Rlp.decodeList_wrapList [.string [], .string []] (by decide)
  exact round_emptyExtension hinner (by decide) (Nat.zero_le _)

/-- A node of seven bytes keeps a walk busy for four rounds, of the eight there is room for. The
third goes on inside the node, and the fourth finds nothing to read there. -/
theorem walk_stays_in_bounds_nested :
    (Visits (keccak256 nestedNode) (bytesOfU256 0) [nestedNode] 2 ⟨0, innermostNode, 0, 2⟩ ∧
      round [nestedNode] (nibbles (bytesOfU256 0).toList) ⟨0, innermostNode, 0, 2⟩ =
        .ok (.goesOn ⟨0, [], 0, 3⟩) ∧
      [] <:+: innermostNode) ∧
    Visits (keccak256 nestedNode) (bytesOfU256 0) [nestedNode] 3 ⟨0, [], 0, 3⟩ ∧
      round [nestedNode] (nibbles (bytesOfU256 0).toList) ⟨0, [], 0, 3⟩ ≠ .error .outOfRange ∧
      3 < ([nestedNode].map fun node => node.length + 1).sum := by
  have hrounds := (walk_stays_in_bounds (keccak256 nestedNode) (bytesOfU256 0) [nestedNode]).2.1
  have hlast := visits_nestedNode.next round_innermostNode
  obtain ⟨-, -, -, -, hgoes, -⟩ := hrounds 2 _ visits_nestedNode
  obtain ⟨-, -, -, hrange, -, hroom⟩ := hrounds 3 _ hlast
  refine ⟨⟨visits_nestedNode, round_innermostNode, ?_⟩, hlast, hrange, hroom⟩
  rcases hgoes _ round_innermostNode with ⟨-, hpart, -⟩ | hindex
  · exact hpart
  · cases hindex

end UnlockProof.Trie

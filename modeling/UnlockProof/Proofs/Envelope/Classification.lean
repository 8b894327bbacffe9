import UnlockProof.Proofs.Failure
import UnlockProof.Proofs.Text.LowerCase

/-!
# What error messages are taken for

The kind of failure that an error object reports follows from its message alone. What is written
around a phrase for lost state does not matter, and around a phrase for an unknown block only such
a phrase does. A message without any phrase is passed on as it is.

## Implementation notes

Phrases have no small sigma, so they are found or missed whichever sigmas of the message end a
word. The statements say so by leaving the rule open.
-/

namespace UnlockProof

/-- The kinds of failures that a caller tells apart. -/
inductive Failure.Kind where
  | invalidInput
  | encodingMismatch
  | proofUnavailable
  | blockNotFound
  | networkFailure
  | rpc
  | schemaMismatch
deriving DecidableEq

/-- The kind of a failure. -/
def Failure.kind : Failure → Kind
  | invalidInput _ => .invalidInput
  | encodingMismatch .. => .encodingMismatch
  | proofUnavailable .. => .proofUnavailable
  | blockNotFound _ => .blockNotFound
  | network .. | offline _ => .networkFailure
  | rpc .. => .rpc
  | schema _ => .schemaMismatch

namespace ErrorObject

variable {e o : ErrorObject} {message message' : String} {phrases : List String}
  {block block' : UInt64}

theorem contains_iff {phrase cs : List Char} : contains phrase cs = true ↔ phrase <:+: cs := by
  induction cs with
  | nil => rw [contains, List.isEmpty_iff, List.infix_nil]
  | cons c cs ih =>
      rw [contains, Bool.or_eq_true, List.isPrefixOf_iff_prefix, ih, List.infix_cons_iff]

theorem mentions_eq_true_iff :
    mentions message phrases = true ↔
      ∃ p ∈ phrases, p.toList <:+: Text.lower message.toList := by
  simp only [mentions, List.any_eq_true, contains_iff]

/-- A message mentions whatever a part of it does. -/
theorem mentions_of_isInfix (h : message.toList <:+: message'.toList)
    (hmentions : mentions message phrases = true) : mentions message' phrases = true := by
  obtain ⟨p, hp, hpart⟩ := mentions_eq_true_iff.mp hmentions
  exact mentions_eq_true_iff.mpr ⟨p, hp, hpart.trans (Text.lower_isInfix h)⟩

/-- Messages that differ in the case of ASCII letters mention the same. -/
theorem mentions_congr
    (h : message.toList.map Char.toLower = message'.toList.map Char.toLower)
    (phrases : List String) : mentions message phrases = mentions message' phrases := by
  rw [mentions, mentions, Text.lower_eq_of_map_toLower_eq h]

/-- Says that one of the phrases stands in the lower case of a message, by a rule for the sigmas
at the ends of its words. -/
def Mentions (ends : Text.WordEnd) (message : String) (phrases : List String) : Prop :=
  ∃ p ∈ phrases, p.toList <:+: Text.lowerWithFinals ends message.toList

theorem sigma_not_mem_phrase : ∀ p ∈ prunedPhrases ++ unknownBlockPhrases,
    'σ' ∉ p.toList ∧ 'ς' ∉ p.toList := by
  decide

theorem mentions_iff (ends : Text.WordEnd) (h : phrases ⊆ prunedPhrases ++ unknownBlockPhrases) :
    mentions message phrases = true ↔ Mentions ends message phrases := by
  rw [mentions_eq_true_iff]
  refine exists_congr fun p => and_congr_right fun hp => ?_
  obtain ⟨hsigma, hfinal⟩ := sigma_not_mem_phrase p (h hp)
  exact (Text.isInfix_lowerWithFinals_iff ends hsigma hfinal).symm

theorem mentions_pruned_iff (ends : Text.WordEnd) :
    mentions message prunedPhrases = true ↔ Mentions ends message prunedPhrases :=
  mentions_iff ends (List.subset_append_left _ _)

theorem mentions_unknownBlock_iff (ends : Text.WordEnd) :
    mentions message unknownBlockPhrases = true ↔ Mentions ends message unknownBlockPhrases :=
  mentions_iff ends (List.subset_append_right _ _)

/-- What an error object is taken for, with what its message mentions. -/
theorem classify_cases (e : ErrorObject) (block : UInt64) :
    (mentions e.message prunedPhrases = true ∧
        e.classify block = .proofUnavailable block (.reported e.message)) ∨
      (mentions e.message prunedPhrases = false ∧
        mentions e.message unknownBlockPhrases = true ∧
        e.classify block = .blockNotFound block) ∨
      (mentions e.message prunedPhrases = false ∧
        mentions e.message unknownBlockPhrases = false ∧
        e.classify block = .rpc e.code e.message) := by
  rw [classify]
  by_cases hpruned : mentions e.message prunedPhrases = true
  · exact .inl ⟨hpruned, if_pos hpruned⟩
  · rw [if_neg hpruned]
    rw [Bool.not_eq_true] at hpruned
    by_cases hunknown : mentions e.message unknownBlockPhrases = true
    · exact .inr (.inl ⟨hpruned, hunknown, if_pos hunknown⟩)
    · exact .inr (.inr ⟨hpruned, Bool.eq_false_iff.mpr hunknown, if_neg hunknown⟩)

theorem kind_eq_proofUnavailable_iff :
    (e.classify block).kind = .proofUnavailable ↔ mentions e.message prunedPhrases = true := by
  rcases e.classify_cases block with ⟨hpruned, h⟩ | ⟨hpruned, -, h⟩ | ⟨hpruned, -, h⟩
  · simp [h, hpruned, Failure.kind]
  · simp [h, hpruned, Failure.kind]
  · simp [h, hpruned, Failure.kind]

theorem kind_eq_blockNotFound_iff :
    (e.classify block).kind = .blockNotFound ↔
      ¬ mentions e.message prunedPhrases = true ∧
        mentions e.message unknownBlockPhrases = true := by
  rcases e.classify_cases block with ⟨hpruned, h⟩ | ⟨hpruned, hunknown, h⟩ |
    ⟨hpruned, hunknown, h⟩
  · simp [h, hpruned, Failure.kind]
  · simp [h, hpruned, hunknown, Failure.kind]
  · simp [h, hunknown, Failure.kind]

theorem kind_eq_rpc_iff :
    (e.classify block).kind = .rpc ↔
      ¬ mentions e.message prunedPhrases = true ∧
        ¬ mentions e.message unknownBlockPhrases = true := by
  rcases e.classify_cases block with ⟨hpruned, h⟩ | ⟨-, hunknown, h⟩ | ⟨hpruned, hunknown, h⟩
  · simp [h, hpruned, Failure.kind]
  · simp [h, hunknown, Failure.kind]
  · simp [h, hpruned, hunknown, Failure.kind]

/-- What is passed on is passed on as it is. -/
theorem eq_rpc_of_kind_eq_rpc (h : (e.classify block).kind = .rpc) :
    e.classify block = .rpc e.code e.message := by
  obtain ⟨hpruned, hunknown⟩ := kind_eq_rpc_iff.mp h
  rw [classify, if_neg hpruned, if_neg hunknown]

/-- Messages that mention the same are of one kind. -/
theorem kind_congr (h : ∀ phrases, mentions o.message phrases = mentions e.message phrases) :
    (o.classify block').kind = (e.classify block).kind := by
  rw [classify, classify, h, h]
  split
  case isTrue => rfl
  case isFalse =>
    split
    case isTrue => rfl
    case isFalse => rfl

/-- The kind of an error is that of its message, whatever the case of its ASCII letters. Around a
message for lost state nothing changes it, and around one for an unknown block only a phrase for
lost state does. Without any phrase the code and the message are passed on as they are. The endpoint
is to blame in each case. -/
theorem classify_by_message (e : ErrorObject) (block : UInt64) :
    (∀ (o : ErrorObject) block', o.message = e.message →
      (o.classify block').kind = (e.classify block).kind) ∧
    (∀ (o : ErrorObject) block',
      o.message.toList.map Char.toLower = e.message.toList.map Char.toLower →
      (o.classify block').kind = (e.classify block).kind) ∧
    (∀ (o : ErrorObject) block', e.message.toList <:+: o.message.toList →
      ((e.classify block).kind = .proofUnavailable →
        (o.classify block').kind = .proofUnavailable) ∧
      ((e.classify block).kind = .blockNotFound →
        (o.classify block').kind = .blockNotFound ∨
          (o.classify block').kind = .proofUnavailable)) ∧
    (∀ ends,
      ((e.classify block).kind = .proofUnavailable ↔ Mentions ends e.message prunedPhrases) ∧
      ((e.classify block).kind = .blockNotFound ↔
        ¬ Mentions ends e.message prunedPhrases ∧ Mentions ends e.message unknownBlockPhrases) ∧
      ((e.classify block).kind = .rpc ↔
        ¬ Mentions ends e.message prunedPhrases ∧
          ¬ Mentions ends e.message unknownBlockPhrases)) ∧
    ((e.classify block).kind = .rpc → e.classify block = .rpc e.code e.message) ∧
    (e.classify block).isEnvironmental = true := by
  refine ⟨?_, ?_, ?_, ?_, eq_rpc_of_kind_eq_rpc, isEnvironmental_classify e block⟩
  · intro o block' h
    exact kind_congr fun phrases => congrArg (mentions · phrases) h
  · intro o block' h
    exact kind_congr (mentions_congr h)
  · intro o block' h
    simp only [kind_eq_proofUnavailable_iff, kind_eq_blockNotFound_iff]
    refine ⟨mentions_of_isInfix h, ?_⟩
    rintro ⟨-, hunknown⟩
    by_cases hpruned : mentions o.message prunedPhrases = true
    · exact .inr hpruned
    · exact .inl ⟨hpruned, mentions_of_isInfix h hunknown⟩
  · intro ends
    rw [← mentions_pruned_iff, ← mentions_unknownBlock_iff]
    exact ⟨kind_eq_proofUnavailable_iff, kind_eq_blockNotFound_iff, kind_eq_rpc_iff⟩

/-- An error about an unknown block with a Kelvin sign in its phrase and a sigma at its end. -/
def kelvinError : ErrorObject := ⟨-32000, "Unknown bloc\u212a ΟΔΟΣ", none⟩

/-- An error whose message is that of `kelvinError` with more text around it. -/
def longerError : ErrorObject := ⟨3, "at 8: Unknown bloc\u212a ΟΔΟΣ; state PRUNED", some .null⟩

/-- An error about lost state. -/
def prunedError : ErrorObject := ⟨-32000, "state PRUNED", none⟩

/-- Neither other numbers nor other letters make another kind of an error, and of two phrases in a
longer message the one for lost state counts. -/
theorem classify_by_message_kelvinError :
    (kelvinError.classify 7).kind = .blockNotFound ∧
      ((⟨3, kelvinError.message, some .null⟩ : ErrorObject).classify 8).kind = .blockNotFound ∧
      ((⟨3, "UNKNOWN BLOC\u212a ΟΔΟΣ", none⟩ : ErrorObject).classify 8).kind = .blockNotFound ∧
      ((longerError.classify 8).kind = .blockNotFound ∨
        (longerError.classify 8).kind = .proofUnavailable) ∧
      (longerError.classify 8).kind = .proofUnavailable ∧
      (⟨-32602, "invalid argument", none⟩ : ErrorObject).classify 8 =
        .rpc (-32602) "invalid argument" := by
  obtain ⟨hmessage, hcase, hpart, -⟩ := classify_by_message kelvinError 7
  have hkind : (kelvinError.classify 7).kind = .blockNotFound := by decide
  have hpruned : (prunedError.classify 8).kind = .proofUnavailable := by decide
  refine ⟨hkind, ?_, ?_, ?_, ?_, ?_⟩
  · exact (hmessage _ 8 rfl).trans hkind
  · exact (hcase _ 8 (by decide)).trans hkind
  · exact (hpart longerError 8 (by decide)).2 hkind
  · exact ((classify_by_message prunedError 8).2.2.1 longerError 8 (by decide)).1 hpruned
  · exact (classify_by_message ⟨-32602, "invalid argument", none⟩ 8).2.2.2.2.1 (by decide)

end ErrorObject
end UnlockProof

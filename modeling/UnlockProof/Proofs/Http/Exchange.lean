import UnlockProof.Http.Exchange
import UnlockProof.Proofs.Envelope

/-!
# Exchanges over HTTP

What becomes of a response whose status reports no success and whose body carries no answer. It is
reported as a failure of the network unless its body is read as a blank envelope. Then the status
is not looked at, and the response counts as one with the result null.
-/

namespace UnlockProof.Exchange
open Outcome

variable {status : Nat} {body : String} {lacking : Nat} {block : UInt64}

/-- Says that a response comes whole with a body that is read as a blank envelope. -/
def ArrivesBlank (status : Nat) (body : String) (lacking : Nat) : Prop :=
  Http.isBodiless status = false ∧ lacking = 0 ∧ Response.IsBlankText body

/-- What is reported of a response without success that is no envelope. -/
def failingFault (status lacking : Nat) : NetworkFault :=
  if Http.isBodiless status = true ∨ lacking = 0 then .status status else .brokenBody

theorem envelope_of_response {x : Exchange} (h : x.response = .ok (status, body)) :
    x.envelope = (Response.ofText body).mapError fun f =>
      if Http.isSuccess status then .undecodable f else .status status := by
  rw [envelope, h]
  rfl

theorem envelope_of_undecodable {x : Exchange} {f : Json.Fault}
    (hstatus : Http.isSuccess status = false) (hx : x.response = .ok (status, body))
    (hbody : Response.ofText body = .error f) : x.envelope = .error (.status status) := by
  rw [envelope_of_response hx, hbody, mapError_error, hstatus]
  rfl

theorem response_of_bodiless (h : Http.isBodiless status = true) :
    (answered status body lacking).response = .ok (status, "") := if_pos h

theorem response_of_whole (h : Http.isBodiless status = false) :
    (answered status body 0).response = .ok (status, body) := by
  rw [response, h]
  rfl

theorem response_of_lacking (h : Http.isBodiless status = false) (hlacking : lacking ≠ 0) :
    (answered status body lacking).response = .error .brokenBody := by
  rw [response, if_neg (by simp [h]), if_neg hlacking]

theorem ofText_empty : Response.ofText "" = .error .endInValue := rfl

theorem envelope_of_arrivesBlank (h : ArrivesBlank status body lacking) :
    ∃ id, (answered status body lacking).envelope = .ok ⟨id, none, none⟩ := by
  obtain ⟨hbody, rfl, hblank⟩ := h
  obtain ⟨id, hid⟩ := Response.exists_ofText_eq_blank_iff.mpr hblank
  refine ⟨id, ?_⟩
  rw [envelope_of_response (response_of_whole hbody), hid, mapError_ok]

/-- A response without success whose body is no envelope is reported by its status, and one whose
body breaks off as such. -/
theorem envelope_of_not_arrivesBlank (hstatus : Http.isSuccess status = false)
    (hanswer : ¬ Response.CarriesAnswer body) (hblank : ¬ ArrivesBlank status body lacking) :
    (answered status body lacking).envelope = .error (failingFault status lacking) := by
  -- An empty body is no envelope, so it does not matter that such a response has none.
  by_cases hbody : Http.isBodiless status = true
  · rw [envelope_of_undecodable hstatus (response_of_bodiless hbody) ofText_empty, failingFault,
      if_pos (Or.inl hbody)]
  · rw [Bool.not_eq_true] at hbody
    by_cases hlacking : lacking = 0
    · subst hlacking
      obtain ⟨f, hf⟩ := Response.exists_ofText_eq_error hanswer fun htext =>
        hblank ⟨hbody, rfl, htext⟩
      rw [envelope_of_undecodable hstatus (response_of_whole hbody) hf, failingFault,
        if_pos (Or.inr rfl)]
    · rw [envelope, response_of_lacking hbody hlacking, failingFault,
        if_neg (by simp [hbody, hlacking])]
      rfl

section Result
variable {α : Type} {ofValue : Json.Value → Except Json.Fault α} {method : String} {x : Exchange}

theorem result_of_envelope_error {fault : NetworkFault} (h : x.envelope = .error fault) :
    x.result ofValue method block = .error (.network method fault) := by
  rw [result, h]
  rfl

theorem result_of_envelope_blank {id : Json.Value} (h : x.envelope = .ok ⟨id, none, none⟩) :
    x.result ofValue method block = .ok none := by
  rw [result, h]
  rfl

end Result

theorem answers_of_arrivesBlank (h : ArrivesBlank status body lacking) (block : UInt64) :
    (answered status body lacking).blockAnswer block = .ok none ∧
      (answered status body lacking).proofAnswer block =
        .error (.proofUnavailable block .nullProof) := by
  obtain ⟨id, henvelope⟩ := envelope_of_arrivesBlank h
  refine ⟨result_of_envelope_blank henvelope, ?_⟩
  rw [proofAnswer, result_of_envelope_blank henvelope]
  rfl

theorem fetchHeader_of_absent {post : Request → Exchange}
    (h : (post (.ofBlock block)).blockAnswer block = .ok none) :
    ((Endpoint.overHttp post).fetchHeader block).outcome = .error (.blockNotFound block) := by
  have houtcome : ((Endpoint.overHttp post).fetchHeader block).outcome =
      ((post (.ofBlock block)).blockAnswer block >>= BlockAnswer.toHeaderOf block) := rfl
  rw [houtcome, h]
  rfl

/-- A response without success that carries no answer is a failure of the network, unless its body
is read as a blank envelope. Then it counts as the result null: the block is not known, and the
proof is not to be had. -/
theorem failing_reported_unless_blank (hstatus : Http.isSuccess status = false)
    (hanswer : ¬ Response.CarriesAnswer body) (lacking : Nat) (block : UInt64) :
    (¬ ArrivesBlank status body lacking →
      (answered status body lacking).blockAnswer block =
          .error (.network Request.blockMethod (failingFault status lacking)) ∧
        (answered status body lacking).proofAnswer block =
          .error (.network Request.proofMethod (failingFault status lacking))) ∧
      (ArrivesBlank status body lacking →
        (answered status body lacking).blockAnswer block = .ok none ∧
          (answered status body lacking).proofAnswer block =
            .error (.proofUnavailable block .nullProof) ∧
          ∀ post : Request → Exchange, post (.ofBlock block) = answered status body lacking →
            ((Endpoint.overHttp post).fetchHeader block).outcome =
              .error (.blockNotFound block)) := by
  constructor
  · intro hblank
    have henvelope := envelope_of_not_arrivesBlank hstatus hanswer hblank
    refine ⟨result_of_envelope_error henvelope, ?_⟩
    rw [proofAnswer, result_of_envelope_error henvelope]
    rfl
  · intro hblank
    obtain ⟨hblock, hproof⟩ := answers_of_arrivesBlank hblank block
    exact ⟨hblock, hproof, fun post hpost => fetchHeader_of_absent (hpost ▸ hblock)⟩

theorem failing_reported_unless_blank_badGateway :
    Http.isSuccess 502 = false ∧
      (answered 502 "<html>" 0).blockAnswer 17034870 =
        .error (.network "eth_getBlockByNumber" (.status 502)) ∧
      (answered 502 "<html>" 0).proofAnswer 17034870 =
        .error (.network "eth_getProof" (.status 502)) := by
  have hread : Response.ofText "<html>" = .error .noValue := rfl
  have hanswer : ¬ Response.CarriesAnswer "<html>" := by
    rintro ⟨r, hr, -⟩
    cases hread.symm.trans hr
  have hblank : ¬ ArrivesBlank 502 "<html>" 0 := by
    rintro ⟨-, -, htext⟩
    obtain ⟨id, hid⟩ := Response.exists_ofText_eq_blank_iff.mpr htext
    cases hread.symm.trans hid
  exact ⟨rfl, (failing_reported_unless_blank rfl hanswer 0 17034870).1 hblank⟩

/-- How a gateway turns a request away in words of its own. -/
def rateLimited : String := "\x7b\"message\":\"rate limited\"\x7d"

theorem isBlankText_rateLimited : Response.IsBlankText rateLimited := by
  have hrender :
      rateLimited = (Json.Value.object [("message", .string "rate limited")]).render := by
    decide
  rw [hrender]
  exact Response.isBlankText_member "rate limited" (by decide)

/-- A request that a gateway turns away is taken for one whose block is not known or whose proof is
not to be had. -/
theorem rateLimited_taken_for_answer :
    Http.isSuccess 429 = false ∧ ¬ Response.CarriesAnswer rateLimited ∧
      (answered 429 rateLimited 0).blockAnswer 17034870 = .ok none ∧
      ((Endpoint.overHttp fun _ => answered 429 rateLimited 0).fetchHeader 17034870).outcome =
        .error (.blockNotFound 17034870) ∧
      (answered 429 rateLimited 0).proofAnswer 17034870 =
        .error (.proofUnavailable 17034870 .nullProof) := by
  have hblank : ArrivesBlank 429 rateLimited 0 := ⟨rfl, rfl, isBlankText_rateLimited⟩
  obtain ⟨hblock, hproof⟩ := answers_of_arrivesBlank hblank 17034870
  exact ⟨rfl, isBlankText_rateLimited.not_carriesAnswer, hblock, fetchHeader_of_absent hblock,
    hproof⟩

end UnlockProof.Exchange

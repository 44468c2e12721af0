import AggregateGateway.Gateway.Remote
import AggregateGateway.Http.Message
import AggregateGateway.Proofs.Http.Problems
import AggregateGateway.Proofs.Json.WrittenText

/-! Problems that pass from service to service. A caller finds the message in the document that a
service refused its request with, and what it answers in turn says the same. -/

namespace AggregateGateway

open Catalog (Failure)
open Http
open Time (Instant)

/-! ### The message of an answer -/

namespace Remote

variable {status : Status} {body : String}

theorem line_ne_empty (status : Status) : status.line ≠ "" := by
  intro h
  have hlist := congrArg String.toList h
  simp [Status.line] at hlist

theorem errorMessage_of_document {d : ProblemDocument}
    (hread : ProblemDocument.codec.decode (Text.utf8 body) = .ok d) (hd : d.message ≠ "") :
    errorMessage status body = d.message := by
  have hempty : d.message.isEmpty = false := by
    simpa using hd
  simp only [errorMessage, hread, hempty]
  rfl

theorem errorMessage_otherwise
    (h : ∀ d, ProblemDocument.codec.decode (Text.utf8 body) = .ok d → d.message = "") :
    errorMessage status body = if Text.isBlankText body then status.line else body := by
  cases hread : ProblemDocument.codec.decode (Text.utf8 body) with
  | error f =>
    simp only [errorMessage, hread]
    rfl
  | ok d =>
    simp only [errorMessage, hread, h d hread]
    rfl

theorem errorMessage_ne_empty (status : Status) (body : String) :
    errorMessage status body ≠ "" := by
  by_cases hsome : ∃ d, ProblemDocument.codec.decode (Text.utf8 body) = .ok d ∧ d.message ≠ ""
  · obtain ⟨d, hread, hd⟩ := hsome
    rw [errorMessage_of_document hread hd]
    exact hd
  · have hnone (d : ProblemDocument)
        (hread : ProblemDocument.codec.decode (Text.utf8 body) = .ok d) : d.message = "" :=
      Decidable.not_not.mp fun hd => hsome ⟨d, hread, hd⟩
    rw [errorMessage_otherwise hnone]
    split
    · exact line_ne_empty status
    · next hblank =>
      rintro rfl
      exact hblank rfl

end Remote

/-! ### Problem documents -/

theorem isText_problemDocument (d : ProblemDocument) :
    Text.IsText (ProblemDocument.codec.write d) := by
  apply Json.isText_writeRecord
  have hmember (name value : String) :
      Text.IsText (Json.writeString name ++ 0x3A :: Json.writeString value) :=
    Json.isText_member name (Json.isText_writeString value)
  intro m hm
  simp only [Json.Fields.required, Json.Fields.defaulted, Json.Fields.writeMembers, if_true,
    List.mem_cons, List.not_mem_nil, or_false] at hm
  rcases hm with rfl | rfl | rfl | rfl <;> exact hmember _ _

theorem utf8_lossyText_problem (p : Problem) (now : Instant) :
    Text.utf8 (Text.lossyText (p.body now)) = p.body now :=
  Text.utf8_lossyText (isText_problemDocument _)

theorem errorMessage_problem (status : Status) {p : Problem} (hp : p.message ≠ "") (now : Instant) :
    Remote.errorMessage status (Text.lossyText (p.body now)) = p.message := by
  refine Remote.errorMessage_of_document (d := p.document now) ?_ hp
  rw [utf8_lossyText_problem]
  exact (problemDocument_readsBack _).decode

/-! ### Failures -/

/-- The failures that stand for answers with a message. -/
inductive Refused (message : String) : Nat → Failure → Prop
  | notFound : Refused message 404 (.notFound message)
  | invalidInput : Refused message 422 (.invalidInput message)
  | unexpected {code : Nat} {status : UInt16} (hstatus : status.toNat = code)
      (hcode : code ≠ 404 ∧ code ≠ 422) : Refused message code (.unexpectedStatus status message)

/-- The code that a client is answered with when a service answered with `code`. -/
def passedOn (code : Nat) : Nat :=
  if code = 404 ∨ code = 422 ∨ 500 ≤ code ∧ code ≤ 599 then code else 502

theorem Refused.message_eq {message : String} {code : Nat} {f : Failure}
    (h : Refused message code f) : f.message = message := by
  cases h <;> rfl

theorem Refused.status_eq {message : String} {code : Nat} {f : Failure}
    (h : Refused message code f) : f.status = passedOn code := by
  cases h with
  | notFound | invalidInput => rfl
  | @unexpected _ status hstatus hcode =>
    subst hstatus
    have hrange : (500 ≤ status ∧ status ≤ 599) ↔ (500 ≤ status.toNat ∧ status.toNat ≤ 599) :=
      and_congr UInt16.le_iff_toNat_le UInt16.le_iff_toNat_le
    simp only [Failure.status, passedOn, hrange, hcode.1, hcode.2, false_or]

theorem Http.Status.eq_of_code {s t : Status} (h : s.code = t.code) : s = t := by
  cases s
  cases t
  cases h
  rfl

theorem refused_answerFailure (status : Status) (body : String) :
    Refused (Remote.errorMessage status body) status.code (Remote.answerFailure status body) := by
  have hcode : status.code < 1000 := status.code_lt
  have hother {other : Status} (h : ¬ status = other) : status.code ≠ other.code :=
    mt Status.eq_of_code h
  by_cases h404 : status = .notFound
  · subst h404
    exact .notFound
  · by_cases h422 : status = .unprocessable
    · subst h422
      exact .invalidInput
    · simp only [Remote.answerFailure, h404, h422, if_false]
      refine .unexpected ?_ ⟨hother h404, hother h422⟩
      rw [UInt16.toNat_ofNat', Nat.mod_eq_of_lt (by omega)]

theorem Refused.shown {message : String} {code : Nat} {f : Failure} (h : Refused message code f)
    (now : Instant) (path? : Option String) :
    (Response.problem now { Problem.ofFailure f with path := path? }).IsProblem now
      (path?.getD "") (passedOn code) message := by
  have hshown := Response.isProblem_of now { Problem.ofFailure f with path := path? }
  rwa [Problem.ofFailure_code, Problem.ofFailure_message, h.status_eq, h.message_eq] at hshown

theorem send_problem {network : Remote.Network} {outbound : Remote.Outbound} {status : Status}
    {p : Problem} {now : Instant} (hstatus : status.isSuccess = false) (hp : p.message ≠ "")
    (hanswer : network outbound = .answered status (p.body now)) (s : Catalog.Service) :
    ∃ failure, Remote.send network s (.ok outbound) = .error failure ∧
      Refused p.message status.code failure := by
  refine ⟨Remote.answerFailure status (Text.lossyText (p.body now)), ?_, ?_⟩
  · simp only [Remote.send, hanswer, hstatus]
    rfl
  · have hrefused := refused_answerFailure status (Text.lossyText (p.body now))
    rwa [errorMessage_problem status hp now] at hrefused

/-- The message of a problem survives a hop between services, and no refusal goes without one. -/
theorem problem_messages_pass_on :
    (∀ (network : Remote.Network) (outbound : Remote.Outbound) (s : Catalog.Service)
        (status : Status) (path message : String) (now : Instant),
      400 ≤ status.code → status.code ≤ 599 → message ≠ "" →
      network outbound =
        .answered status (((Problem.of status message).withPath path).body now) →
      ∃ failure, Remote.send network s (.ok outbound) = .error failure ∧
        Refused message status.code failure ∧
        ∀ later path?, (Response.problem later
          { Problem.ofFailure failure with path := path? }).IsProblem later (path?.getD "")
            (passedOn status.code) message) ∧
    ∀ (status : Status) (body : String),
      Remote.errorMessage status body ≠ "" ∧
      (∀ d, ProblemDocument.codec.decode (Text.utf8 body) = .ok d → d.message ≠ "" →
        Remote.errorMessage status body = d.message) ∧
      ((∀ d, ProblemDocument.codec.decode (Text.utf8 body) = .ok d → d.message = "") →
        Remote.errorMessage status body =
          if Text.isBlankText body then status.line else body) := by
  constructor
  · intro network outbound s status path message now hlow hhigh hmessage hanswer
    have hstatus : status.isSuccess = false := by
      simp only [Status.isSuccess, Bool.and_eq_false_iff, decide_eq_false_iff_not]
      omega
    obtain ⟨failure, hsend, hrefused⟩ := send_problem hstatus hmessage hanswer s
    exact ⟨failure, hsend, hrefused, hrefused.shown⟩
  · intro status body
    exact ⟨Remote.errorMessage_ne_empty status body, fun _ => Remote.errorMessage_of_document,
      Remote.errorMessage_otherwise⟩

theorem problem_messages_pass_on_of_teapot :
    let teapot : Status := ⟨418, by decide, by decide⟩
    let message := "no \"coffee\"\n\ttoday \\ désolé ☕"
    let newYear : Time.Date := ⟨2025, 1, 1, by decide, by decide, by decide, by decide, by decide,
      by decide⟩
    let now : Instant := ⟨newYear, 0, 0, by decide, by decide, by decide⟩
    let outbound : Remote.Outbound :=
      ⟨⟨"http", some ⟨some "pot", none⟩, "/item/1", none, none⟩, none, none⟩
    let network : Remote.Network := fun _ =>
      .answered teapot (((Problem.of teapot message).withPath "/item/1").body now)
    ∃ failure, Remote.send network .item (.ok outbound) = .error failure ∧
      Refused message 418 failure ∧
      ∀ later path?, (Response.problem later
        { Problem.ofFailure failure with path := path? }).IsProblem later (path?.getD "") 502
          message := by
  intro teapot message newYear now outbound network
  exact problem_messages_pass_on.1 network outbound .item teapot "/item/1" message now (by decide)
    (by decide) (by decide) rfl

end AggregateGateway

import AggregateGateway.Http.Extract
import AggregateGateway.Proofs.Json.Members
import AggregateGateway.Proofs.Time.ReadBack

/-! Problems as a client sees them. The document tells the status of the response by its name, and
the correlation identifier takes no other header away. -/

namespace AggregateGateway.Http

open Catalog (Failure)
open Json (text_readsBack)
open Time (Instant)

theorem problemDocument_readsBack (d : ProblemDocument) : ProblemDocument.codec.ReadsBack d :=
  Json.record_readsBack
    (.required (by simp) (Time.instant_readsBack _) <| .defaulted (by simp) (text_readsBack _) <|
      .required (by simp) (text_readsBack _) <| .defaulted (by simp) (text_readsBack _) trivial)
    rfl

namespace Problem

theorem code_of_status {code : Nat} (h : 100 ≤ code ∧ code < 1000) (fallback : Status) :
    ((Status.of? code).getD fallback).code = code := by
  simp only [Status.of?, h, and_self, dite_true, Option.getD_some]

theorem status_bounds (f : Failure) : 100 ≤ f.status ∧ f.status < 1000 := by
  cases f with
  | unexpectedStatus status m =>
    by_cases h : 500 ≤ status ∧ status ≤ 599
    · have hlow : 500 ≤ status.toNat := UInt16.le_iff_toNat_le.mp h.1
      have hhigh : status.toNat ≤ 599 := UInt16.le_iff_toNat_le.mp h.2
      simp only [Failure.status, h, and_self, if_true]
      omega
    · simp only [Failure.status, h, if_false]
      omega
  | badRequest | invalidInput | notFound | timeout | transport | circuitOpen | eventSubmission =>
    simp only [Failure.status]
    omega

theorem ofFailure_code (f : Failure) : (ofFailure f).status.code = f.status := by
  have hcode := code_of_status (status_bounds f) .badGateway
  cases f with
  | badRequest | invalidInput | notFound => rfl
  | timeout | transport | circuitOpen | unexpectedStatus | eventSubmission => exact hcode

theorem ofFailure_message (f : Failure) : (ofFailure f).message = f.message := by
  cases f <;> rfl

end Problem

namespace Response

/-- The response is a problem document for the request with the given path. -/
structure IsProblem (r : Response) (now : Instant) (path : String) (code : Nat)
    (message : String) : Prop where
  code_eq : r.status.code = code
  isJson : r.header? "content-type" = some "application/json"
  document : ProblemDocument.codec.decode r.body = .ok ⟨now, path, r.status.name, message⟩

theorem contentType_json {α : Type} (status : Status) (c : Json.Codec α) (a : α) :
    (json status c a).header? "content-type" = some "application/json" := by
  simp [json, header?, isSameName, contentType]

theorem isProblem_of (now : Instant) (p : Problem) :
    (problem now p).IsProblem now (p.path.getD "") p.status.code p.message where
  code_eq := rfl
  isJson := contentType_json _ _ _
  document := (problemDocument_readsBack _).decode

theorem problem_isProblem (now : Instant) (path : String) (p : Problem) :
    (problem now (p.withPath path)).IsProblem now path p.status.code p.message :=
  isProblem_of now (p.withPath path)

theorem header?_setHeader {name other : String} (h : isSameName other name = false)
    (r : Response) (value : String) : (r.setHeader other value).header? name = r.header? name := by
  -- what is taken away or added has the other name
  have hdistinct (n : String) :
      decide ((!isSameName n other) = true ∧ isSameName n name = true) = isSameName n name := by
    by_cases hn : isSameName n other = true
    · have hother : isSameName n name = isSameName other name := by
        simp only [isSameName, beq_iff_eq] at hn ⊢
        rw [hn]
      simp [hother, h]
    · simp [hn]
  simp only [header?, setHeader, List.find?_append, List.find?_filter, hdistinct, List.find?_cons,
    h, List.find?_nil, Option.or_none]

theorem contentType_correlated (id : Uuid) (r : Response) :
    (r.correlated id).header? "content-type" = r.header? "content-type" :=
  header?_setHeader (by decide +kernel) r id.text

theorem IsProblem.correlated {r : Response} {now : Instant} {path message : String} {code : Nat}
    (h : r.IsProblem now path code message) (id : Uuid) :
    (r.correlated id).IsProblem now path code message where
  code_eq := h.code_eq
  isJson := (contentType_correlated id r).trans h.isJson
  document := h.document

end Response

end AggregateGateway.Http

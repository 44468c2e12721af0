import AggregateGateway.Gateway.Write
import AggregateGateway.Proofs.Publish.QueuedJobs

/-! What a batch comes to that one worker has accepted. The acknowledgements decide it in the order
of the submissions: the first job that was refused or lost counts, and a job without an
acknowledgement is one that the worker still holds. -/

namespace AggregateGateway

open Publish

variable {β : Type} {count i : Nat} {t : Traffic β} {job : Job} {jobs : List Job}

/-- The channel has accepted the jobs up to one that has some property. -/
def AcceptedUpTo (t : Traffic β) (i : Nat) (jobs : List Job) (p : Job → Prop) : Prop :=
  ∃ first job rest, jobs = first ++ job :: rest ∧ (∀ j ∈ first, Fate t i j (.ok ())) ∧ p job

/-! ### One acknowledgement after the other -/

theorem outcome_of_held (h : Answered count t) (hj : job ∈ (t.pool.worker i).held)
    (ns : List Nat) : outcome (job.number :: ns) t.acknowledgements = none := by
  simp only [outcome, h.not_answered_of_held hj]

section Settled

variable (h : Answered count t) (hj : job ∈ acceptedFor count i t.history) (ns : List Nat)
include h hj

theorem find?_of_fate {r : Except SubmissionError Unit} (hr : Fate t i job r) :
    t.acknowledgements.find? (fun a => a.number == job.number) = some ⟨job.number, r⟩ :=
  h.find?_eq_some_iff.mpr (h.answer_of_fate hj hr)

theorem outcome_of_accepted (hr : Fate t i job (.ok ())) :
    outcome (job.number :: ns) t.acknowledgements = outcome ns t.acknowledgements := by
  simp only [outcome, find?_of_fate h hj hr]

theorem outcome_of_failed {e : SubmissionError} (hr : Fate t i job (.error e)) :
    outcome (job.number :: ns) t.acknowledgements = some (.error e) := by
  simp only [outcome, find?_of_fate h hj hr]

end Settled

section Batch

variable (h : Answered count t)
include h

theorem outcome_append (hjobs : ∀ job ∈ jobs, job ∈ acceptedFor count i t.history)
    (hok : ∀ job ∈ jobs, Fate t i job (.ok ())) (ns : List Nat) :
    outcome (jobs.map Job.number ++ ns) t.acknowledgements = outcome ns t.acknowledgements := by
  induction jobs with
  | nil => rfl
  | cons job jobs ih =>
    rw [List.forall_mem_cons] at hjobs hok
    rw [List.map_cons, List.cons_append, outcome_of_accepted h hjobs.1 _ hok.1, ih hjobs.2 hok.2]

theorem outcome_of_all_accepted (hjobs : ∀ job ∈ jobs, job ∈ acceptedFor count i t.history)
    (hok : ∀ job ∈ jobs, Fate t i job (.ok ())) :
    outcome (jobs.map Job.number) t.acknowledgements = some (.ok ()) := by
  simpa [outcome] using outcome_append h hjobs hok []

theorem outcome_of_first_failed {e : SubmissionError}
    (hjobs : ∀ job ∈ jobs, job ∈ acceptedFor count i t.history)
    (hfirst : AcceptedUpTo t i jobs fun job => Fate t i job (.error e)) :
    outcome (jobs.map Job.number) t.acknowledgements = some (.error e) := by
  obtain ⟨first, job, rest, rfl, hok, hr⟩ := hfirst
  rw [List.forall_mem_append, List.forall_mem_cons] at hjobs
  rw [List.map_append, List.map_cons, outcome_append h hjobs.1 hok,
    outcome_of_failed h hjobs.2.1 _ hr]

theorem outcome_of_first_held (hjobs : ∀ job ∈ jobs, job ∈ acceptedFor count i t.history)
    (hfirst : AcceptedUpTo t i jobs (· ∈ (t.pool.worker i).held)) :
    outcome (jobs.map Job.number) t.acknowledgements = none := by
  obtain ⟨first, job, rest, rfl, hok, hheld⟩ := hfirst
  rw [List.forall_mem_append, List.forall_mem_cons] at hjobs
  rw [List.map_append, List.map_cons, outcome_append h hjobs.1 hok, outcome_of_held h hheld]

end Batch

theorem AcceptedUpTo.cons {p : Job → Prop} (hr : Fate t i job (.ok ()))
    (h : AcceptedUpTo t i jobs p) : AcceptedUpTo t i (job :: jobs) p := by
  obtain ⟨first, job', rest, rfl, hok, hp⟩ := h
  exact ⟨job :: first, job', rest, rfl, List.forall_mem_cons.mpr ⟨hr, hok⟩, hp⟩

theorem AcceptedUpTo.head {p : Job → Prop} (hp : p job) : AcceptedUpTo t i (job :: jobs) p :=
  ⟨[], job, jobs, rfl, by simp, hp⟩

/-- How far a batch has come. -/
theorem accepted_or_first (ho : Ordered count t)
    (hjobs : ∀ job ∈ jobs, job ∈ acceptedFor count i t.history) :
    (∀ job ∈ jobs, Fate t i job (.ok ())) ∨
      (∃ e, AcceptedUpTo t i jobs fun job => Fate t i job (.error e)) ∨
      AcceptedUpTo t i jobs (· ∈ (t.pool.worker i).held) := by
  induction jobs with
  | nil => exact .inl (by simp)
  | cons job jobs ih =>
    rw [List.forall_mem_cons] at hjobs
    rcases Answered.held_or_fate ho hjobs.1 with hheld | ⟨⟨⟩ | ⟨⟩, hr⟩
    · exact .inr (.inr (.head hheld))
    · exact .inr (.inl ⟨_, .head hr⟩)
    · rcases ih hjobs.2 with hok | ⟨e, hfirst⟩ | hfirst
      · exact .inl (List.forall_mem_cons.mpr ⟨hr, hok⟩)
      · exact .inr (.inl ⟨e, hfirst.cons hr⟩)
      · exact .inr (.inr (hfirst.cons hr))

section Decided

variable (h : Answered count t) (ho : Ordered count t)
  (hjobs : ∀ job ∈ jobs, job ∈ acceptedFor count i t.history)
include h ho hjobs

theorem outcome_eq_ok_iff : outcome (jobs.map Job.number) t.acknowledgements = some (.ok ()) ↔
    ∀ job ∈ jobs, Fate t i job (.ok ()) := by
  refine ⟨fun hout => ?_, outcome_of_all_accepted h hjobs⟩
  rcases accepted_or_first ho hjobs with hok | ⟨e, hfirst⟩ | hfirst
  · exact hok
  · simp [outcome_of_first_failed h hjobs hfirst] at hout
  · simp [outcome_of_first_held h hjobs hfirst] at hout

theorem outcome_eq_error_iff {e : SubmissionError} :
    outcome (jobs.map Job.number) t.acknowledgements = some (.error e) ↔
      AcceptedUpTo t i jobs fun job => Fate t i job (.error e) := by
  refine ⟨fun hout => ?_, outcome_of_first_failed h hjobs⟩
  rcases accepted_or_first ho hjobs with hok | ⟨e', hfirst⟩ | hfirst
  · simp [outcome_of_all_accepted h hjobs hok] at hout
  · rw [outcome_of_first_failed h hjobs hfirst] at hout
    obtain rfl : e' = e := by simpa using hout
    exact hfirst
  · simp [outcome_of_first_held h hjobs hfirst] at hout

theorem outcome_eq_none_iff : outcome (jobs.map Job.number) t.acknowledgements = none ↔
    AcceptedUpTo t i jobs (· ∈ (t.pool.worker i).held) := by
  refine ⟨fun hout => ?_, outcome_of_first_held h hjobs⟩
  rcases accepted_or_first ho hjobs with hok | ⟨e, hfirst⟩ | hfirst
  · simp [outcome_of_all_accepted h hjobs hok] at hout
  · simp [outcome_of_first_failed h hjobs hfirst] at hout
  · exact hfirst

end Decided

/-! ### A join that does not wait

While an acknowledgement is missing, a join of a few receipts reports any refusal it comes across.
The jobs of one worker are acknowledged in their order, or all at once when it breaks down, so that
it never comes across one. -/

def eagerOutcome : List Nat → List Acknowledgement → Option (Except SubmissionError Unit)
  | [], _ => some (.ok ())
  | n :: ns, acks =>
    match acks.find? fun a => a.number == n with
    | none =>
      match eagerOutcome ns acks with
      | some (.error e) => some (.error e)
      | _ => none
    | some a =>
      match a.result with
      | .error e => some (.error e)
      | .ok () => eagerOutcome ns acks

def IsUnanswered (acks : List Acknowledgement) (n : Nat) : Prop :=
  acks.find? (fun a => a.number == n) = none

theorem eagerOutcome_cons_unanswered {n : Nat} {ns : List Nat} {acks : List Acknowledgement}
    (hn : IsUnanswered acks n) (hne : ∀ e, eagerOutcome ns acks ≠ some (.error e)) :
    eagerOutcome (n :: ns) acks = none := by
  rw [IsUnanswered] at hn
  -- `hne` rules out the only case of the inner match that gives a result
  simp only [eagerOutcome, hn]

theorem eagerOutcome_of_unanswered {ns : List Nat} {acks : List Acknowledgement}
    (h : ∀ n ∈ ns, IsUnanswered acks n) (e : SubmissionError) :
    eagerOutcome ns acks ≠ some (.error e) := by
  induction ns generalizing e with
  | nil => simp [eagerOutcome]
  | cons n ns ih =>
    rw [List.forall_mem_cons] at h
    simp [eagerOutcome_cons_unanswered h.1 (ih h.2)]

theorem eagerOutcome_eq_outcome {ns : List Nat} {acks : List Acknowledgement}
    (h : ns.Pairwise fun m n => IsUnanswered acks m → IsUnanswered acks n) :
    eagerOutcome ns acks = outcome ns acks := by
  induction ns with
  | nil => rfl
  | cons n ns ih =>
    rw [List.pairwise_cons] at h
    cases hn : acks.find? fun a => a.number == n with
    | none =>
      rw [eagerOutcome_cons_unanswered hn
        (eagerOutcome_of_unanswered fun m hm => h.1 m hm hn)]
      simp only [outcome, hn]
    | some a =>
      cases hr : a.result with
      | error e => simp only [eagerOutcome, outcome, hn, hr]
      | ok => simp only [eagerOutcome, outcome, hn, hr, ih h.2]

theorem isUnanswered_iff_held (h : Answered count t) (ho : Ordered count t)
    (hj : job ∈ acceptedFor count i t.history) :
    IsUnanswered t.acknowledgements job.number ↔ job ∈ (t.pool.worker i).held := by
  refine ⟨fun hn => ?_, h.not_answered_of_held⟩
  rcases Answered.held_or_fate ho hj with hheld | ⟨r, hr⟩
  · exact hheld
  · simp [IsUnanswered, find?_of_fate h hj hr] at hn

/-- What a worker holds is the end of what it has accepted. -/
theorem acceptedFor_pairwise_held (h : Answered count t) (ho : Ordered count t) (i : Nat) :
    (acceptedFor count i t.history).Pairwise fun j k =>
      j ∈ (t.pool.worker i).held → k ∈ (t.pool.worker i).held := by
  obtain ⟨gone, hgone⟩ := ho.held_isSuffix i
  have hnodup := h.acceptedFor_nodup i
  rw [← hgone] at hnodup ⊢
  obtain ⟨-, -, hdisjoint⟩ := List.nodup_append.mp hnodup
  refine List.pairwise_append.mpr ⟨?_, ?_, fun j _ k hk _ => hk⟩
  · exact List.pairwise_of_forall_mem_list fun j hj k _ hheld => absurd rfl (hdisjoint j hj j hheld)
  · exact List.pairwise_of_forall_mem_list fun j _ k hk _ => hk

theorem eagerOutcome_eq_outcome_of_isInfix (h : Answered count t) (ho : Ordered count t)
    (hjobs : jobs <:+: acceptedFor count i t.history) :
    eagerOutcome (jobs.map Job.number) t.acknowledgements =
      outcome (jobs.map Job.number) t.acknowledgements := by
  apply eagerOutcome_eq_outcome
  rw [List.pairwise_map]
  refine ((acceptedFor_pairwise_held h ho i).sublist hjobs.sublist).imp_of_mem ?_
  intro j k hj hk hheld
  rw [isUnanswered_iff_held h ho (hjobs.subset hj), isUnanswered_iff_held h ho (hjobs.subset hk)]
  exact hheld

end AggregateGateway

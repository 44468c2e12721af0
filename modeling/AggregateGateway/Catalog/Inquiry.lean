import AggregateGateway.Catalog.Failure
import AggregateGateway.Catalog.Health
import AggregateGateway.Catalog.Record

/-!
Asking the services how they are. Each is asked by a probe of its own and is up if the probe
succeeds in time. All probes begin at once; they are looked at whenever one of them answers or runs
out of time, until something is known of every service. That always comes about
(`isKnown_outcome`).
-/

namespace AggregateGateway.Catalog

open Time (Span)

/-- The answer to a probe and how long it takes. -/
structure Probe where
  /-- Nothing if the answer never comes. -/
  latency : Option Nat
  answer : Except Failure Unit

namespace Probe

def verdict (p : Probe) : Liveness :=
  match p.answer with
  | .ok () => .up
  | .error _ => .down

/-- What a look at the probe tells some time after it began. The answer is looked for first, so one
that takes exactly as long as the timeout is still in time. -/
def poll (timeout : Span) (elapsed : Nat) (p : Probe) : Option Liveness :=
  if p.latency.any (· ≤ elapsed) then some p.verdict
  else if timeout.nanos ≤ elapsed then some .down
  else none

/-- How long the probe is waited for. -/
def wait (timeout : Span) (p : Probe) : Nat :=
  p.latency.elim timeout.nanos (min · timeout.nanos)

theorem isSome_poll_wait (timeout : Span) (p : Probe) :
    (p.poll timeout (p.wait timeout)).isSome = true := by
  cases h : p.latency with
  | none => simp [poll, wait, h]
  | some t =>
    by_cases ht : t ≤ timeout.nanos
    · simp [poll, wait, h, Nat.min_eq_left ht]
    · simp [poll, wait, h, Nat.min_eq_right (Nat.le_of_not_le ht), ht]

end Probe

theorem Service.mem_all (s : Service) : s ∈ Service.all := by
  cases s <;> decide

/-- What is known of the services while they are asked. -/
abbrev Inquiry := Service → Option Liveness

namespace Inquiry

def start : Inquiry := fun _ => none

/-- The services of which nothing is known yet. -/
def waiting (q : Inquiry) : List Service :=
  Service.all.filter fun s => (q s).isNone

def isKnown (q : Inquiry) : Bool :=
  q.waiting.isEmpty

section Run

variable (timeout : Span) (probe : Service → Probe)

/-- Looks at every probe that is still waited for. -/
def poll (elapsed : Nat) (q : Inquiry) : Inquiry :=
  fun s => (q s).or ((probe s).poll timeout elapsed)

/-- When the next of the probes that are waited for answers or runs out of time. -/
def next? (q : Inquiry) : Option Nat :=
  (q.waiting.map fun s => (probe s).wait timeout).min?

/-- Looks at the probes now and at each later moment some of them is waited for; says how long it
took as well. -/
def run : Nat → Nat → Inquiry → Nat × Inquiry
  | 0, elapsed, q => (elapsed, q)
  | n + 1, elapsed, q =>
    let q := q.poll timeout probe elapsed
    match q.next? timeout probe with
    | none => (elapsed, q)
    | some later => run n later q

theorem waiting_poll (elapsed : Nat) (q : Inquiry) :
    (q.poll timeout probe elapsed).waiting =
      q.waiting.filter fun s => ((probe s).poll timeout elapsed).isNone := by
  simp [waiting, poll, List.filter_filter, Bool.and_comm]

variable {timeout probe}

theorem mem_waiting {q : Inquiry} {s : Service} : s ∈ q.waiting ↔ q s = none := by
  simp [waiting, Service.mem_all]

theorem exists_of_next? {q : Inquiry} {later : Nat} (h : q.next? timeout probe = some later) :
    ∃ s ∈ q.waiting, (probe s).wait timeout = later :=
  List.mem_map.mp (List.min?_mem h)

theorem length_waiting_lt {q : Inquiry} {later : Nat} (h : q.next? timeout probe = some later) :
    (q.poll timeout probe later).waiting.length < q.waiting.length := by
  obtain ⟨s, hs, rfl⟩ := exists_of_next? h
  rw [waiting_poll, List.length_filter_lt_length_iff_exists]
  have hsome := (probe s).isSome_poll_wait timeout
  exact ⟨s, hs, by simpa using Option.isSome_iff_ne_none.mp hsome⟩

/-- Every further look settles a service at least. -/
theorem isKnown_run_of_lt {n elapsed : Nat} {q : Inquiry}
    (h : (q.poll timeout probe elapsed).waiting.length < n) :
    (run timeout probe n elapsed q).2.isKnown = true := by
  induction n generalizing elapsed q with
  | zero => cases h
  | succ n ih =>
    simp only [run]
    split
    · next hnext => simpa [next?, isKnown] using hnext
    · next hnext => exact ih (Nat.lt_of_lt_of_le (length_waiting_lt hnext) (Nat.le_of_lt_succ h))

variable (timeout probe)

/-- Asks all services; there are as many looks as services besides the first one. -/
def outcome : Nat × Inquiry :=
  run timeout probe (Service.all.length + 1) 0 start

theorem isKnown_outcome : (outcome timeout probe).2.isKnown = true :=
  isKnown_run_of_lt (Nat.lt_succ_of_le (List.length_filter_le _ _))

end Run

theorem isSome_of_isKnown {q : Inquiry} (h : q.isKnown = true) (s : Service) :
    (q s).isSome = true := by
  rw [Option.isSome_iff_ne_none]
  intro hs
  have hmem := mem_waiting.mpr hs
  rw [List.isEmpty_iff.mp h] at hmem
  cases hmem

def document (q : Inquiry) (h : q.isKnown = true) : Health where
  item := (q .item).get (isSome_of_isKnown h .item)
  ratings := (q .ratings).get (isSome_of_isKnown h .ratings)
  commentary := (q .commentary).get (isSome_of_isKnown h .commentary)

end Inquiry

def Health.ofProbes (timeout : Span) (probe : Service → Probe) : Health :=
  (Inquiry.outcome timeout probe).2.document (Inquiry.isKnown_outcome timeout probe)

/-- How long the probes take together. -/
def Health.elapsed (timeout : Span) (probe : Service → Probe) : Nat :=
  (Inquiry.outcome timeout probe).1

end AggregateGateway.Catalog

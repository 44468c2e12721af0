import AggregateGateway.Proofs.Resilience.BreakerCases

/-! A breaker in use. Calls overlap in any way: each begins and, if it was admitted, ends with an
outcome or is given up at some later time, while the breaker may be tripped and reset from outside
and time passes. -/

namespace AggregateGateway.Resilience.Breaker

open Time (Moment Span)

inductive Action where
  | start
  | finish (p : Permit) (o : Outcome)
  | cancel (p : Permit)
  | trip
  | reset
  | advance (nanos : Nat)

inductive Occurrence where
  | ended (p : Permit) (o : Outcome)
  | entered (generation : Nat)
  deriving DecidableEq

structure Traffic where
  breaker : Breaker
  now : Moment
  /-- The permits of the calls that are running. -/
  running : List Permit
  /-- What has happened, oldest first. -/
  history : List Occurrence
  deriving DecidableEq

namespace Traffic

def idle : Traffic := ⟨.fresh, 0, [], []⟩

def turn (t : Traffic) (b : Breaker) : Traffic :=
  { t with
    breaker := b
    history := t.history ++
      if b.generation = t.breaker.generation then [] else [.entered b.generation] }

def ended (t : Traffic) (p : Permit) (o : Outcome) : Traffic :=
  { t with running := t.running.erase p, history := t.history ++ [.ended p o] }

/-- A call that is not running can neither end nor be given up: nothing happens then. -/
def step (s : Settings) (t : Traffic) : Action → Traffic
  | .start =>
    let (b, permit) := t.breaker.begin s t.now
    { t.turn b with running := t.running ++ permit.toList }
  | .finish p o =>
    if p ∈ t.running then (t.ended p o).turn (t.breaker.finish s t.now p o) else t
  | .cancel p =>
    if p ∈ t.running then
      { t with running := t.running.erase p }.turn (t.breaker.abandon p)
    else t
  | .trip => t.turn (t.breaker.trip t.now)
  | .reset => t.turn t.breaker.reset
  | .advance nanos => { t with now := t.now + nanos }

def run (s : Settings) (t : Traffic) (actions : List Action) : Traffic :=
  actions.foldl (step s) t

@[simp] theorem turn_breaker (t : Traffic) (b : Breaker) : (t.turn b).breaker = b := rfl

@[simp] theorem turn_running (t : Traffic) (b : Breaker) : (t.turn b).running = t.running := rfl

theorem turn_history_same {t : Traffic} {b : Breaker} (h : b.generation = t.breaker.generation) :
    (t.turn b).history = t.history := by
  simp only [turn, h, if_true, List.append_nil]

theorem turn_history_entered {t : Traffic} {b : Breaker}
    (h : b.generation ≠ t.breaker.generation) :
    (t.turn b).history = t.history ++ [.entered b.generation] := by
  simp only [turn, h, if_false]

theorem step_finish {t : Traffic} {p : Permit} (s : Settings) (o : Outcome)
    (h : p ∈ t.running) :
    t.step s (.finish p o) = (t.ended p o).turn (t.breaker.finish s t.now p o) := by
  simp only [step, h, if_true]

theorem step_finish_idle {t : Traffic} {p : Permit} (s : Settings) (o : Outcome)
    (h : p ∉ t.running) : t.step s (.finish p o) = t := by
  simp only [step, h, if_false]

theorem step_cancel {t : Traffic} {p : Permit} (s : Settings) (h : p ∈ t.running) :
    t.step s (.cancel p) =
      { t with running := t.running.erase p }.turn (t.breaker.abandon p) := by
  simp only [step, h, if_true]

theorem step_cancel_idle {t : Traffic} {p : Permit} (s : Settings) (h : p ∉ t.running) :
    t.step s (.cancel p) = t := by
  simp only [step, h, if_false]

theorem run_induction {P : Traffic → Prop} {s : Settings} {t : Traffic} (start : P t)
    (next : ∀ t a, P t → P (t.step s a)) (actions : List Action) : P (t.run s actions) :=
  List.foldlRecOn actions _ start fun t ht a _ => next t a ht

end Traffic

end AggregateGateway.Resilience.Breaker

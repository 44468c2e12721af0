import AggregateGateway.Catalog.Failure
import Mathlib.Logic.Function.Basic

/-! Executions that overlap under one policy, each told by a number, and a bare breaker that is
shown one call for each of them. -/

namespace AggregateGateway.Resilience

open Time (Moment)

namespace Breaker

inductive Use where
  | start (n : Nat)
  | settle (n : Nat) (o : Outcome)
  | drop (n : Nat)
  | trip
  | reset
  | advance (nanos : Nat)
  deriving DecidableEq

/-- A breaker with nothing around it, and the permits of the calls that are running. -/
structure Calls where
  breaker : Breaker
  now : Moment
  permit : Nat → Option Permit

namespace Calls

def idle (b : Breaker) (now : Moment) : Calls := ⟨b, now, fun _ => none⟩

def step (s : Settings) (c : Calls) : Use → Calls
  | .start n =>
    let (b, permit) := c.breaker.begin s c.now
    ⟨b, c.now, Function.update c.permit n permit⟩
  | .settle n o =>
    match c.permit n with
    | none => c
    | some permit =>
      ⟨c.breaker.finish s c.now permit o, c.now, Function.update c.permit n none⟩
  | .drop n =>
    match c.permit n with
    | none => c
    | some permit => ⟨c.breaker.abandon permit, c.now, Function.update c.permit n none⟩
  | .trip => { c with breaker := c.breaker.trip c.now }
  | .reset => { c with breaker := c.breaker.reset }
  | .advance nanos => { c with now := c.now + nanos }

def run (s : Settings) (c : Calls) (uses : List Use) : Calls :=
  uses.foldl (step s) c

theorem step_start {s : Settings} {c : Calls} {b : Breaker} {permit : Option Permit}
    (h : c.breaker.begin s c.now = (b, permit)) (n : Nat) :
    c.step s (.start n) = ⟨b, c.now, Function.update c.permit n permit⟩ := by
  simp only [step, h]

theorem step_settle {c : Calls} {n : Nat} {permit : Permit} (s : Settings) (o : Outcome)
    (h : c.permit n = some permit) :
    c.step s (.settle n o) =
      ⟨c.breaker.finish s c.now permit o, c.now, Function.update c.permit n none⟩ := by
  simp only [step, h]

theorem step_drop {c : Calls} {n : Nat} {permit : Permit} (s : Settings)
    (h : c.permit n = some permit) :
    c.step s (.drop n) =
      ⟨c.breaker.abandon permit, c.now, Function.update c.permit n none⟩ := by
  simp only [step, h]

theorem step_drop_idle {c : Calls} {n : Nat} (s : Settings) (h : c.permit n = none) :
    c.step s (.drop n) = c := by
  simp only [step, h]

theorem run_append (s : Settings) (c : Calls) (uses later : List Use) :
    c.run s (uses ++ later) = (c.run s uses).run s later :=
  List.foldl_append

end Calls

end Breaker

/-- The permit of an execution that has been admitted and has not ended. -/
def Execution.permit? {ε α : Type} : Execution ε α → Option Breaker.Permit
  | .attempting permit .. | .pausing permit .. => some permit
  | _ => none

namespace Policy

inductive Action where
  /-- Takes the step of an execution that is due, if there is one. -/
  | poll (n : Nat)
  | cancel (n : Nat)
  | trip
  | reset
  | advance (nanos : Nat)

inductive Occurrence (ε α : Type) where
  | started (n : Nat)
  | returned (n : Nat) (r : Except (Refusal ε) α)
  | cancelled (n : Nat)
  | tripped
  | reset
  | advanced (nanos : Nat)

def Occurrence.number? {ε α : Type} : Occurrence ε α → Option Nat
  | .started n | .returned n _ | .cancelled n => some n
  | _ => none

/-- How a call ends at the breaker when its execution has returned; one that was rejected is not
running. -/
def settlement {α : Type} : Except (Refusal Catalog.Failure) α → Option Breaker.Outcome
  | .ok _ => some .success
  | .error (.circuitOpen _) => none
  | .error (.exhausted _ e) | .error (.failed e) =>
    match e with
    | .notFound _ | .invalidInput _ => some .ignored
    | _ => some .failure

def Occurrence.use? {α : Type} : Occurrence Catalog.Failure α → Option Breaker.Use
  | .started n => some (.start n)
  | .returned n r => (settlement r).map (.settle n)
  | .cancelled n => some (.drop n)
  | .tripped => some .trip
  | .reset => some .reset
  | .advanced nanos => some (.advance nanos)

structure Traffic (σ ε α : Type) where
  guard : Guard σ
  now : Moment
  /-- None in place of an execution that was given up. -/
  execution : Nat → Option (Execution ε α)
  history : List (Occurrence ε α)

def seen {ε α : Type} (n : Nat) (before after : Execution ε α) : List (Occurrence ε α) :=
  (match before with
    | .ready => [.started n]
    | _ => []) ++
  match after with
    | .ended r => [.returned n r]
    | _ => []

namespace Traffic

variable {σ ε α : Type}

def idle (g : Guard σ) (now : Moment) : Traffic σ ε α := ⟨g, now, fun _ => some .ready, []⟩

def story (w : Traffic σ ε α) (n : Nat) : List (Occurrence ε α) :=
  w.history.filter fun o => o.number? == some n

variable [Classified ε]

/-- An execution that has been given up is not polled any more, and one that has ended cannot be
given up. -/
def step (p : Policy) (calls : Nat → Call σ ε α) (w : Traffic σ ε α) : Action → Traffic σ ε α
  | .poll n =>
    match w.execution n with
    | none => w
    | some e =>
      match p.step (calls n) w.now e w.guard with
      | none => w
      | some (e', g) =>
        ⟨g, w.now, Function.update w.execution n (some e'), w.history ++ seen n e e'⟩
  | .cancel n =>
    match w.execution n with
    | none | some (.ended _) => w
    | some e =>
      ⟨p.cancel e w.guard, w.now, Function.update w.execution n none,
        w.history ++ [.cancelled n]⟩
  | .trip =>
    { w with
      guard := w.guard.setBreaker p.name (w.guard.breaker.trip w.now)
      history := w.history ++ [.tripped] }
  | .reset =>
    { w with
      guard := w.guard.setBreaker p.name w.guard.breaker.reset
      history := w.history ++ [.reset] }
  | .advance nanos =>
    { w with now := w.now + nanos, history := w.history ++ [.advanced nanos] }

def run (p : Policy) (calls : Nat → Call σ ε α) (w : Traffic σ ε α) (actions : List Action) :
    Traffic σ ε α :=
  actions.foldl (step p calls) w

end Traffic

end Policy

/-- A call that notes in a log that it was made. -/
def Call.noted {σ ε α κ : Type} (key : κ) (call : Call σ ε α) : Call (σ × List κ) ε α :=
  fun s =>
    let (reply, service) := call s.1
    (reply, service, s.2 ++ [key])

def Guard.noting {σ : Type} (κ : Type) (g : Guard σ) : Guard (σ × List κ) :=
  ⟨g.breaker, g.registry, g.service, []⟩

end AggregateGateway.Resilience

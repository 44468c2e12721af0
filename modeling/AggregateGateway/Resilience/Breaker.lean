import AggregateGateway.Metrics
import AggregateGateway.Time.Span

/-!
A circuit breaker over a sliding window of outcomes. A call is admitted with a permit, which is
settled with the outcome of the call or abandoned when the call is given up. Every change of the
phase begins a new generation; a trial that was admitted in an earlier half-open period has no
part in a later one.

What a breaker shows to the outside it reports at the places where it happens, apart from its own
totals. Generations and totals are numbers without a bound: that machine words wrap around after
2^64 changes or calls is left out.
-/

namespace AggregateGateway.Resilience

open Metrics (Measurement)
open Time (Moment Span)

namespace Breaker

structure Settings where
  /-- How many outcomes the window keeps. -/
  window : Nat
  /-- How many outcomes must be in the window before it is judged. -/
  minimum : Nat
  /-- The percentage of failures that opens the breaker. -/
  threshold : Nat
  openWait : Span
  /-- How many trials a half-open period admits, all of which must succeed. -/
  permits : Nat
  deriving DecidableEq

/-- Settings that make sense: a window and permits of at least one, a minimum that the window can
reach and a threshold of at most a hundred. -/
def Settings.build (window minimum threshold : Nat) (openWait : Span) (permits : Nat) : Settings :=
  let window := max window 1
  { window
    minimum := min (max minimum 1) window
    threshold := min threshold 100
    openWait
    permits := max permits 1 }

def Settings.default : Settings :=
  .build 5 5 50 (Span.millis 10000) 3

inductive Phase where
  /-- The recorded outcomes, oldest first; true marks a failure. -/
  | closed (window : List Bool)
  | open (since : Moment)
  /-- The trials that hold a permit or have succeeded, and those that have succeeded. -/
  | halfOpen (admitted succeeded : Nat)
  deriving DecidableEq

def Phase.name : Phase → String
  | .closed _ => "closed"
  | .open _ => "open"
  | .halfOpen .. => "half_open"

/-- The phase as it is measured. -/
def Phase.gauge : Phase → Nat
  | .closed _ => 0
  | .halfOpen .. => 1
  | .open _ => 2

/-- Calls counted over the whole life of a breaker. -/
structure Totals where
  calls : Nat
  successes : Nat
  failures : Nat
  rejections : Nat
  deriving DecidableEq

/-- What a breaker tells whoever measures it. -/
inductive Report where
  | call
  | rejection
  | success
  | failure
  | state (gauge : Nat)
  deriving DecidableEq

/-- A report as it is measured under the name of the breaker. -/
def Report.measurement (name : String) : Report → Measurement
  | .call => .count .breakerCalls name
  | .rejection => .count .breakerRejections name
  | .success => .count .breakerSuccesses name
  | .failure => .count .breakerFailures name
  | .state gauge => .state name gauge.toFloat

inductive Outcome where
  | success
  | failure
  | ignored
  deriving DecidableEq

structure Permit where
  generation : Nat
  /-- The permit was given in a half-open period. -/
  isTrial : Bool
  deriving DecidableEq

end Breaker

structure Breaker where
  phase : Breaker.Phase
  generation : Nat
  totals : Breaker.Totals
  /-- Everything the breaker has reported, newest first. -/
  reports : List Breaker.Report
  deriving DecidableEq

namespace Breaker

def report (r : Report) (b : Breaker) : Breaker := { b with reports := r :: b.reports }

/-- A new breaker reports its state at once. -/
def fresh : Breaker := ⟨.closed [], 0, ⟨0, 0, 0, 0⟩, [.state (Phase.closed []).gauge]⟩

/-- Begins a new generation. -/
def enter (b : Breaker) (phase : Phase) : Breaker :=
  let b := { b with phase, generation := b.generation + 1 }
  b.report (.state phase.gauge)

/-- After the wait an open breaker becomes half-open, which is noticed by the next call only. -/
def wake (s : Settings) (now : Moment) (b : Breaker) : Breaker :=
  match b.phase with
  | .open since => if since + s.openWait.nanos ≤ now then b.enter (.halfOpen 0 0) else b
  | _ => b

/-- Gives a permit if the phase, brought up to date, allows a call. -/
def acquire (s : Settings) (now : Moment) (b : Breaker) : Breaker × Option Permit :=
  let b := b.wake s now
  match b.phase with
  | .closed _ => (b, some ⟨b.generation, false⟩)
  | .open _ => (b, none)
  | .halfOpen admitted succeeded =>
    if s.permits ≤ admitted then (b, none)
    else ({ b with phase := .halfOpen (admitted + 1) succeeded }, some ⟨b.generation, true⟩)

/-- The window after another outcome; a full window loses its oldest one. -/
def slide (size : Nat) (window : List Bool) (failed : Bool) : List Bool :=
  (if window.length = size then window.tail else window) ++ [failed]

def failures (window : List Bool) : Nat :=
  window.count true

/-- Whether the window is to open the breaker. -/
def isTripping (s : Settings) (window : List Bool) : Bool :=
  s.minimum ≤ window.length && s.threshold * window.length ≤ failures window * 100

def record (s : Settings) (now : Moment) (p : Permit) (o : Outcome) (b : Breaker) : Breaker :=
  match b.phase, o with
  | .closed _, .ignored => b
  | .closed window, o =>
    let window := slide s.window window (o == .failure)
    if isTripping s window then b.enter (.open now) else { b with phase := .closed window }
  | .open _, _ => b
  | .halfOpen admitted succeeded, o =>
    if b.generation ≠ p.generation then b
    else match o with
      | .success =>
        if s.permits ≤ succeeded + 1 then b.enter (.closed [])
        else { b with phase := .halfOpen admitted (succeeded + 1) }
      | .failure => b.enter (.open now)
      | .ignored => { b with phase := .halfOpen (admitted - 1) succeeded }

/-- Takes back the permit of a call that was given up. -/
def abandon (p : Permit) (b : Breaker) : Breaker :=
  match b.phase with
  | .halfOpen admitted succeeded =>
    if p.isTrial && b.generation == p.generation then
      { b with phase := .halfOpen (admitted - 1) succeeded }
    else b
  | _ => b

def trip (now : Moment) (b : Breaker) : Breaker := b.enter (.open now)

def reset (b : Breaker) : Breaker := b.enter (.closed [])

def countCall (b : Breaker) : Breaker :=
  let b := { b with totals.calls := b.totals.calls + 1 }
  b.report .call

def countRejection (b : Breaker) : Breaker :=
  let b := { b with totals.rejections := b.totals.rejections + 1 }
  b.report .rejection

def countSuccess (b : Breaker) : Breaker :=
  let b := { b with totals.successes := b.totals.successes + 1 }
  b.report .success

def countFailure (b : Breaker) : Breaker :=
  let b := { b with totals.failures := b.totals.failures + 1 }
  b.report .failure

/-- Begins a call: counts it, and counts the rejection if there is no permit for it. -/
def begin (s : Settings) (now : Moment) (b : Breaker) : Breaker × Option Permit :=
  match b.countCall.acquire s now with
  | (b, some p) => (b, some p)
  | (b, none) => (b.countRejection, none)

/-- Ends a call. A success or a failure is counted whatever the phase has become. -/
def finish (s : Settings) (now : Moment) (p : Permit) (o : Outcome) (b : Breaker) : Breaker :=
  let b := b.record s now p o
  match o with
  | .success => b.countSuccess
  | .failure => b.countFailure
  | .ignored => b

/-- Why a call through a breaker has no value. -/
inductive Refusal (ε : Type) where
  | isOpen
  | failed (e : ε)
  deriving DecidableEq

def Refusal.message {ε : Type} (text : ε → String) : Refusal ε → String
  | .isOpen => "Circuit breaker is open"
  | .failed e => "Operation failed: " ++ text e

/-- The state as it is measured under the name of the breaker. -/
def stateMeasurement (name : String) (b : Breaker) : Measurement :=
  (Report.state b.phase.gauge).measurement name

/-- What is measured while one breaker turns into another: the reports of the new one that the old
one had not made, oldest first. -/
def measurements (name : String) (old new : Breaker) : List Measurement :=
  (new.reports.take (new.reports.length - old.reports.length)).reverse.map (·.measurement name)

end Breaker

end AggregateGateway.Resilience

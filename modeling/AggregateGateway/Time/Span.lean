import AggregateGateway.Json.Record

/-!
Spans of time, counted in nanoseconds. A document splits a span into seconds and the nanoseconds
beyond them.
-/

namespace AggregateGateway.Time

/-- A moment on the clock of a run, in nanoseconds since the run began. -/
abbrev Moment := Nat

/-- Spans hold less than 2⁶⁴ seconds. -/
def spanLimit : Nat := UInt64.size * 1000000000

structure Span where
  nanos : Nat
  nanos_lt : nanos < spanLimit
  deriving DecidableEq

namespace Span

def millis (ms : UInt64) : Span where
  nanos := ms.toNat * 1000000
  nanos_lt := by
    have := ms.toNat_lt_size
    unfold spanLimit UInt64.size at *
    omega

def wholeMillis (s : Span) : Nat :=
  s.nanos / 1000000

def zero : Span := millis 0

/-- The span of some seconds and nanoseconds, if it is short enough. -/
def of? (seconds nanos : Nat) : Option Span :=
  if h : seconds * 1000000000 + nanos < spanLimit then some ⟨_, h⟩ else none

def fields : Json.Fields (UInt64 × UInt32 × Unit) :=
  .required "secs" Json.uint64 <| .required "nanos" Json.uint32 .nil

def layout : Json.Layout where
  name := "Duration"
  expectedList := "struct Duration"
  admitsUnknown := false

def codec : Json.Codec Span :=
  Json.checkedRecord layout fields
    (fun (seconds, nanos, ()) =>
      match of? seconds.toNat nanos.toNat with
      | some s => .ok s
      | none => .error (.unreadable "overflow deserializing Duration"))
    fun s =>
      (UInt64.ofNat (s.nanos / 1000000000), UInt32.ofNat (s.nanos % 1000000000), ())

end Span

end AggregateGateway.Time

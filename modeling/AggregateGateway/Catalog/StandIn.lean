import AggregateGateway.Catalog.Inquiry

/-!
Services that stand in for the real ones: their answers are set from outside, and they remember how
often they were read and what the last read asked for.
-/

namespace AggregateGateway.Catalog

open Resilience (Call)
open Time (Span)

/-- Reads of a service with the state `σ`, one call each. -/
abbrev Source (σ α : Type) := ItemId → ReadOptions → Call σ Failure α

structure StandIn (α : Type) where
  /-- The answers to the next reads, before any fixed one. -/
  queued : List (Except Failure α)
  fixed : Option (Except Failure α)
  delay : Span
  reads : Nat
  lastOptions : Option ReadOptions

namespace StandIn

variable {α : Type}

def fresh : StandIn α := ⟨[], none, .zero, 0, none⟩

/-- The answer to the next read, and those that are left for later ones. -/
def nextAnswer (usual : α) (s : StandIn α) : Except Failure α × List (Except Failure α) :=
  match s.queued with
  | answer :: queued => (answer, queued)
  | [] => (s.fixed.getD (.ok usual), [])

/-- Reads; the service answers with what is `usual` for an item unless told otherwise. -/
def read (usual : ItemId → α) : Source (StandIn α) α := fun id options s =>
  let (answer, queued) := s.nextAnswer (usual id)
  (⟨s.delay.nanos, answer⟩,
    { s with queued, reads := s.reads + 1, lastOptions := some options })

end StandIn

def usualItem (id : ItemId) : Item :=
  ⟨id, "item " ++ toString id.toInt, 1, some "item-mock:7001"⟩

/-- The probe of a service that is down if it is one of `down`. -/
def Service.probeAmong (down : List Service) (s : Service) : Probe :=
  ⟨some 0, if down.contains s then .error (.transport (s.name ++ " is down")) else .ok ()⟩

end AggregateGateway.Catalog

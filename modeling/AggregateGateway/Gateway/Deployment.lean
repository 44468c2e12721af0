import AggregateGateway.Catalog.StandIn
import AggregateGateway.Config
import AggregateGateway.Publish.Pool

/-!
A deployed gateway: its settings, the services and the channel around it, and what it keeps between
two requests.
-/

namespace AggregateGateway

open Catalog (Service Item Rating Commentary Source Probe)
open Metrics (Measurement Registry)
open Publish (Pool Publishing Sizing)
open Resilience (Breaker Policy)
open Time (Moment Span)

/-- The topic of each service's events. -/
structure Topics where
  item : String
  ratings : String
  commentary : String
  deriving DecidableEq

def Topics.of (t : Topics) : Service → String
  | .item => t.item
  | .ratings => t.ratings
  | .commentary => t.commentary

structure Settings where
  /-- Guards the reads of items. -/
  policy : Policy
  topics : Topics
  pool : Sizing
  /-- The address that views and stand-in items report. -/
  address : String
  healthTimeout : Span
  deriving DecidableEq

def Config.settings (c : Config) : Settings where
  policy := ⟨Service.item.name, c.breaker, c.retry, c.resilience.itemTimeout⟩
  topics := ⟨c.channel.itemsTopic, c.channel.ratingsTopic, c.channel.commentaryTopic⟩
  pool := c.pool
  address := c.server.serviceAddress
  healthTimeout := c.downstream.healthTimeout

/-- The surroundings of a gateway. Each service has a state of its own, and so has the channel. -/
structure Deployment (ι ρ κ β : Type) where
  settings : Settings
  items : Source ι Item
  ratings : Source ρ (List Rating)
  commentary : Source κ (List Commentary)
  probe : Service → Probe
  publish : Publishing β
  /-- Measurements are shown to whoever asks for them. -/
  showsMetrics : Bool

structure Gateway (ι ρ κ β : Type) where
  now : Moment
  breaker : Breaker
  registry : Registry
  pool : Pool
  items : ι
  ratings : ρ
  commentary : κ
  channel : β

variable {ι ρ κ β : Type}

namespace Gateway

def start (s : Settings) (items : ι) (ratings : ρ) (commentary : κ) (channel : β) :
    Gateway ι ρ κ β where
  now := 0
  breaker := .fresh
  registry := Registry.empty.record (Breaker.fresh.stateMeasurement s.policy.name)
  pool := .ofSizing s.pool
  items := items
  ratings := ratings
  commentary := commentary
  channel := channel

def recordAll (g : Gateway ι ρ κ β) (ms : List Measurement) : Gateway ι ρ κ β :=
  { g with registry := g.registry.recordAll ms }

/-- Replaces the breaker, which is measured. -/
def setBreaker (g : Gateway ι ρ κ β) (s : Settings) (b : Breaker) : Gateway ι ρ κ β :=
  { g.recordAll (Breaker.measurements s.policy.name g.breaker b) with breaker := b }

end Gateway

end AggregateGateway

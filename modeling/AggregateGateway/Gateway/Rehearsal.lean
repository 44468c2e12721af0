import AggregateGateway.Gateway.Api
import AggregateGateway.Publish.Archive

/-!
Rehearsals: a gateway among services that stand in for the real ones and a channel in memory, all
of which are controlled from outside.
-/

namespace AggregateGateway.Gateway

open Catalog (Service Item Rating Commentary StandIn)
open Publish (Archive)
open Time (Moment)

abbrev RehearsedGateway :=
  Gateway (StandIn Item) (StandIn (List Rating)) (StandIn (List Commentary)) Archive

abbrev RehearsedDeployment :=
  Deployment (StandIn Item) (StandIn (List Rating)) (StandIn (List Commentary)) Archive

structure Rehearsal where
  settings : Settings
  showsMetrics : Bool
  /-- The services that do not pass their probe. -/
  down : List Service
  gateway : RehearsedGateway
  isShutDown : Bool

namespace Rehearsal

def start (settings : Settings) (showsMetrics : Bool) : Rehearsal where
  settings := settings
  showsMetrics := showsMetrics
  down := []
  gateway := .start settings .fresh .fresh .fresh .empty
  isShutDown := false

def deployment (r : Rehearsal) : RehearsedDeployment where
  settings := r.settings
  items := StandIn.read Catalog.usualItem
  ratings := StandIn.read fun _ => []
  commentary := StandIn.read fun _ => []
  probe := Service.probeAmong r.down
  publish := Archive.publish
  showsMetrics := r.showsMetrics

def setItems (change : StandIn Item → StandIn Item) (r : Rehearsal) : Rehearsal :=
  { r with gateway := { r.gateway with items := change r.gateway.items } }

def setRatings (change : StandIn (List Rating) → StandIn (List Rating)) (r : Rehearsal) :
    Rehearsal :=
  { r with gateway := { r.gateway with ratings := change r.gateway.ratings } }

def setCommentary (change : StandIn (List Commentary) → StandIn (List Commentary))
    (r : Rehearsal) : Rehearsal :=
  { r with gateway := { r.gateway with commentary := change r.gateway.commentary } }

def setChannel (change : Archive → Archive) (r : Rehearsal) : Rehearsal :=
  { r with gateway := { r.gateway with channel := change r.gateway.channel } }

def setDown (s : Service) (isDown : Bool) (r : Rehearsal) : Rehearsal :=
  let others := r.down.filter (· != s)
  { r with down := if isDown then s :: others else others }

/-- Lets time pass. -/
def advance (nanos : Nat) (r : Rehearsal) : Rehearsal :=
  { r with gateway := { r.gateway with now := r.gateway.now + nanos } }

/-- Does something with the gateway and says what came of it. -/
def act {α : Type} (action : RehearsedDeployment → RehearsedGateway → α × RehearsedGateway)
    (r : Rehearsal) : α × Rehearsal :=
  let (a, gateway) := action r.deployment r.gateway
  (a, { r with gateway })

/-- The workers are idle between two actions, so nothing is left to publish. -/
def shutDown (r : Rehearsal) : Rehearsal :=
  { r with isShutDown := true }

end Rehearsal

end AggregateGateway.Gateway

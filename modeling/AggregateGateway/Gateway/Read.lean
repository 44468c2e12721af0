import AggregateGateway.Catalog.Aggregate
import AggregateGateway.Gateway.Deployment

/-!
Reading aggregates. The item is read under the policy, and a stand-in takes its place when the
service is out of reach; ratings and commentary are read once and left empty when that fails. All
three reads of an aggregate start at the same moment.
-/

namespace AggregateGateway

open Catalog
open Metrics (Measurement)
open Resilience (Refusal Guard Schedule.together)
open Time (Moment)

/-- A result and the moment at which it is there. -/
structure Timed (α : Type) where
  value : α
  moment : Moment

/-- What a read is about. -/
structure Wish where
  id : ItemId
  options : ReadOptions
  deriving DecidableEq

/-- The highest percentage of faults that may be asked for. -/
def maxFaultPercent : UInt32 := 100

def checkId (id : ItemId) : Except Failure Unit :=
  if id < firstItemId then .error (.invalidInput ("Invalid itemId: " ++ toString id.toInt))
  else .ok ()

def Wish.check (w : Wish) : Except Failure Unit :=
  match checkId w.id with
  | .error e => .error e
  | .ok () =>
    if maxFaultPercent < w.options.faultPercent then
      .error (.invalidInput
        ("Invalid faultPercent: " ++ toString w.options.faultPercent.toNat))
    else .ok ()

def Wish.isAdmitted (w : Wish) : Bool :=
  w.check.toBool

/-- The item that does not exist, not even in place of another. -/
def missingItemId : ItemId := 13

/-- The item that is shown when the service is out of reach. -/
def placeholder (address : String) (id : ItemId) : Item :=
  ⟨id, "Fallback item" ++ toString id.toInt, id, some address⟩

/-- What a guarded read comes to. -/
def itemResult (address : String) (id : ItemId) :
    Except (Refusal Failure) Item → Except Failure Item
  | .ok item => .ok item
  | .error refusal =>
    if !refusal.allowsFallback then .error (Failure.ofRefusal refusal)
    else if id = missingItemId then
      .error (.notFound
        ("Item Id: " ++ toString id.toInt ++ " not found in fallback cache!"))
    else .ok (placeholder address id)

def itemMeasurements (id : ItemId) : Except (Refusal Failure) Item → List Measurement
  | .ok _ => []
  | .error refusal =>
    if refusal.allowsFallback && id != missingItemId then
      [.count .fallbacks Service.item.name]
    else []

/-- The records of a read that may have failed. -/
def recordsOf {α : Type} (answer : Except Failure (List α)) : List α :=
  answer.toOption.getD []

def recordMeasurements {α : Type} (s : Service) :
    Except Failure (List α) → List Measurement
  | .ok _ => []
  | .error _ => [.count .degradedReads s.name]

namespace Gateway

variable {ι ρ κ β : Type}

/-- Reads items together. A read that is not over has no value. -/
def fetchItems (d : Deployment ι ρ κ β) (wishes : List Wish) (g : Gateway ι ρ κ β) :
    List (Timed (Option (Except Failure Item))) × Gateway ι ρ κ β :=
  let guard : Guard ι := ⟨g.breaker, g.registry, g.items⟩
  let calls := wishes.map fun w => d.items w.id w.options
  let (_, tasks, guard) := Schedule.together d.settings.policy g.now calls guard
  let settled := List.zip (wishes.map Wish.id) tasks
  let results := settled.map fun (id, t) =>
    ⟨t.execution.result?.map (itemResult d.settings.address id), t.endedAt.getD g.now⟩
  let ms := settled.flatMap fun (id, t) =>
    (t.execution.result?.map (itemMeasurements id)).getD []
  (results,
    { g with breaker := guard.breaker, items := guard.service,
             registry := guard.registry.recordAll ms })

def fetchRatings (d : Deployment ι ρ κ β) (w : Wish) (g : Gateway ι ρ κ β) :
    Timed (List Rating) × Gateway ι ρ κ β :=
  let (reply, ratings) := d.ratings w.id w.options g.ratings
  (⟨recordsOf reply.answer, g.now + reply.latency⟩,
    { g.recordAll (recordMeasurements .ratings reply.answer) with ratings })

def fetchCommentary (d : Deployment ι ρ κ β) (w : Wish) (g : Gateway ι ρ κ β) :
    Timed (List Commentary) × Gateway ι ρ κ β :=
  let (reply, commentary) := d.commentary w.id w.options g.commentary
  (⟨recordsOf reply.answer, g.now + reply.latency⟩,
    { g.recordAll (recordMeasurements .commentary reply.answer) with commentary })

/-- Ratings and commentary for each wish. -/
def fetchDetails (d : Deployment ι ρ κ β) :
    List Wish → Gateway ι ρ κ β →
      List (Timed (List Rating) × Timed (List Commentary)) × Gateway ι ρ κ β
  | [], g => ([], g)
  | w :: ws, g =>
    let (ratings, g) := fetchRatings d w g
    let (commentary, g) := fetchCommentary d w g
    let (more, g) := fetchDetails d ws g
    ((ratings, commentary) :: more, g)

/-- The view of an aggregate is there when the slowest of its parts is. -/
def viewOf (address : String) (item : Timed (Option (Except Failure Item)))
    (ratings : Timed (List Rating)) (commentary : Timed (List Commentary)) :
    Timed (Option (Except Failure View)) where
  value := item.value.map fun r => r.map fun i =>
    View.assemble i ratings.value commentary.value address
  moment := max item.moment (max ratings.moment commentary.moment)

/-- Reads the aggregates of admitted wishes together. -/
def readAdmitted (d : Deployment ι ρ κ β) (wishes : List Wish) (g : Gateway ι ρ κ β) :
    List (Timed (Option (Except Failure View))) × Gateway ι ρ κ β :=
  let (items, g) := g.fetchItems d wishes
  let (details, g) := fetchDetails d wishes g
  (List.zipWith (fun item (ratings, commentary) =>
    viewOf d.settings.address item ratings commentary) items details, g)

/-- Results for all wishes in their order, given those of the admitted ones; any other wish is
refused at once. -/
def withRefusals (now : Moment) :
    List Wish → List (Timed (Option (Except Failure View))) →
      List (Timed (Option (Except Failure View)))
  | [], _ => []
  | w :: ws, results =>
    match w.check with
    | .error e => ⟨some (.error e), now⟩ :: withRefusals now ws results
    | .ok () =>
      match results with
      | [] => ⟨none, now⟩ :: withRefusals now ws []
      | r :: results => r :: withRefusals now ws results

/-- The moment at which the last result is there. -/
def lastMoment {α : Type} (now : Moment) (results : List (Timed α)) : Moment :=
  (results.map Timed.moment).foldl max now

/-- Reads aggregates together. -/
def readTogether (d : Deployment ι ρ κ β) (wishes : List Wish) (g : Gateway ι ρ κ β) :
    List (Option (Except Failure View)) × Gateway ι ρ κ β :=
  let (admitted, read) := g.readAdmitted d (wishes.filter Wish.isAdmitted)
  let results := withRefusals g.now wishes admitted
  (results.map Timed.value, { read with now := lastMoment g.now results })

def read (d : Deployment ι ρ κ β) (w : Wish) (g : Gateway ι ρ κ β) :
    Option (Except Failure View) × Gateway ι ρ κ β :=
  let (results, g) := g.readTogether d [w]
  (results.head?.join, g)

/-- Reads a single item. -/
def readItem (d : Deployment ι ρ κ β) (w : Wish) (g : Gateway ι ρ κ β) :
    Option (Except Failure Item) × Gateway ι ρ κ β :=
  let (results, read) := g.fetchItems d [w]
  (results.head?.bind Timed.value, { read with now := lastMoment g.now results })

def readRatings (d : Deployment ι ρ κ β) (w : Wish) (g : Gateway ι ρ κ β) :
    List Rating × Gateway ι ρ κ β :=
  let (ratings, g) := g.fetchRatings d w
  (ratings.value, { g with now := ratings.moment })

def readCommentary (d : Deployment ι ρ κ β) (w : Wish) (g : Gateway ι ρ κ β) :
    List Commentary × Gateway ι ρ κ β :=
  let (commentary, g) := g.fetchCommentary d w
  (commentary.value, { g with now := commentary.moment })

/-- Asks all services how they are. -/
def health (d : Deployment ι ρ κ β) (g : Gateway ι ρ κ β) : Health × Gateway ι ρ κ β :=
  let timeout := d.settings.healthTimeout
  (.ofProbes timeout d.probe, { g with now := g.now + Health.elapsed timeout d.probe })

end Gateway

end AggregateGateway

import AggregateGateway.Json.Record

/-!
The health of the services, as a document shows it.
-/

namespace AggregateGateway.Catalog

open Json (Codec Fields)

inductive Liveness where
  | up
  | down
  deriving DecidableEq

structure Health where
  item : Liveness
  ratings : Liveness
  commentary : Liveness
  deriving DecidableEq

def Liveness.name : Liveness → String
  | .up => "UP"
  | .down => "DOWN"

def Health.allUp (h : Health) : Bool :=
  [h.item, h.ratings, h.commentary].all (· == .up)

def Liveness.nameCodec : Codec Liveness :=
  Json.variant [("UP", .up), ("DOWN", .down)] Liveness.name

def Liveness.codec : Codec Liveness :=
  Json.record "ComponentHealth" (.required "status" Liveness.nameCodec .nil)
    (fun (status, ()) => status) fun l => (l, ())

def Health.codec : Codec Health :=
  Json.record "CompositeHealth"
    (.required "item" Liveness.codec <| .required "ratings" Liveness.codec <|
      .required "commentary" Liveness.codec .nil)
    (fun (item, ratings, commentary, ()) => ⟨item, ratings, commentary⟩)
    fun h => (h.item, h.ratings, h.commentary, ())

end AggregateGateway.Catalog

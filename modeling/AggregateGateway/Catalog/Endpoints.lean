import AggregateGateway.Catalog.Record

/-!
Where the services are.
-/

namespace AggregateGateway.Catalog

structure Endpoints where
  item : String
  ratings : String
  commentary : String
  deriving DecidableEq

namespace Endpoints

/-- The address of a service as it was given. -/
def given (e : Endpoints) : Service → String
  | .item => e.item
  | .ratings => e.ratings
  | .commentary => e.commentary

/-- The address that paths are appended to: without slashes at the end. -/
def base (e : Endpoints) (s : Service) : String :=
  String.ofList ((e.given s).toList.reverse.dropWhile (· == '/')).reverse

end Endpoints

end AggregateGateway.Catalog

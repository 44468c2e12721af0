/-!
The size of the publish pool. The queue capacity is meant for all workers together; each gets an
equal share of it, rounded up, and never less than one place.
-/

namespace AggregateGateway.Publish

structure Sizing where
  workers : Nat
  queueCapacity : Nat
  deriving DecidableEq

namespace Sizing

/-- A pool has at least one worker. -/
def workerCount (s : Sizing) : Nat :=
  max s.workers 1

def perWorker (s : Sizing) : Nat :=
  max ((s.queueCapacity + s.workerCount - 1) / s.workerCount) 1

theorem workerCount_pos (s : Sizing) : 0 < s.workerCount := by
  unfold workerCount
  omega

end Sizing

end AggregateGateway.Publish

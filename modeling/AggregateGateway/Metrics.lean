import AggregateGateway.Text.Shortest

/-!
Measurements. Components report what happened; a registry adds it up per label and shows the
totals as lines of the Prometheus text format.
-/

namespace AggregateGateway.Metrics

inductive Metric where
  | breakerState
  | breakerCalls
  | breakerSuccesses
  | breakerFailures
  | breakerRejections
  | retryAttempts
  | retrySuccesses
  | retryExhausted
  | publishSubmitted
  | publishRejected
  | publishPublished
  | publishFailed
  | publishDuration
  | fallbacks
  | degradedReads
  deriving DecidableEq

namespace Metric

def all : List Metric :=
  [.breakerState, .breakerCalls, .breakerSuccesses, .breakerFailures, .breakerRejections,
   .retryAttempts, .retrySuccesses, .retryExhausted, .publishSubmitted, .publishRejected,
   .publishPublished, .publishFailed, .publishDuration, .fallbacks, .degradedReads]

def name : Metric → String
  | .breakerState => "circuit_breaker_state"
  | .breakerCalls => "circuit_breaker_calls_total"
  | .breakerSuccesses => "circuit_breaker_successes_total"
  | .breakerFailures => "circuit_breaker_failures_total"
  | .breakerRejections => "circuit_breaker_rejections_total"
  | .retryAttempts => "retry_attempts_total"
  | .retrySuccesses => "retry_successes_total"
  | .retryExhausted => "retry_exhausted_total"
  | .publishSubmitted => "publish_submitted_total"
  | .publishRejected => "publish_rejected_total"
  | .publishPublished => "publish_published_total"
  | .publishFailed => "publish_failed_total"
  | .publishDuration => "publish_duration_seconds"
  | .fallbacks => "downstream_fallbacks_total"
  | .degradedReads => "downstream_degraded_reads_total"

def help : Metric → String
  | .breakerState => "Current circuit breaker state (0=closed, 1=half-open, 2=open)"
  | .breakerCalls => "Total number of calls through circuit breaker"
  | .breakerSuccesses => "Total number of successful calls"
  | .breakerFailures => "Total number of failed calls"
  | .breakerRejections => "Total number of rejected calls (circuit open)"
  | .retryAttempts => "Total number of retry attempts"
  | .retrySuccesses => "Total number of operations that succeeded after retrying"
  | .retryExhausted => "Total number of operations that exhausted their attempts"
  | .publishSubmitted => "Total number of events accepted by the publish pool"
  | .publishRejected => "Total number of events rejected because the pool queue was full"
  | .publishPublished => "Total number of events accepted by the event channel"
  | .publishFailed => "Total number of events the event channel refused"
  | .publishDuration => "Time from worker pickup to channel acknowledgement"
  | .fallbacks => "Total number of primary reads answered by the fallback"
  | .degradedReads => "Total number of secondary reads degraded to an empty result"

def kind : Metric → String
  | .breakerState => "gauge"
  | .publishDuration => "histogram"
  | _ => "counter"

/-- What the label of a metric says; retries are counted without one. -/
def labelName : Metric → String
  | .breakerState | .breakerCalls | .breakerSuccesses | .breakerFailures | .breakerRejections =>
    "breaker"
  | .retryAttempts | .retrySuccesses | .retryExhausted => ""
  | .publishSubmitted | .publishRejected | .publishPublished | .publishFailed
  | .publishDuration => "topic"
  | .fallbacks | .degradedReads => "dependency"

end Metric

/-- One report of a component. -/
inductive Measurement where
  | count (metric : Metric) (label : String)
  /-- The state of a breaker as a number. -/
  | state (breaker : String) (value : Float)
  | duration (topic : String) (nanos : Nat)
  deriving DecidableEq

/-- Durations are kept in blocks, the newest block first; in a block the oldest comes first. -/
abbrev Durations := List (List Nat)

namespace Durations

def blockSize : Nat := 64

def insert (nanos : Nat) : Durations → Durations
  | [] => [[nanos]]
  | block :: older =>
    if block.length < blockSize then (block ++ [nanos]) :: older else [nanos] :: block :: older

def seconds (nanos : Nat) : Float :=
  (nanos / 1000000000).toFloat + (nanos % 1000000000).toFloat / 1000000000.0

/-- Each block is added up by itself, and then the blocks are. -/
def total (ds : Durations) : Float :=
  (ds.map fun block => (block.map seconds).foldl (· + ·) 0.0).foldl (· + ·) 0.0

end Durations

structure Registry where
  counts : List ((Metric × String) × Nat)
  states : List (String × Float)
  durations : List (String × Durations)
  deriving DecidableEq

/-- Changes the entry of a key, or adds one at the end. -/
def update {κ ν : Type} [BEq κ] (key : κ) (change : ν → ν) (fresh : ν) :
    List (κ × ν) → List (κ × ν)
  | [] => [(key, change fresh)]
  | (k, v) :: entries =>
    if k == key then (k, change v) :: entries else (k, v) :: update key change fresh entries

namespace Registry

def empty : Registry := ⟨[], [], []⟩

def record (r : Registry) : Measurement → Registry
  | .count metric label => { r with counts := update (metric, label) (· + 1) 0 r.counts }
  | .state breaker value => { r with states := update breaker (fun _ => value) value r.states }
  | .duration topic nanos =>
    { r with durations := update topic (Durations.insert nanos) [] r.durations }

def recordAll (r : Registry) (ms : List Measurement) : Registry :=
  ms.foldl record r

/-- How often something was counted. -/
def count (r : Registry) (metric : Metric) (label : String) : Nat :=
  (r.counts.lookup (metric, label)).getD 0

def state? (r : Registry) (breaker : String) : Option Float :=
  r.states.lookup breaker

/-- The metrics that have samples. -/
def measured (r : Registry) : List Metric :=
  Metric.all.filter fun m =>
    match m with
    | .breakerState => !r.states.isEmpty
    | .publishDuration => !r.durations.isEmpty
    | m => r.counts.any fun ((n, _), _) => n == m

end Registry

/-- A label value between quotes. A backslash that is followed by another one stands for itself
together with it; quotes and line feeds are escaped. -/
def escapeLabel (s : String) : String :=
  String.ofList (go false s.toList)
where
  go (held : Bool) : List Char → List Char
    | [] => if held then ['\\', '\\'] else []
    | '\n' :: cs => '\\' :: 'n' :: go held cs
    | '"' :: cs => '\\' :: '"' :: go false cs
    | '\\' :: cs => if held then '\\' :: '\\' :: go false cs else go true cs
    | c :: cs => (if held then ['\\', '\\'] else []) ++ c :: go false cs

def labels (pairs : List (String × String)) : String :=
  match pairs with
  | [] => ""
  | pairs =>
    "\x7b" ++ ",".intercalate (pairs.map fun (k, v) => k ++ "=\"" ++ v ++ "\"") ++ "\x7d"

def sample (name : String) (pairs : List (String × String)) (value : String) : String :=
  name ++ labels pairs ++ " " ++ value

/-- The label of a sample, if its metric has one; the value has its written form. -/
def Metric.pairs (m : Metric) (written : String) : List (String × String) :=
  if m.labelName.isEmpty then [] else [(m.labelName, written)]

/-- Entries under the written forms of their labels. Labels that are written alike share one
entry. -/
def byWrittenLabel {ν : Type} (join : ν → ν → ν) (entries : List (String × ν)) :
    List (String × ν) :=
  entries.foldl (fun shared (label, v) =>
    match shared.lookup (escapeLabel label) with
    | none => shared ++ [(escapeLabel label, v)]
    | some _ => update (escapeLabel label) (join · v) v shared) []

/-- Upper bounds of the duration buckets, in nanoseconds and as they are shown in seconds. -/
def buckets : List (Nat × String) :=
  [(1000000, "0.001"), (5000000, "0.005"), (10000000, "0.01"), (25000000, "0.025"),
   (50000000, "0.05"), (100000000, "0.1"), (250000000, "0.25"), (500000000, "0.5"),
   (1000000000, "1"), (2500000000, "2.5"), (5000000000, "5"), (10000000000, "10")]

def durationSamples (written : String) (ds : Durations) : List String :=
  let name := Metric.publishDuration.name
  let pairs := Metric.publishDuration.pairs written
  let nanos := ds.flatten
  let total := toString nanos.length
  buckets.map (fun (bound, shown) =>
    sample (name ++ "_bucket") (pairs ++ [("le", shown)])
      (toString (nanos.countP (· ≤ bound)))) ++
  [sample (name ++ "_bucket") (pairs ++ [("le", "+Inf")]) total,
   sample (name ++ "_sum") pairs (Text.plainFloatText ds.total),
   sample (name ++ "_count") pairs total]

namespace Registry

/-- The entries of a metric that is counted, by label. -/
def countsOf (r : Registry) (m : Metric) : List (String × Nat) :=
  r.counts.filterMap fun ((n, label), total) => if n == m then some (label, total) else none

/-- The samples of one metric. Of labels that are written alike the last one shows its number, and
their durations are put together. -/
def samplesOf (r : Registry) : Metric → List String
  | .breakerState => numberSamples Text.plainFloatText .breakerState r.states
  | .publishDuration =>
    (byWrittenLabel (· ++ ·) r.durations).flatMap fun (written, ds) => durationSamples written ds
  | m => numberSamples toString m (r.countsOf m)
where
  numberSamples {ν : Type} (shown : ν → String) (m : Metric) (numbers : List (String × ν)) :
      List String :=
    (byWrittenLabel (fun _ n => n) numbers).map fun (written, n) =>
      sample m.name (m.pairs written) (shown n)

/-- All samples, one line each, in ascending order. -/
def samples (r : Registry) : List String :=
  (r.measured.flatMap r.samplesOf).mergeSort fun a b => decide (a ≤ b)

def typeLine (m : Metric) : String :=
  "# TYPE " ++ m.name ++ " " ++ m.kind

/-- Help and type of a metric. -/
def describe (m : Metric) : List String :=
  ["# HELP " ++ m.name ++ " " ++ m.help, typeLine m]

/-- Help and type of every metric that has samples. -/
def descriptions (r : Registry) : List String :=
  (r.measured.flatMap describe).mergeSort fun a b => decide (a ≤ b)

/-- The text in which all measurements are shown: per metric its type, its samples and an empty
line. What is counted comes first, then states, then durations. -/
def exposition (r : Registry) : String :=
  String.join ((["counter", "gauge", "histogram"].flatMap measuredOf).map fun m =>
    String.join ((typeLine m :: r.samplesOf m).map (· ++ "\n")) ++ "\n")
where
  measuredOf (kind : String) : List Metric := r.measured.filter fun m => m.kind == kind

end Registry

end AggregateGateway.Metrics

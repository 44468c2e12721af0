import AggregateGateway.Publish.Sizing
import AggregateGateway.Resilience.Policy
import AggregateGateway.Text.Blank

/-!
The configuration: read from named variables or from a document, checked, and turned into the
settings of the parts. A variable that is blank counts as absent, and so does a number that cannot
be read.
-/

namespace AggregateGateway

open Json (Codec Fields)
open Time (Span)

namespace Config

structure Server where
  host : String
  port : UInt16
  /-- The address that views and stand-in items report. -/
  serviceAddress : String
  deriving DecidableEq

structure Downstream where
  itemUrl : String
  ratingsUrl : String
  commentaryUrl : String
  healthTimeout : Span
  secondaryTimeout : Span
  deriving DecidableEq

structure Resilience where
  itemTimeout : Span
  retryMaxAttempts : UInt64
  retryWait : Span
  breakerWindowSize : UInt64
  breakerMinimumCalls : UInt64
  breakerFailureRate : UInt8
  breakerOpenWait : Span
  breakerHalfOpenCalls : UInt64
  deriving DecidableEq

structure Channel where
  brokers : String
  itemsTopic : String
  ratingsTopic : String
  commentaryTopic : String
  deriving DecidableEq

structure Publisher where
  workers : UInt64
  queueCapacity : UInt64
  deriving DecidableEq

end Config

structure Config where
  server : Config.Server
  downstream : Config.Downstream
  resilience : Config.Resilience
  channel : Config.Channel
  publisher : Config.Publisher
  deriving DecidableEq

namespace Config

/-- The values of variables. -/
abbrev Variables := String → Option String

namespace Variables

/-- The value of a variable that is not blank. -/
def get? (vars : Variables) (name : String) : Option String :=
  (vars name).filter fun value => !Text.isBlankText value

def text (vars : Variables) (name default : String) : String :=
  (vars.get? name).getD default

/-- An unsigned number of at most `limit`, which blanks may surround. -/
def number (vars : Variables) (limit : Nat) (name : String) (default : Nat) : Nat :=
  ((vars.get? name).bind fun value => Text.unsigned? limit (Text.trim value.toList)).getD default

def word (vars : Variables) (name : String) (default : Nat) : UInt64 :=
  UInt64.ofNat (vars.number (UInt64.size - 1) name default)

def millis (vars : Variables) (name : String) (default : Nat) : Span :=
  Span.millis (vars.word name default)

end Variables

def ofVariables (vars : Variables) : Config :=
  let port := UInt16.ofNat (vars.number (UInt16.size - 1) "PORT" 8080)
  { server :=
      { host := vars.text "HOST" "0.0.0.0"
        port
        serviceAddress :=
          (vars.get? "SERVICE_ADDRESS").getD
            (vars.text "HOSTNAME" "localhost" ++ ":" ++ toString port.toNat) }
    downstream :=
      { itemUrl := vars.text "ITEM_SERVICE_URL" "http://item:8080"
        ratingsUrl := vars.text "RATINGS_SERVICE_URL" "http://ratings:8080"
        commentaryUrl := vars.text "COMMENTARY_SERVICE_URL" "http://commentary:8080"
        healthTimeout := vars.millis "HEALTH_TIMEOUT_MS" 2000
        secondaryTimeout := vars.millis "SECONDARY_TIMEOUT_MS" 5000 }
    resilience :=
      { itemTimeout := vars.millis "ITEM_TIMEOUT_MS" 2000
        retryMaxAttempts := vars.word "RETRY_MAX_ATTEMPTS" 3
        retryWait := vars.millis "RETRY_WAIT_MS" 1000
        breakerWindowSize := vars.word "BREAKER_WINDOW_SIZE" 5
        breakerMinimumCalls := vars.word "BREAKER_MINIMUM_CALLS" 5
        breakerFailureRate := UInt8.ofNat (vars.number (UInt8.size - 1) "BREAKER_FAILURE_RATE" 50)
        breakerOpenWait := vars.millis "BREAKER_OPEN_WAIT_MS" 10000
        breakerHalfOpenCalls := vars.word "BREAKER_HALF_OPEN_CALLS" 3 }
    channel :=
      { brokers := vars.text "REDPANDA_BROKERS" "localhost:9092"
        itemsTopic := vars.text "ITEMS_TOPIC" "items"
        ratingsTopic := vars.text "RATINGS_TOPIC" "ratings"
        commentaryTopic := vars.text "COMMENTARY_TOPIC" "commentary" }
    publisher :=
      { workers := vars.word "PUBLISH_POOL_WORKERS" 10
        queueCapacity := vars.word "PUBLISH_QUEUE_CAPACITY" 100 } }

/-- A setting that makes no sense, under the name of its variable. -/
inductive Invalid where
  | zero (name : String)
  | percentOutOfRange (name : String) (value : UInt8)
  deriving DecidableEq

def Invalid.message : Invalid → String
  | .zero name => name ++ " must be greater than zero"
  | .percentOutOfRange name value =>
    name ++ " must be between 0 and 100, got " ++ toString value.toNat

/-- The settings that must not be zero, in the order in which they are checked. -/
def counts (c : Config) : List (String × UInt64) :=
  [("PUBLISH_POOL_WORKERS", c.publisher.workers),
   ("PUBLISH_QUEUE_CAPACITY", c.publisher.queueCapacity),
   ("RETRY_MAX_ATTEMPTS", c.resilience.retryMaxAttempts),
   ("BREAKER_WINDOW_SIZE", c.resilience.breakerWindowSize),
   ("BREAKER_HALF_OPEN_CALLS", c.resilience.breakerHalfOpenCalls)]

/-- The first setting that makes no sense. -/
def validate (c : Config) : Except Invalid Unit :=
  match c.counts.find? fun (_, n) => n == 0 with
  | some (name, _) => .error (.zero name)
  | none =>
    if 100 < c.resilience.breakerFailureRate then
      .error (.percentOutOfRange "BREAKER_FAILURE_RATE" c.resilience.breakerFailureRate)
    else .ok ()

def bindAddress (c : Config) : String :=
  c.server.host ++ ":" ++ toString c.server.port.toNat

def breaker (c : Config) : Resilience.Breaker.Settings :=
  .build c.resilience.breakerWindowSize.toNat c.resilience.breakerMinimumCalls.toNat
    c.resilience.breakerFailureRate.toNat c.resilience.breakerOpenWait
    c.resilience.breakerHalfOpenCalls.toNat

def retry (c : Config) : Resilience.Retry.Policy :=
  .build c.resilience.retryMaxAttempts.toNat c.resilience.retryWait

def pool (c : Config) : Publish.Sizing :=
  ⟨c.publisher.workers.toNat, c.publisher.queueCapacity.toNat⟩

def Server.codec : Codec Server :=
  Json.record "ServerConfig"
    (.required "host" Json.text <| .required "port" Json.uint16 <|
      .required "service_address" Json.text .nil)
    (fun (host, port, serviceAddress, ()) => ⟨host, port, serviceAddress⟩)
    fun s => (s.host, s.port, s.serviceAddress, ())

def Downstream.codec : Codec Downstream :=
  Json.record "DownstreamConfig"
    (.required "item_url" Json.text <| .required "ratings_url" Json.text <|
      .required "commentary_url" Json.text <| .required "health_timeout" Span.codec <|
      .required "secondary_timeout" Span.codec .nil)
    (fun (item, ratings, commentary, health, secondary, ()) =>
      ⟨item, ratings, commentary, health, secondary⟩)
    fun d => (d.itemUrl, d.ratingsUrl, d.commentaryUrl, d.healthTimeout, d.secondaryTimeout, ())

def Resilience.codec : Codec Resilience :=
  Json.record "ResilienceConfig"
    (.required "item_timeout" Span.codec <| .required "retry_max_attempts" Json.size <|
      .required "retry_wait" Span.codec <| .required "breaker_window_size" Json.size <|
      .required "breaker_minimum_calls" Json.size <|
      .required "breaker_failure_rate" Json.uint8 <|
      .required "breaker_open_wait" Span.codec <|
      .required "breaker_half_open_calls" Json.size .nil)
    (fun (timeout, attempts, wait, window, minimum, rate, openWait, trials, ()) =>
      ⟨timeout, attempts, wait, window, minimum, rate, openWait, trials⟩)
    fun r => (r.itemTimeout, r.retryMaxAttempts, r.retryWait, r.breakerWindowSize,
      r.breakerMinimumCalls, r.breakerFailureRate, r.breakerOpenWait, r.breakerHalfOpenCalls, ())

def Channel.codec : Codec Channel :=
  Json.record "RedpandaConfig"
    (.required "brokers" Json.text <| .required "items_topic" Json.text <|
      .required "ratings_topic" Json.text <| .required "commentary_topic" Json.text .nil)
    (fun (brokers, items, ratings, commentary, ()) => ⟨brokers, items, ratings, commentary⟩)
    fun c => (c.brokers, c.itemsTopic, c.ratingsTopic, c.commentaryTopic, ())

def Publisher.codec : Codec Publisher :=
  Json.record "PublisherConfig"
    (.required "workers" Json.size <| .required "queue_capacity" Json.size .nil)
    (fun (workers, capacity, ()) => ⟨workers, capacity⟩)
    fun p => (p.workers, p.queueCapacity, ())

def codec : Codec Config :=
  Json.record "Config"
    (.required "server" Server.codec <| .required "downstream" Downstream.codec <|
      .required "resilience" Resilience.codec <| .required "redpanda" Channel.codec <|
      .required "publisher" Publisher.codec .nil)
    (fun (server, downstream, resilience, channel, publisher, ()) =>
      ⟨server, downstream, resilience, channel, publisher⟩)
    fun c => (c.server, c.downstream, c.resilience, c.channel, c.publisher, ())

end Config

end AggregateGateway

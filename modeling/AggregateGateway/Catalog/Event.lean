import AggregateGateway.Catalog.Record
import AggregateGateway.Time.Rfc3339

/-!
Events: the intent to create a record or to delete all records of an item, stamped with a time.
An event is sent as an envelope, a document in which the payload is a field of its own; `decode`
accepts the envelopes of events and says of any other in what way it contradicts itself.
-/

namespace AggregateGateway.Catalog

open Json (Codec Fields)
open Time (Instant)

inductive Event (α : Type) where
  | create (payload : α) (createdAt : Instant)
  | delete (key : ItemId) (createdAt : Instant)
  deriving DecidableEq

inductive EventKind where
  | create
  | delete
  deriving DecidableEq

def EventKind.name : EventKind → String
  | .create => "CREATE"
  | .delete => "DELETE"

namespace Event

variable {α : Type}

def kind : Event α → EventKind
  | .create .. => .create
  | .delete .. => .delete

def key [Keyed α] : Event α → ItemId
  | .create a _ => Keyed.key a
  | .delete k _ => k

def payload? : Event α → Option α
  | .create a _ => some a
  | .delete .. => none

def createdAt : Event α → Instant
  | .create _ t => t
  | .delete _ t => t

/-- The same intent, at whatever time. -/
def isSame [DecidableEq α] : Event α → Event α → Bool
  | .create a _, .create b _ => a == b
  | .delete k _, .delete l _ => k == l
  | _, _ => false

end Event

/-- The fields of an event's document, which need not fit together. -/
structure Envelope (α : Type) where
  kind : EventKind
  key : ItemId
  payload : Option α
  createdAt : Instant
  deriving DecidableEq

def EventKind.codec : Codec EventKind :=
  Json.variant [("CREATE", .create), ("DELETE", .delete)] EventKind.name

def Envelope.codec (α : Type) [Keyed α] : Codec (Envelope α) :=
  Json.record "Event"
    (.required "eventType" EventKind.codec <| .required "key" Json.int32 <|
      .optional "data" Keyed.codec <| .required "eventCreatedAt" Time.Instant.codec .nil)
    (fun (kind, key, payload, createdAt, ()) => ⟨kind, key, payload, createdAt⟩)
    fun e => (e.kind, e.key, e.payload, e.createdAt, ())

/-- How an envelope contradicts itself. -/
inductive Contradiction where
  | createWithoutPayload
  | createOfOtherKey (payloadKey envelopeKey : ItemId)
  | deleteWithPayload
  deriving DecidableEq

def Contradiction.message : Contradiction → String
  | .createWithoutPayload => "CREATE event without data"
  | .createOfOtherKey payload envelope =>
    "CREATE payload belongs to key " ++ toString payload.toInt ++ ", envelope key is " ++
      toString envelope.toInt
  | .deleteWithPayload => "DELETE event with data"

variable {α : Type} [Keyed α]

def Event.envelope (e : Event α) : Envelope α :=
  ⟨e.kind, e.key, e.payload?, e.createdAt⟩

def Envelope.event (e : Envelope α) : Except Contradiction (Event α) :=
  match e.kind, e.payload with
  | .create, none => .error .createWithoutPayload
  | .create, some a =>
    if Keyed.key a = e.key then .ok (.create a e.createdAt)
    else .error (.createOfOtherKey (Keyed.key a) e.key)
  | .delete, some _ => .error .deleteWithPayload
  | .delete, none => .ok (.delete e.key e.createdAt)

theorem Event.event_envelope (e : Event α) : e.envelope.event = .ok e := by
  cases e <;> simp [Event.envelope, Envelope.event, Event.kind, Event.key, Event.payload?,
    Event.createdAt]

theorem Envelope.envelope_of_event {e : Envelope α} {x : Event α} (h : e.event = .ok x) :
    x.envelope = e := by
  obtain ⟨kind, key, payload, createdAt⟩ := e
  cases kind <;> cases payload <;> simp only [Envelope.event, reduceCtorEq] at h
  · split at h
    · next hk => injection h with h; subst h; simp [Event.envelope, Event.kind, Event.key,
        Event.payload?, Event.createdAt, hk]
    · simp at h
  · injection h with h
    subst h
    rfl

/-- What is handed to a channel: a key that places the message, the kind, and the document. -/
structure Message where
  key : String
  kind : String
  data : Bytes
  deriving DecidableEq

def Event.message (e : Event α) : Message where
  key := toString e.key.toInt
  kind := e.kind.name
  data := (Envelope.codec α).write e.envelope

/-- Why octets are not the document of an event. -/
inductive EventFault where
  | unreadable (f : Json.Fault)
  | contradictory (c : Contradiction)

def EventFault.message (document : Bytes) : EventFault → String
  | .unreadable f => "Failed to deserialize event: " ++ f.message document
  | .contradictory c => "Malformed event envelope: " ++ c.message

def Event.decode (document : Bytes) : Except EventFault (Event α) :=
  match (Envelope.codec α).decode document with
  | .error f => .error (.unreadable f)
  | .ok e => e.event.mapError .contradictory

end AggregateGateway.Catalog

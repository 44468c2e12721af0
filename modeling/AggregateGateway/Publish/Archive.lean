import AggregateGateway.Publish.Pool

/-!
A channel in memory, which keeps what it accepts and can be told to refuse everything.
-/

namespace AggregateGateway.Publish

open Catalog (Message)

structure Archive where
  isRefusing : Bool
  /-- The accepted messages with their topics, oldest first. -/
  entries : List (String × Message)
  deriving DecidableEq

namespace Archive

def empty : Archive := ⟨false, []⟩

def refusal (topic : String) : ChannelError :=
  .publish topic "publishing disabled by test"

def publish : Publishing Archive := fun job a =>
  some (if a.isRefusing then (.refused (refusal job.topic), a)
    else (.accepted, { a with entries := a.entries ++ [(job.topic, job.message)] }))

def onTopic (a : Archive) (topic : String) : List Message :=
  (a.entries.filter fun (t, _) => t == topic).map Prod.snd

end Archive

end AggregateGateway.Publish

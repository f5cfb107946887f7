import StoryTrace.Event.Codec
import StoryTrace.Sink.Basic
import StoryTrace.Store.Replay
import StoryTrace.Supply

/-!
# Batches

A sink that posts its pending events in one request to an ingestion service. A batch is handed over
once: whatever the service answers, its events are no longer pending.
-/

namespace StoryTrace

/-- The address of the service and the keys that name the project. -/
structure Endpoint where
  host : String
  publicKey : String
  secretKey : String
  timeoutSeconds : Nat
  deriving DecidableEq, Repr

namespace Endpoint

/-- A text without the slashes at its end. -/
def withoutSlashes (s : String) : String :=
  String.ofList (s.toList.reverse.dropWhile (· == '/')).reverse

def new (host publicKey secretKey : String) : Endpoint :=
  ⟨withoutSlashes host, publicKey, secretKey, 30⟩

end Endpoint

/-- What became of a request. -/
inductive Reply where
  | unreachable
  | answered (status : Nat) (body : String)
  deriving DecidableEq, Repr

/-- Any answer with a status from 200 to 299 is a success. -/
def Reply.outcome : Reply → Except SinkError Unit
  | .unreachable => .error (.network "the request was not answered")
  | .answered status body =>
    if 200 ≤ status ∧ status < 300 then .ok () else .error (.rejected status body)

structure Batch where
  endpoint : Endpoint
  queue : List Event
  supply : Supply
  /-- The batches handed over so far, the first one first. -/
  sent : List (List Event)
  /-- What becomes of the first request, the second request and so on. -/
  replies : Nat → Reply

namespace Batch

def start (endpoint : Endpoint) (supply : Supply) (replies : Nat → Reply) : Batch :=
  ⟨endpoint, [], supply, [], replies⟩

def enqueue (b : Batch) (w : Write) : Batch :=
  let (id, supply) := b.supply.takeId
  let (now, supply) := supply.takeTime
  { b with queue := b.queue ++ [Event.ofWrite w id now], supply }

/-- Hands the queued events over in one request, if there are any. -/
def handOver (b : Batch) : Except SinkError Unit × Batch :=
  if b.queue.isEmpty then (.ok (), b)
  else
    ((b.replies b.sent.length).outcome, { b with queue := [], sent := b.sent ++ [b.queue] })

instance : Sink Batch where
  name _ := "langfuse"
  send w b := (.ok (), b.enqueue w)
  flush := handOver
  pending b := b.queue.length

end Batch

end StoryTrace

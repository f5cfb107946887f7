import Mathlib.Data.List.DropRight
import StoryTrace.Sink.Basic
import StoryTrace.Store.Replay
import StoryTrace.Supply

/-!
# Uses of a sink

Writes and flushes in any order. The last flush divides the writes: those before it were passed on,
those after it wait. Both kinds of sinks that keep events make one event of every write, each with
an id and a time of its own, and keep the events in the order of the writes.
-/

namespace StoryTrace

/-- What can be asked of a sink. -/
inductive SinkUse where
  | write (w : Write)
  | flush

namespace SinkUse

def write? : SinkUse → Option Write
  | .write w => some w
  | .flush => none

def isWrite : SinkUse → Bool
  | .write _ => true
  | .flush => false

def writes (uses : List SinkUse) : List Write := uses.filterMap write?

/-- The writes before the last flush. -/
def flushed (uses : List SinkUse) : List Write := writes (uses.rdropWhile isWrite)

/-- The writes since the last flush. -/
def waiting (uses : List SinkUse) : List Write := writes (uses.rtakeWhile isWrite)

variable (uses : List SinkUse) (w : Write)

@[simp] theorem writes_concat_write : writes (uses ++ [.write w]) = writes uses ++ [w] := by
  simp [writes, write?]

@[simp] theorem writes_concat_flush : writes (uses ++ [.flush]) = writes uses := by
  simp [writes, write?]

@[simp] theorem flushed_concat_write : flushed (uses ++ [.write w]) = flushed uses := by
  rw [flushed, List.rdropWhile_concat_pos _ _ _ (by rfl), flushed]

@[simp] theorem flushed_concat_flush : flushed (uses ++ [.flush]) = writes uses := by
  rw [flushed, List.rdropWhile_concat_neg _ _ _ (by decide), writes_concat_flush]

@[simp] theorem waiting_concat_write : waiting (uses ++ [.write w]) = waiting uses ++ [w] := by
  rw [waiting, List.rtakeWhile_concat_pos _ _ _ (by rfl), writes_concat_write, waiting]

@[simp] theorem waiting_concat_flush : waiting (uses ++ [.flush]) = [] := by
  rw [waiting, List.rtakeWhile_concat_neg _ _ _ (by decide)]
  rfl

theorem flushed_append_waiting : flushed uses ++ waiting uses = writes uses := by
  rw [flushed, waiting, writes, writes, writes, ← List.filterMap_append,
    List.rdropWhile_append_rtakeWhile]

end SinkUse

namespace Sink

variable {σ : Type} [Sink σ]

def use : SinkUse → StateM σ (Except SinkError Unit)
  | .write w => Sink.send w
  | .flush => Sink.flush

/-- The uses one after the other, each with its answer. -/
def useAll (uses : List SinkUse) : StateM σ (List (Except SinkError Unit)) := uses.mapM use

theorem useAll_concat (uses : List SinkUse) (u : SinkUse) (sink : σ) :
    useAll (uses ++ [u]) sink =
      ((useAll uses sink).1 ++ [(use u (useAll uses sink).2).1],
        (use u (useAll uses sink).2).2) := by
  rw [useAll, List.mapM_append, List.mapM_cons, List.mapM_nil]
  rfl

/-- What every use keeps holds after any uses. -/
theorem useAll_induction {motive : List SinkUse → List (Except SinkError Unit) → σ → Prop}
    {sink : σ} (start : motive [] [] sink)
    (step : ∀ {uses answers next} (u : SinkUse), motive uses answers next →
      motive (uses ++ [u]) (answers ++ [(use u next).1]) (use u next).2)
    (uses : List SinkUse) : motive uses (useAll uses sink).1 (useAll uses sink).2 := by
  induction uses using List.reverseRecOn with
  | nil => exact start
  | append_singleton uses u ih =>
      rw [useAll_concat]
      exact step u ih

end Sink

/-! ## The events of writes -/

namespace Supply

/-- The supply after so many ids and as many clock readings were taken from it. -/
def past (s : Supply) (n : Nat) : Supply :=
  { s with idsUsed := s.idsUsed + n, readings := s.readings + n }

theorem takeTime_takeId_past (s : Supply) (n : Nat) :
    (s.past n).takeId.2.takeTime.2 = s.past (n + 1) := rfl

end Supply

namespace Event

theorem id_ofWrite (w : Write) (id : String) (time : Instant) : (ofWrite w id time).id = id := by
  cases w <;> rfl

theorem timestamp_ofWrite (w : Write) (id : String) (time : Instant) :
    (ofWrite w id time).timestamp = time := by
  cases w <;> rfl

/-- The events of the writes. Each takes one id and one clock reading. -/
def ofWrites (s : Supply) (writes : List Write) : List Event :=
  writes.mapIdx fun i w => ofWrite w (s.ids (s.idsUsed + i)) (s.clock (s.readings + i))

variable (s : Supply) (ws : List Write)

@[simp] theorem ofWrites_nil : ofWrites s [] = [] := rfl

@[simp] theorem length_ofWrites : (ofWrites s ws).length = ws.length := List.length_mapIdx

theorem ofWrites_eq_nil_iff : ofWrites s ws = [] ↔ ws = [] := List.mapIdx_eq_nil_iff

theorem ofWrites_append (more : List Write) :
    ofWrites s (ws ++ more) = ofWrites s ws ++ ofWrites (s.past ws.length) more := by
  rw [ofWrites, List.mapIdx_append, ofWrites, ofWrites]
  congr 2
  funext i w
  simp only [Supply.past, Nat.add_comm i, Nat.add_assoc]

theorem ofWrites_concat (w : Write) :
    ofWrites s (ws ++ [w]) = ofWrites s ws ++
      [ofWrite w (s.past ws.length).takeId.1 (s.past ws.length).takeId.2.takeTime.1] := by
  rw [ofWrites_append]
  rfl

/-- No two events have the same id. -/
theorem nodup_ids_ofWrites {s : Supply} (h : s.Fresh) (ws : List Write) :
    ((ofWrites s ws).map (·.id)).Nodup := by
  have hIds : (ofWrites s ws).map (·.id) =
      (List.range' s.idsUsed ws.length).map s.ids := by
    apply List.ext_getElem <;> simp [ofWrites, id_ofWrite]
  rw [hIds]
  exact List.pairwise_map.2 (List.Pairwise.imp (fun hNe hEq => hNe (h _ _ hEq)) List.nodup_range')

end Event

/-! ## Queues -/

open SinkUse

/-- A queue after some uses holds the events of the writes that wait, and every write has taken one
id and one clock reading from the supply. -/
structure Queues (start : Supply) (uses : List SinkUse) (queue : List Event) (supply : Supply) :
    Prop where
  queue : queue = Event.ofWrites (start.past (flushed uses).length) (waiting uses)
  supply : supply = start.past (writes uses).length

namespace Queues

variable {start supply : Supply} {uses : List SinkUse} {queue : List Event}

theorem nil (start : Supply) : Queues start [] [] start := ⟨rfl, rfl⟩

theorem length_queue (h : Queues start uses queue supply) :
    queue.length = (waiting uses).length := by
  rw [h.queue, Event.length_ofWrites]

/-- What was flushed and what is queued are the events of all writes. -/
theorem append_queue (h : Queues start uses queue supply) :
    Event.ofWrites start (flushed uses) ++ queue = Event.ofWrites start (writes uses) := by
  rw [h.queue, ← Event.ofWrites_append, flushed_append_waiting]

theorem write (h : Queues start uses queue supply) (w : Write) :
    Queues start (uses ++ [.write w])
      (queue ++ [Event.ofWrite w supply.takeId.1 supply.takeId.2.takeTime.1])
      supply.takeId.2.takeTime.2 where
  queue := by
    have hPast : supply = (start.past (flushed uses).length).past (waiting uses).length := by
      rw [h.supply, ← flushed_append_waiting, List.length_append]
      simp only [Supply.past, Nat.add_assoc]
    rw [flushed_concat_write, waiting_concat_write, Event.ofWrites_concat, ← hPast, ← h.queue]
  supply := by
    rw [h.supply, writes_concat_write, List.length_append, Supply.takeTime_takeId_past]
    rfl

theorem flush (h : Queues start uses queue supply) : Queues start (uses ++ [.flush]) [] supply where
  queue := by rw [waiting_concat_flush, Event.ofWrites_nil]
  supply := by rw [writes_concat_flush, h.supply]

end Queues

end StoryTrace

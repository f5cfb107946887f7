import Mathlib.Data.List.Nodup
import StoryTrace.Proofs.Session
import StoryTrace.Proofs.Sink.Uses
import StoryTrace.Sink.Batch

/-!
# Batches are handed over once

The batches that were handed over, one after the other, and then the queue are the events of all
writes. So no event is in two batches, whatever the service answered, and an event whose batch was
refused is not sent again.
-/

namespace StoryTrace

namespace Reply

/-- The service answered with a status from 200 to 299. -/
def Succeeds (r : Reply) : Prop :=
  ∃ status body, r = .answered status body ∧ 200 ≤ status ∧ status < 300

variable {r : Reply} {status : Nat} {body : String}

theorem outcome_eq_ok_iff : r.outcome = .ok () ↔ r.Succeeds := by
  cases r with
  | unreachable => simp [outcome, Succeeds]
  | answered status body => simp [outcome, Succeeds]

theorem outcome_eq_rejected_iff :
    r.outcome = .error (.rejected status body) ↔ r = .answered status body ∧ ¬ r.Succeeds := by
  cases r with
  | unreachable => simp [outcome]
  | answered code text =>
      simp only [outcome, Succeeds, answered.injEq]
      split <;> simp_all

theorem outcome_eq_network_iff :
    (∃ text, r.outcome = .error (.network text)) ↔ r = .unreachable := by
  cases r with
  | unreachable => simp [outcome]
  | answered status body =>
      simp only [outcome, reduceCtorEq, iff_false]
      split <;> simp

end Reply

namespace Batch

open SinkUse

/-- What a flush comes to if the next request gets the reply: all that is queued goes into one
request, if anything is, and the queue is empty whatever the reply. -/
structure HandsOver (b : Batch) (reply : Reply) (outcome : Except SinkError Unit) (after : Batch) :
    Prop where
  pending : Sink.pending after = 0
  idle : Sink.pending b = 0 → after = b
  posted : Sink.pending b ≠ 0 → after.sent = b.sent ++ [b.queue]
  ok : outcome = .ok () ↔ Sink.pending b = 0 ∨ reply.Succeeds
  rejected : ∀ status body, outcome = .error (.rejected status body) ↔
    Sink.pending b ≠ 0 ∧ reply = .answered status body ∧ ¬ reply.Succeeds
  network : (∃ text, outcome = .error (.network text)) ↔ Sink.pending b ≠ 0 ∧ reply = .unreachable

theorem handsOver_flush (b : Batch) :
    b.HandsOver (b.replies b.sent.length) (Sink.flush b).1 (Sink.flush b).2 := by
  by_cases hEmpty : b.queue = []
  case pos =>
    have hFlush : Sink.flush b = (.ok (), b) := by simp [Sink.flush, handOver, hEmpty]
    have hPending : Sink.pending b = 0 := by simp [Sink.pending, hEmpty]
    rw [hFlush]
    constructor <;> simp [hPending]
  case neg =>
    have hFlush : Sink.flush b = ((b.replies b.sent.length).outcome,
        { b with queue := [], sent := b.sent ++ [b.queue] }) := by
      simp [Sink.flush, handOver, hEmpty]
    have hPending : Sink.pending b ≠ 0 := by simpa [Sink.pending] using hEmpty
    rw [hFlush]
    constructor
    case pending => rfl
    case idle => exact fun h => absurd h hPending
    case posted => exact fun _ => rfl
    case ok => simp [hPending, Reply.outcome_eq_ok_iff]
    case rejected => simp [hPending, Reply.outcome_eq_rejected_iff]
    case network => simp [hPending, Reply.outcome_eq_network_iff]

/-- What was handed over are the events of the writes before the last flush. -/
structure Delivers (supply : Supply) (replies : Nat → Reply) (uses : List SinkUse) (b : Batch) :
    Prop where
  queues : Queues supply uses b.queue b.supply
  sent : b.sent.flatten = Event.ofWrites supply (flushed uses)
  replies : b.replies = replies

namespace Delivers

variable {supply : Supply} {replies : Nat → Reply} {uses : List SinkUse} {b : Batch}

theorem write (h : Delivers supply replies uses b) (w : Write) :
    Delivers supply replies (uses ++ [.write w]) (b.enqueue w) where
  queues := h.queues.write w
  sent := by
    rw [flushed_concat_write, ← h.sent]
    rfl
  replies := h.replies

theorem flush (h : Delivers supply replies uses b) :
    Delivers supply replies (uses ++ [.flush]) b.handOver.2 := by
  have hAll : b.sent.flatten ++ b.queue = Event.ofWrites supply (writes uses) := by
    rw [h.sent, h.queues.append_queue]
  unfold handOver
  split
  case isTrue hEmpty =>
    have hQueue : b.queue = [] := List.isEmpty_iff.1 hEmpty
    refine ⟨hQueue ▸ h.queues.flush, ?_, h.replies⟩
    rw [flushed_concat_flush, ← hAll, hQueue, List.append_nil]
  case isFalse =>
    refine ⟨h.queues.flush, ?_, h.replies⟩
    rw [flushed_concat_flush, ← hAll, List.flatten_append, List.flatten_singleton]

theorem useAll (endpoint : Endpoint) (supply : Supply) (replies : Nat → Reply)
    (uses : List SinkUse) :
    Delivers supply replies uses (Sink.useAll uses (start endpoint supply replies)).2 := by
  refine Sink.useAll_induction (motive := fun uses _ b => Delivers supply replies uses b)
    ⟨.nil supply, rfl, rfl⟩ ?step uses
  case step =>
    intro uses answers b u h
    cases u with
    | write w => exact h.write w
    | flush => exact h.flush

end Delivers

/-- After any writes and flushes, and whatever was answered: the batches that were handed over and
the queue are the events of all writes, each of them once. The queue holds what was written since
the last flush, and one more flush hands over just that. -/
theorem delivered_at_most_once {endpoint : Endpoint} {supply : Supply} {replies : Nat → Reply}
    {uses : List SinkUse} {answers : List (Except SinkError Unit)} {b : Batch}
    (hRun : Sink.useAll uses (start endpoint supply replies) = (answers, b)) :
    b.sent.flatten ++ b.queue = Event.ofWrites supply (writes uses) ∧
    (supply.Fresh → (b.sent ++ [b.queue]).Pairwise fun batch later =>
      (batch.map (·.id)).Disjoint (later.map (·.id))) ∧
    Sink.pending b = (waiting uses).length ∧
    b.HandsOver (replies b.sent.length) (Sink.flush b).1 (Sink.flush b).2 := by
  have h : Delivers supply replies uses b := by
    simpa only [hRun] using Delivers.useAll endpoint supply replies uses
  have hAll : b.sent.flatten ++ b.queue = Event.ofWrites supply (writes uses) := by
    rw [h.sent, h.queues.append_queue]
  refine ⟨hAll, fun hFresh => ?disjoint, h.queues.length_queue, h.replies ▸ handsOver_flush b⟩
  case disjoint =>
    have hNodup : ((b.sent ++ [b.queue]).map (·.map (·.id))).flatten.Nodup := by
      rw [← List.map_flatten, List.flatten_append, List.flatten_singleton, hAll]
      exact Event.nodup_ids_ofWrites hFresh _
    exact List.pairwise_map.1 (List.nodup_flatten.1 hNodup).2

section

/-- The first request gets no answer, the second one is accepted in part, and the service is down
from then on. -/
def failingService : Nat → Reply
  | 0 => .unreachable
  | 1 => .answered 207 "not a list of errors"
  | _ => .answered 500 "down"

/-- An update that appends the given number. -/
def numbered (n : Nat) : SinkUse := .write (.updateTrace ⟨"t1", some (.ofNat n), []⟩)

def unluckyUses : List SinkUse :=
  [numbered 1, numbered 2, .flush, .flush, numbered 3, .flush, numbered 4]

theorem delivered_at_most_once_unluckyUses :
    (Supply.counting ⟨0, 0⟩).Fresh ∧ ∃ answers b,
      Sink.useAll unluckyUses (start (.new "host" "user" "secret") (.counting ⟨0, 0⟩)
        failingService) = (answers, b) ∧
      answers.filter (· ≠ .ok ()) = [.error (.network "the request was not answered")] ∧
      b.sent.map (·.map (·.id)) = [["", "i"], ["ii"]] ∧ b.queue.map (·.id) = ["iii"] ∧
      (b.sent ++ [b.queue]).Pairwise (fun batch later =>
        (batch.map (·.id)).Disjoint (later.map (·.id))) ∧
      (Sink.flush b).1 = .error (.rejected 500 "down") ∧
      (Sink.flush b).2.sent = b.sent ++ [b.queue] ∧ Sink.pending (Sink.flush b).2 = 0 := by
  have hFresh : (Supply.counting ⟨0, 0⟩).Fresh := Supply.fresh_counting _
  obtain ⟨-, hDisjoint, hPending, hFlush⟩ := delivered_at_most_once (Prod.eta (Sink.useAll
    unluckyUses (start (.new "host" "user" "secret") (.counting ⟨0, 0⟩) failingService))).symm
  have hWaiting : (waiting unluckyUses).length ≠ 0 := by decide
  have hReply : ¬ (failingService 2).Succeeds := by
    rintro ⟨status, body, hAnswer, hLow, hHigh⟩
    cases hAnswer
    omega
  refine ⟨hFresh, _, _, rfl, by decide +kernel, by decide +kernel, by decide +kernel,
    hDisjoint hFresh, (hFlush.rejected _ _).2 ⟨hPending ▸ hWaiting, rfl, hReply⟩,
    hFlush.posted (hPending ▸ hWaiting), hFlush.pending⟩

end

end Batch

end StoryTrace

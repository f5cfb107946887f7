import Mathlib.Data.List.Induction
import StoryTrace.Proofs.Store.Replay
import StoryTrace.Proofs.Table

/-!
# Replay of traces

An event cannot tell the creation of a trace from an update, so a replay creates a trace at the
first event of its id and revises it at every later one. A store that receives the writes themselves
ignores the second creation of a trace and the update of an unknown one. The two agree as long as
no write makes a difference between them.
-/

namespace StoryTrace

namespace Trace

/-- A second creation of the trace that tells nothing new. -/
def Repeats (old t : Trace) : Prop :=
  (t.output = none ∨ t.output = old.output) ∧ old.metadata.merge t.metadata = old.metadata

theorem revise_eq_self_iff {old t : Trace} :
    old.revise t.output t.metadata = old ↔ old.Repeats t := by
  obtain ⟨id, sessionId, name, metadata, createdAt, output⟩ := old
  simp only [revise, Repeats, mk.injEq, true_and]
  cases t.output with
  | none => simp
  | some v => simp [and_comm]

end Trace

namespace Store

/-- A write whose event does to the traces of the store what the write does: a creation of a known
trace tells nothing new, and an update is about a known trace. -/
def Unambiguous (s : Store) : Write → Prop
  | .createTrace t => ∀ old ∈ s.traces, old.id = t.id → old.Repeats t
  | .updateTrace u => s.hasTrace u.traceId = true
  | .createSpan _ | .endSpan _ => True

theorem map_eq_self_iff {f : Trace → Trace} {traces : List Trace} :
    traces.map f = traces ↔ ∀ t ∈ traces, f t = t := by
  induction traces with
  | nil => simp
  | cons t rest ih => simp [ih]

theorem hasTrace_eq_false_iff {s : Store} {id : String} :
    s.hasTrace id = false ↔ ∀ t ∈ s.traces, t.id ≠ id := by
  simp [hasTrace]

theorem traces_reviseTrace_eq_iff {s : Store} {t : Trace} :
    (s.reviseTrace t.id t.output t.metadata).traces = s.traces ↔
      ∀ old ∈ s.traces, old.id = t.id → old.Repeats t := by
  rw [reviseTrace, map_eq_self_iff]
  apply forall_congr'
  intro old
  apply forall_congr'
  intro _
  by_cases hId : old.id = t.id
  · simp [hId, Trace.revise_eq_self_iff]
  · simp [hId]

theorem traces_replayTrace_of_known {s : Store} {body : TraceBody}
    (h : s.hasTrace body.id = true) (now : Instant) :
    (s.replayTrace now body).traces =
      (s.reviseTrace body.id body.output (body.metadata.getD [])).traces := by
  rw [replayTrace, if_pos h]

theorem traces_replayTrace_of_unknown {s : Store} {body : TraceBody}
    (h : s.hasTrace body.id = false) (now : Instant) :
    (s.replayTrace now body).traces = s.traces ++ [body.toTrace now] := by
  rw [replayTrace, if_neg (by simp [h])]

section Event

variable {a b : Store} (h : a.traces = b.traces) (now : Instant) (id : String) (time : Instant)
include h

theorem replayEvent_createTrace_iff (t : Trace) :
    (a.replayEvent now (Event.ofWrite (.createTrace t) id time)).traces =
        (b.receive (.createTrace t)).traces ↔ b.Unambiguous (.createTrace t) := by
  have hHas : a.hasTrace (TraceBody.ofTrace t).id = b.hasTrace t.id := by
    rw [hasTrace, hasTrace, h]
    rfl
  change (a.replayTrace now (.ofTrace t)).traces = _ ↔ _
  cases hKnown : b.hasTrace t.id with
  | true =>
      have hDirect : (b.receive (.createTrace t)).traces = a.traces := by
        simp [receive, insertTrace, hKnown, h]
      have hReplay : (a.replayTrace now (.ofTrace t)).traces =
          (a.reviseTrace t.id t.output t.metadata).traces := by
        rw [traces_replayTrace_of_known (hHas.trans hKnown), ← SpanBody.getD_of_isEmpty t.metadata]
        rfl
      rw [hReplay, hDirect, traces_reviseTrace_eq_iff, h]
      rfl
  | false =>
      have hDirect : (b.receive (.createTrace t)).traces = a.traces ++ [t] := by
        simp [receive, insertTrace, hKnown, h]
      rw [hDirect, traces_replayTrace_of_unknown (hHas.trans hKnown), TraceBody.toTrace_ofTrace]
      apply iff_of_true rfl
      intro old hOld hId
      exact absurd hId (hasTrace_eq_false_iff.1 hKnown old hOld)

theorem replayEvent_updateTrace_iff (u : TraceUpdate) :
    (a.replayEvent now (Event.ofWrite (.updateTrace u) id time)).traces =
        (b.receive (.updateTrace u)).traces ↔ b.Unambiguous (.updateTrace u) := by
  have hHas : a.hasTrace (TraceBody.ofUpdate u).id = b.hasTrace u.traceId := by
    rw [hasTrace, hasTrace, h]
    rfl
  have hDirect : (b.receive (.updateTrace u)).traces =
      (a.reviseTrace u.traceId u.output u.metadata).traces := by
    simp [receive, reviseTrace, h]
  change (a.replayTrace now (.ofUpdate u)).traces = _ ↔ _
  rw [hDirect]
  cases hKnown : b.hasTrace u.traceId with
  | true =>
      refine iff_of_true ?_ hKnown
      rw [traces_replayTrace_of_known (hHas.trans hKnown), ← SpanBody.getD_of_isEmpty u.metadata]
      rfl
  | false =>
      refine iff_of_false ?_ (by simp [Unambiguous, hKnown])
      rw [traces_replayTrace_of_unknown (hHas.trans hKnown)]
      intro hTraces
      have hLength := congrArg List.length hTraces
      simp [reviseTrace] at hLength

/-- An event does to the traces what its write does, unless the two can be told apart. -/
theorem replayEvent_traces_eq_iff (w : Write) :
    (a.replayEvent now (Event.ofWrite w id time)).traces = (b.receive w).traces ↔
      b.Unambiguous w := by
  cases w with
  | createTrace t => exact replayEvent_createTrace_iff h now id time t
  | updateTrace u => exact replayEvent_updateTrace_iff h now id time u
  | createSpan s =>
      refine iff_of_true ?_ trivial
      cases hType : s.type <;>
        simpa [replayEvent, Event.ofWrite, Event.ofSpan, EventKind.create, hType, receive] using h
  | endSpan c =>
      refine iff_of_true ?_ trivial
      cases hType : c.type <;>
        simpa [replayEvent, Event.ofWrite, Event.ofClosure, EventKind.update, hType, receive]
          using h

end Event

/-- After every one of the given writes a replay of the events so far has the same traces as the
store that received the writes, exactly if each write was unambiguous when it came. -/
theorem replay_traces_eq_iff (now : Instant) (sent : List (Write × String × Instant)) :
    (∀ before, before <+: sent → (replay now (eventsOf before)).traces =
        (empty.receiveAll (before.map Prod.fst)).traces) ↔
      ∀ before x after, sent = before ++ x :: after →
        (empty.receiveAll (before.map Prod.fst)).Unambiguous x.1 := by
  have hReplay (before : List (Write × String × Instant)) (x : Write × String × Instant) :
      replay now (eventsOf (before ++ [x])) =
        (replay now (eventsOf before)).replayEvent now (Event.ofWrite x.1 x.2.1 x.2.2) := by
    simp [replay, eventsOf]
  have hDirect (before : List (Write × String × Instant)) (x : Write × String × Instant) :
      empty.receiveAll ((before ++ [x]).map Prod.fst) =
        (empty.receiveAll (before.map Prod.fst)).receive x.1 := by
    rw [List.map_append, receiveAll_append]
    rfl
  constructor
  · intro hAgree before x after hSplit
    have hBefore := hAgree before ⟨x :: after, hSplit.symm⟩
    have hNext := hAgree (before ++ [x]) ⟨after, by simp [hSplit]⟩
    rw [hReplay, hDirect] at hNext
    exact (replayEvent_traces_eq_iff hBefore now x.2.1 x.2.2 x.1).1 hNext
  · intro hClear before
    induction before using List.reverseRecOn with
    | nil => exact fun _ => rfl
    | append_singleton before x ih =>
        rintro ⟨after, hSplit⟩
        have hSplit : sent = before ++ x :: after := by simpa using hSplit.symm
        have hBefore := ih ⟨x :: after, hSplit.symm⟩
        rw [hReplay, hDirect]
        exact (replayEvent_traces_eq_iff hBefore now x.2.1 x.2.2 x.1).2
          (hClear before x after hSplit)

/-- An update of a trace that was never created. -/
def unknownUpdate : List (Write × String × Instant) :=
  [(.updateTrace ⟨"t1", some (.string "done"), []⟩, "e1", ⟨0, 0⟩)]

/-- A trace that is created again, with an output. -/
def secondCreation : List (Write × String × Instant) :=
  let trace : Trace := .new "t1" "story" ⟨0, 0⟩
  [(.createTrace trace, "e1", ⟨0, 0⟩),
    (.createTrace { trace with output := some (.string "done") }, "e2", ⟨0, 0⟩)]

/-- A replay creates the unknown trace and revises the one that is created again. -/
theorem replay_traces_ne :
    (replay ⟨0, 0⟩ (eventsOf unknownUpdate)).traces ≠
        (empty.receiveAll (unknownUpdate.map Prod.fst)).traces ∧
      (replay ⟨0, 0⟩ (eventsOf secondCreation)).traces ≠
        (empty.receiveAll (secondCreation.map Prod.fst)).traces := by
  constructor
  · intro hTraces
    have hLength := congrArg List.length hTraces
    revert hLength
    decide +kernel
  · intro hTraces
    have hOutputs := congrArg (List.map (·.output.isSome)) hTraces
    revert hOutputs
    decide +kernel

end Store

end StoryTrace

import Mathlib.Data.List.Nodup
import StoryTrace.Run.Map

/-!
# Settled run maps

Between two notices a run map is settled: no run is mapped twice or without a span. What is undone
after a refusal gives back the settled map from before, so a refused start or end leaves no mark.
-/

namespace StoryTrace.RunMap

/-- No run is mapped twice, and every mapped run has a span. -/
structure Settled (m : RunMap) : Prop where
  distinct : (m.runs.map Prod.fst).Nodup
  spanned : ∀ e ∈ m.runs, e.2.span.isSome = true

variable {m : RunMap} {run : RunId}

theorem find?_eq_none_iff : m.find? run = none ↔ ∀ e ∈ m.runs, e.1 ≠ run := by
  simp only [find?, List.lookup_eq_none_iff, bne_iff_ne, ne_comm]

theorem mem_of_find? {e : RunEntry} (h : m.find? run = some e) : (run, e) ∈ m.runs := by
  obtain ⟨before, after, hRuns, _⟩ := List.lookup_eq_some_iff.1 h
  rw [hRuns]
  exact List.mem_append_right _ (List.mem_cons_self ..)

theorem find?_eq_some_iff (h : (m.runs.map Prod.fst).Nodup) {e : RunEntry} :
    m.find? run = some e ↔ (run, e) ∈ m.runs := by
  constructor
  · exact mem_of_find?
  · intro hMem
    cases hFind : m.find? run with
    | none => exact absurd rfl (find?_eq_none_iff.1 hFind _ hMem)
    | some other =>
        have hPair : (run, other) = (run, e) :=
          List.inj_on_of_nodup_map h (mem_of_find? hFind) hMem rfl
        rw [(Prod.mk.inj hPair).2]

theorem Settled.find?_eq_some_iff (h : m.Settled) {e : RunEntry} :
    m.find? run = some e ↔ (run, e) ∈ m.runs := RunMap.find?_eq_some_iff h.distinct

theorem Settled.spanId?_eq_none_iff (h : m.Settled) :
    m.spanId? run = none ↔ m.find? run = none := by
  cases hFind : m.find? run with
  | none => simp [spanId?, span?, hFind]
  | some e =>
      have hSpan := h.spanned _ (mem_of_find? hFind)
      simpa [spanId?, span?, hFind] using Option.isSome_iff_ne_none.1 hSpan

/-! ## Starts -/

theorem mem_traces_addTrace {id other : String} :
    id ∈ (m.addTrace other).traces ↔ id = other ∨ id ∈ m.traces := by
  unfold addTrace
  split
  · next hKnown =>
      have hMem : other ∈ m.traces := by simpa using hKnown
      refine ⟨.inr, ?_⟩
      rintro (rfl | h)
      · exact hMem
      · exact h
  · simp

/-- The trace of a run that is not mapped is that of its parent, if the parent is mapped. -/
theorem traceFor_of_unknown (h : m.find? run = none) (parent : Option RunId) (other : String) :
    m.traceFor run parent other = (parent.bind m.traceId?).getD other := by
  simp [traceFor, traceId?, h]

theorem resolve_of_unknown (h : m.find? run = none) (parent : Option RunId) (other : String) :
    m.resolve run parent other =
      let traceId := (parent.bind m.traceId?).getD other
      (⟨traceId, !m.traces.contains traceId⟩,
        { m.addTrace traceId with runs := (run, ⟨traceId, none⟩) :: m.runs }) := by
  simp [resolve, traceFor_of_unknown h, h]

theorem filter_traces_addTrace {traceId : String} (h : traceId ∉ m.traces) :
    (m.addTrace traceId).traces.filter (· ≠ traceId) = m.traces := by
  have hOthers : ∀ t ∈ m.traces, t ≠ traceId := fun t ht hEq => h (hEq ▸ ht)
  simpa [addTrace, h] using hOthers

/-- A new trace is forgotten together with the run that brought it. -/
theorem forget_resolve (h : m.find? run = none) (parent : Option RunId) (other : String) :
    (m.resolve run parent other).2.forget run (m.resolve run parent other).1.created = m := by
  have hRuns : m.runs.filter (·.1 ≠ run) = m.runs :=
    List.filter_eq_self.2 fun e he => by simpa using find?_eq_none_iff.1 h e he
  rw [resolve_of_unknown h]
  generalize (parent.bind m.traceId?).getD other = traceId
  have hForget (traces : List String) (release : Bool) :
      (RunMap.mk ((run, ⟨traceId, none⟩) :: m.runs) traces).forget run release =
        ⟨m.runs, if release then traces.filter (· ≠ traceId) else traces⟩ := by
    simpa [forget, find?] using hRuns
  by_cases hTrace : traceId ∈ m.traces
  · simp only [List.contains_eq_mem, hTrace, decide_true, Bool.not_true, hForget]
    simp [addTrace, hTrace]
  · simp only [List.contains_eq_mem, hTrace, decide_false, Bool.not_false, hForget,
      filter_traces_addTrace hTrace, if_true]

/-- The span below which a run starts is known before the run is mapped. -/
theorem parentSpanId?_resolve (h : m.find? run = none) (parent : Option RunId)
    (other : String) :
    (m.resolve run parent other).2.parentSpanId? parent = parent.bind m.spanId? := by
  rw [resolve_of_unknown h]
  cases parent with
  | none => rfl
  | some p =>
      by_cases hp : p = run
      · subst hp
        simp [parentSpanId?, spanId?, span?, h]
        simp [find?]
      · simp [parentSpanId?, spanId?, span?, find?, List.lookup_cons, beq_eq_false_iff_ne.2 hp]

/-- The map with the first span of a run added. -/
def enroll (m : RunMap) (run : RunId) (traceId spanId : String) (type : SpanType) : RunMap :=
  { m.addTrace traceId with runs := (run, ⟨traceId, some ⟨spanId, type, true⟩⟩) :: m.runs }

@[simp] theorem runs_enroll (m : RunMap) (run : RunId) (traceId spanId : String)
    (type : SpanType) :
    (m.enroll run traceId spanId type).runs =
      (run, ⟨traceId, some ⟨spanId, type, true⟩⟩) :: m.runs := rfl

theorem register_resolve (h : m.find? run = none) (parent : Option RunId) (other spanId : String)
    (type : SpanType) :
    ((m.resolve run parent other).2.register run spanId type).2 =
      m.enroll run ((parent.bind m.traceId?).getD other) spanId type := by
  have hOthers : m.runs.map (fun e => if e.1 = run then
      (e.1, { e.2 with span := some (RunSpan.mk spanId type true) }) else e) = m.runs := by
    rw [List.map_congr_left (g := id), List.map_id]
    intro e he
    simp [find?_eq_none_iff.1 h e he]
  rw [resolve_of_unknown h]
  simp [register, find?, update, enroll, hOthers]

/-! ## Ends -/

theorem close_eq_some_iff {closed : ClosedRun × RunMap} :
    m.close run = some closed ↔ ∃ traceId spanId type,
      m.find? run = some ⟨traceId, some ⟨spanId, type, true⟩⟩ ∧
        closed = (⟨traceId, spanId, type⟩, m.setOpen run false) := by
  unfold close
  split
  · next traceId spanId type hFind => simp [hFind, eq_comm]
  · next hNot =>
      simp only [reduceCtorEq, false_iff]
      rintro ⟨traceId, spanId, type, hFind, _⟩
      exact hNot traceId spanId type hFind

theorem close_eq_none_iff : m.close run = none ↔ m.isOpen run = false := by
  unfold close isOpen
  split
  · next hFind => simp [hFind, RunEntry.isOpen]
  · next hNot =>
      simp only [true_iff]
      cases hFind : m.find? run with
      | none => rfl
      | some e =>
          obtain ⟨traceId, span⟩ := e
          cases span with
          | none => rfl
          | some o =>
              obtain ⟨id, type, isOpen⟩ := o
              cases isOpen with
              | false => rfl
              | true => exact absurd hFind (hNot traceId id type)

/-- A run whose end was refused is open as before. -/
theorem reopen_setOpen (hSettled : m.Settled) {traceId spanId : String} {type : SpanType}
    (h : m.find? run = some ⟨traceId, some ⟨spanId, type, true⟩⟩) :
    ((m.setOpen run false).reopen run).2 = m := by
  have hFind : (m.setOpen run false).find? run =
      some ⟨traceId, some ⟨spanId, type, false⟩⟩ := by
    simp [setOpen, find?_update, h]
  have hRuns : ((m.setOpen run false).setOpen run true).runs = m.runs := by
    simp only [setOpen, update, List.map_map]
    rw [List.map_congr_left (g := id), List.map_id]
    intro e he
    by_cases hRun : e.1 = run
    · have hEntry : e.2 = ⟨traceId, some ⟨spanId, type, true⟩⟩ := by
        have := hSettled.find?_eq_some_iff.2 (hRun ▸ he : (run, e.2) ∈ m.runs)
        rw [h] at this
        exact (Option.some.inj this).symm
      obtain ⟨k, v⟩ := e
      simp only at hRun hEntry
      simp [hRun, hEntry]
    · simp [hRun]
  have hReopen : ((m.setOpen run false).reopen run).2 = (m.setOpen run false).setOpen run true := by
    simp [reopen, hFind]
  rw [hReopen]
  exact congrArg (fun runs => ({ m with runs } : RunMap)) hRuns

end StoryTrace.RunMap

import Mathlib.Data.List.Induction
import StoryTrace.Proofs.FirstPlaces
import StoryTrace.Proofs.Store.Replay
import StoryTrace.Proofs.Store.Spans

/-!
# Arrivals at a store

What arrives at a store is a write, or an event that is replayed. Whatever arrives in whatever
order, a record keeps the place of its first arrival, the index leads to every span, and a span is
settled by the first closure that follows its last creation.
-/

namespace StoryTrace

/-- The span as the first of the given closures that names it leaves it. -/
def Span.settledBy (s : Span) (closures : List Closure) : Span :=
  if s.isOpen then ((closures.find? (·.spanId = s.id)).map s.closedBy).getD s else s

namespace Span

variable {s : Span} {c : Closure} {rest : List Closure}

@[simp] theorem settledBy_nil (s : Span) : s.settledBy [] = s := by
  simp [settledBy]

theorem settledBy_of_not_isOpen (closures : List Closure) (h : s.isOpen = false) :
    s.settledBy closures = s := by
  simp [settledBy, h]

theorem settledBy_cons_of_ne (h : c.spanId ≠ s.id) :
    s.settledBy (c :: rest) = s.settledBy rest := by
  simp [settledBy, h]

theorem settledBy_cons_of_isOpen (hOpen : s.isOpen = true) (h : c.spanId = s.id) :
    s.settledBy (c :: rest) = s.closedBy c := by
  simp [settledBy, hOpen, h]

theorem isOpen_closedBy (hEnds : c.status ≠ .running) : (s.closedBy c).isOpen = false := by
  cases hStatus : c.status with
  | running => exact absurd hStatus hEnds
  | succeeded => simp [isOpen, closedBy, hStatus, Status.isRunning]
  | failed message kind => simp [isOpen, closedBy, hStatus, Status.isRunning]

/-- Closing a span and then settling it is settling it. -/
theorem settledBy_close (hEnds : c.status ≠ .running) :
    (s.close c).settledBy rest = s.settledBy (c :: rest) := by
  by_cases hId : c.spanId = s.id
  · cases hOpen : s.isOpen with
    | true =>
        rw [close_of_isOpen hOpen hId, settledBy_cons_of_isOpen hOpen hId]
        exact settledBy_of_not_isOpen rest (isOpen_closedBy hEnds)
    | false =>
        rw [close_of_not_isOpen c hOpen, settledBy_of_not_isOpen _ hOpen,
          settledBy_of_not_isOpen _ hOpen]
  · rw [close_of_ne hId, settledBy_cons_of_ne hId]

theorem isOpen_settledBy {closures : List Closure} (hEnds : ∀ c ∈ closures, c.status ≠ .running)
    (h : s.isOpen = false ∨ ∃ c ∈ closures, c.spanId = s.id) :
    (s.settledBy closures).isOpen = false := by
  cases hOpen : s.isOpen with
  | false => rw [settledBy_of_not_isOpen _ hOpen, hOpen]
  | true =>
      rw [hOpen] at h
      obtain ⟨c, hc, hId⟩ := h.resolve_left (by decide)
      have hFound : (closures.find? (·.spanId = s.id)).isSome := by
        rw [List.find?_isSome]
        exact ⟨c, hc, by simpa using hId⟩
      obtain ⟨first, hFirst⟩ := Option.isSome_iff_exists.1 hFound
      simp only [settledBy, hOpen, if_true, hFirst, Option.map_some, Option.getD_some]
      exact isOpen_closedBy (hEnds first (List.mem_of_find?_eq_some hFirst))

end Span

namespace Store

/-- What arrives at a store. An event comes with the reading of the clock that fills its missing
times. -/
inductive Arrival where
  | write (w : Write)
  | event (e : Event) (now : Instant)

namespace Arrival

/-- The trace that an arrival creates, unless the store has it already. -/
def traceId? : Arrival → Option String
  | .write (.createTrace t) => some t.id
  | .event ⟨_, _, .traceCreate, .trace b⟩ _ => some b.id
  | _ => none

/-- The span that an arrival creates. -/
def creation? : Arrival → Option Span
  | .write w => w.createdSpan?
  | .event ⟨_, _, .spanCreate, .span b⟩ now => some (b.toSpan .span now)
  | .event ⟨_, _, .generationCreate, .span b⟩ now => some (b.toSpan .generation now)
  | _ => none

/-- The closure that an arrival brings. -/
def closure? : Arrival → Option Closure
  | .write w => w.closure?
  | .event ⟨_, _, .spanUpdate, .span b⟩ now => some (b.toClosure .span now)
  | .event ⟨_, _, .generationUpdate, .span b⟩ now => some (b.toClosure .generation now)
  | _ => none

/-- The arrival creates a span with the given id. -/
def Creates (id : String) (a : Arrival) : Prop := ∃ span, a.creation? = some span ∧ span.id = id

/-- The arrival brings a closure of the span with the given id. -/
def Closes (id : String) (a : Arrival) : Prop := ∃ c, a.closure? = some c ∧ c.spanId = id

/-- A closure that the arrival brings ends its span. -/
def Ends (a : Arrival) : Prop := ∀ c, a.closure? = some c → c.status ≠ .running

end Arrival

variable {s s' : Store} {a : Arrival}

def arrive (s : Store) : Arrival → Store
  | .write w => s.receive w
  | .event e now => s.replayEvent now e

/-- The store after arrivals in the given order. -/
def arriveAll (s : Store) (arrivals : List Arrival) : Store := arrivals.foldl arrive s

/-- The ids of the traces, with the given one at the end unless it is there already. -/
def traceIdsWith (s : Store) (id : Option String) : List String :=
  s.traces.map (·.id) ++ id.toList.filter fun id => !s.hasTrace id

/-- What an arrival does to a store: it creates a span, brings a closure, or is about a trace at
most. -/
inductive Arrives (s : Store) (a : Arrival) : Store → Prop where
  | created {span : Span} (creates : a.creation? = some span) (noClosure : a.closure? = none)
      (noTrace : a.traceId? = none) : Arrives s a (s.insertSpan span)
  | closed {c : Closure} (noCreation : a.creation? = none) (closes : a.closure? = some c)
      (noTrace : a.traceId? = none) : Arrives s a (s.closeSpan c)
  | kept {s' : Store} (noCreation : a.creation? = none) (noClosure : a.closure? = none)
      (spans : SameSpans s' s) (traces : s'.traces.map (·.id) = s.traceIdsWith a.traceId?) :
      Arrives s a s'

theorem map_id_reviseTrace (s : Store) (id : String) (output : Option Json)
    (metadata : Metadata) :
    (s.reviseTrace id output metadata).traces.map (·.id) = s.traces.map (·.id) := by
  rw [reviseTrace, List.map_map]
  apply List.map_congr_left
  intro t _
  simp only [Function.comp_apply]
  split <;> rfl

theorem map_id_receive_createTrace (s : Store) (t : Trace) :
    (s.receive (.createTrace t)).traces.map (·.id) = s.traceIdsWith (some t.id) := by
  cases hHas : s.hasTrace t.id <;> simp [receive, insertTrace, traceIdsWith, hHas]

theorem map_id_replayTrace (s : Store) (now : Instant) (body : TraceBody) :
    (s.replayTrace now body).traces.map (·.id) = s.traceIdsWith (some body.id) := by
  cases hHas : s.hasTrace body.id with
  | true => simp [replayTrace, hHas, map_id_reviseTrace, traceIdsWith]
  | false => simp [replayTrace, hHas, traceIdsWith, TraceBody.toTrace]

theorem SameSpans.refl (s : Store) : SameSpans s s := ⟨rfl, rfl, rfl, rfl⟩

theorem SameSpans.symm {a b : Store} (h : SameSpans a b) : SameSpans b a :=
  ⟨h.spans.symm, h.index.symm, h.closures.symm, h.orphans.symm⟩

theorem arrives_arrive (s : Store) (a : Arrival) : Arrives s a (s.arrive a) := by
  have hIgnored {a : Arrival} (noTrace : a.traceId? = none) (noCreation : a.creation? = none)
      (noClosure : a.closure? = none) : Arrives s a s :=
    .kept noCreation noClosure (.refl s) (by simp [traceIdsWith, noTrace])
  cases a with
  | write w =>
      cases w with
      | createTrace t =>
          exact .kept rfl rfl ((SameSpans.refl s).receive_createTrace t).symm
            (map_id_receive_createTrace s t)
      | createSpan span => exact .created rfl rfl rfl
      | endSpan c => exact .closed rfl rfl rfl
      | updateTrace u =>
          refine .kept rfl rfl ⟨rfl, rfl, rfl, rfl⟩ ?_
          exact (map_id_reviseTrace ..).trans (List.append_nil _).symm
  | event e now =>
      obtain ⟨id, time, kind, body⟩ := e
      cases body with
      | trace b =>
          cases kind with
          | traceCreate =>
              exact .kept rfl rfl ((SameSpans.refl s).replayTrace now b)
                (map_id_replayTrace s now b)
          | spanCreate | spanUpdate | generationCreate | generationUpdate =>
              exact hIgnored rfl rfl rfl
      | span b =>
          cases kind with
          | traceCreate => exact hIgnored rfl rfl rfl
          | spanCreate | generationCreate => exact .created rfl rfl rfl
          | spanUpdate | generationUpdate => exact .closed rfl rfl rfl

/-! ## One arrival -/

theorem SameSpans.indexed {a b : Store} (h : SameSpans a b) (hIndexed : b.Indexed) :
    a.Indexed := by
  intro id place
  rw [position?, h.index, h.spans]
  exact hIndexed id place

theorem SameSpans.span?_eq {a b : Store} (h : SameSpans a b) (id : String) :
    a.span? id = b.span? id := by
  rw [span?, span?, position?, position?, h.index, h.spans]

namespace Arrives

theorem indexed (h : Arrives s a s') (hIndexed : s.Indexed) : s'.Indexed := by
  cases h with
  | created _ _ _ => exact hIndexed.insertSpan _
  | closed _ _ _ => exact hIndexed.closeSpan _
  | kept _ _ spans _ => exact spans.indexed hIndexed

theorem traceIds (h : Arrives s a s') : s'.traces.map (·.id) = s.traceIdsWith a.traceId? := by
  cases h with
  | created _ _ noTrace => simp [traceIdsWith, noTrace]
  | closed _ _ noTrace => simp [traceIdsWith, noTrace]
  | kept _ _ _ traces => exact traces

theorem spanIds (h : Arrives s a s') (hIndexed : s.Indexed) :
    s'.spans.map (·.id) = s.spans.map (·.id) ++
      (a.creation?.map (·.id)).toList.filter fun id => !s.hasSpan id := by
  cases h with
  | @created span creates _ _ =>
      rw [creates]
      cases hPlace : s.position? span.id with
      | none =>
          have hHas : s.hasSpan span.id = false := by simp [hasSpan, hPlace]
          simp [insertSpan_of_unknown hPlace, hHas]
      | some place =>
          have hHas : s.hasSpan span.id = true := by simp [hasSpan, hPlace]
          obtain ⟨old, hOld, hId⟩ := hIndexed.getElem?_of_position? hPlace
          have hSame : (s.spans.map (·.id)).set place span.id = s.spans.map (·.id) := by
            obtain ⟨hLess, rfl⟩ := List.getElem?_eq_some_iff.1 hOld
            rw [← hId, ← List.map_set, List.set_getElem_self]
          simp [insertSpan_of_known hPlace, hHas, List.map_set, hSame]
  | closed noCreation _ _ =>
      rw [noCreation, hIndexed.spans_closeSpan]
      simp [Function.comp_def]
  | kept noCreation _ spans _ => simp [noCreation, spans.spans]

theorem orphans_le (h : Arrives s a s') (hLe : s.orphans ≤ s.closures) :
    s'.orphans ≤ s'.closures := by
  cases h with
  | created _ _ _ =>
      unfold insertSpan
      split <;> exact hLe
  | closed _ _ _ =>
      unfold closeSpan
      split
      · exact Nat.le_succ_of_le hLe
      · exact Nat.succ_le_succ hLe
  | kept _ _ spans _ =>
      rw [spans.orphans, spans.closures]
      exact hLe

/-- A span that is not created anew is closed by the closure that arrives, if there is one. -/
theorem span?_eq {id : String} (h : Arrives s a s') (hIndexed : s.Indexed)
    (hOther : ¬ a.Creates id) :
    s'.span? id = (s.span? id).map fun span => (a.closure?.map span.close).getD span := by
  cases h with
  | @created span creates noClosure _ =>
      have hId : span.id ≠ id := fun hId => hOther ⟨span, creates, hId⟩
      rw [hIndexed.span?_insertSpan, if_neg hId, noClosure]
      simp
  | closed _ closes _ =>
      rw [hIndexed.span?_closeSpan, closes]
      rfl
  | kept _ noClosure spans _ =>
      rw [spans.span?_eq, noClosure]
      simp

theorem span?_of_creation {span : Span} (h : Arrives s a s') (hIndexed : s.Indexed)
    (hCreates : a.creation? = some span) : s'.span? span.id = some span := by
  cases h with
  | @created other creates _ _ =>
      obtain rfl : other = span := Option.some.inj (creates.symm.trans hCreates)
      rw [hIndexed.span?_insertSpan, if_pos rfl]
  | closed noCreation _ _ =>
      rw [noCreation] at hCreates
      cases hCreates
  | kept noCreation _ _ _ =>
      rw [noCreation] at hCreates
      cases hCreates

end Arrives

/-- A closure of a span that is closed or unknown changes the counts only. -/
theorem arrive_eq_of_not_open (hIndexed : s.Indexed) {c : Closure} (hCloses : a.closure? = some c)
    (hShut : ∀ span, s.span? c.spanId = some span → span.isOpen = false) :
    s.arrive a = { s with
      closures := s.closures + 1
      orphans := if s.hasSpan c.spanId then s.orphans else s.orphans + 1 } := by
  have hArrive : s.arrive a = s.closeSpan c := by
    have h := arrives_arrive s a
    generalize s.arrive a = s' at h
    cases h with
    | created _ noClosure _ => rw [noClosure] at hCloses; cases hCloses
    | closed _ closes _ => rw [Option.some.inj (closes.symm.trans hCloses)]
    | kept _ noClosure _ _ => rw [noClosure] at hCloses; cases hCloses
  have hKeeps : s.spans.map (·.close c) = s.spans := by
    rw [List.map_congr_left (g := id), List.map_id]
    intro span hSpan
    by_cases hId : c.spanId = span.id
    · exact Span.close_of_not_isOpen c (hShut span (hIndexed.span?_eq_some_iff.2 ⟨hSpan, hId.symm⟩))
    · exact Span.close_of_ne hId
  have hSpans := hIndexed.spans_closeSpan c
  rw [hKeeps] at hSpans
  rw [hArrive]
  cases hPlace : s.position? c.spanId with
  | none => simp [closeSpan, hPlace, hasSpan]
  | some place =>
      simp only [closeSpan, hPlace] at hSpans
      simp [closeSpan, hPlace, hasSpan, hSpans]

/-! ## Many arrivals -/

theorem arriveAll_append (s : Store) (first more : List Arrival) :
    s.arriveAll (first ++ more) = (s.arriveAll first).arriveAll more :=
  List.foldl_append

theorem arriveAll_append_singleton (s : Store) (arrivals : List Arrival) (a : Arrival) :
    s.arriveAll (arrivals ++ [a]) = (s.arriveAll arrivals).arrive a := by
  rw [arriveAll_append]
  rfl

theorem Indexed.arriveAll (h : s.Indexed) (arrivals : List Arrival) :
    (s.arriveAll arrivals).Indexed := by
  induction arrivals generalizing s with
  | nil => exact h
  | cons a rest ih => exact ih ((arrives_arrive s a).indexed h)

theorem indexed_arriveAll (arrivals : List Arrival) : (empty.arriveAll arrivals).Indexed :=
  indexed_empty.arriveAll arrivals

theorem orphans_arriveAll_le (arrivals : List Arrival) :
    (empty.arriveAll arrivals).orphans ≤ (empty.arriveAll arrivals).closures := by
  induction arrivals using List.reverseRecOn with
  | nil => exact Nat.le_refl _
  | append_singleton before a ih =>
      rw [arriveAll_append_singleton]
      exact (arrives_arrive _ a).orphans_le ih

/-- The traces stand in the order of their first arrivals. -/
theorem traceIds_arriveAll (arrivals : List Arrival) :
    (empty.arriveAll arrivals).traces.map (·.id) =
      (arrivals.filterMap Arrival.traceId?).eraseDups := by
  induction arrivals using List.reverseRecOn with
  | nil => rfl
  | append_singleton before a ih =>
      have hHas (id : String) : (empty.arriveAll before).hasTrace id =
          (before.filterMap Arrival.traceId?).eraseDups.contains id := by
        rw [← ih, hasTrace, Bool.eq_iff_iff]
        simp
      rw [arriveAll_append_singleton, (arrives_arrive _ a).traceIds, traceIdsWith, ih,
        List.filterMap_append, show [a].filterMap Arrival.traceId? = a.traceId?.toList by
          cases h : a.traceId? <;> simp [h], eraseDups_append_toList]
      simp only [hHas]

/-- The spans stand in the order of their first creations. -/
theorem spanIds_arriveAll (arrivals : List Arrival) :
    (empty.arriveAll arrivals).spans.map (·.id) =
      ((arrivals.filterMap Arrival.creation?).map (·.id)).eraseDups := by
  induction arrivals using List.reverseRecOn with
  | nil => rfl
  | append_singleton before a ih =>
      have hIndexed := indexed_arriveAll before
      have hHas (id : String) : (empty.arriveAll before).hasSpan id =
          ((before.filterMap Arrival.creation?).map (·.id)).eraseDups.contains id := by
        rw [← ih, hIndexed.hasSpan_eq_isSome, Bool.eq_iff_iff, Option.isSome_iff_exists,
          List.contains_iff_mem, List.mem_map]
        simp only [hIndexed.span?_eq_some_iff]
      rw [arriveAll_append_singleton, (arrives_arrive _ a).spanIds hIndexed, ih,
        List.filterMap_append, List.map_append,
        show ([a].filterMap Arrival.creation?).map (·.id) = (a.creation?.map (·.id)).toList by
          cases h : a.creation? <;> simp [h], eraseDups_append_toList]
      simp only [hHas]

/-- Without another creation a span is settled by the first closure that arrives for it. -/
theorem span?_arriveAll (hIndexed : s.Indexed) {span : Span} {after : List Arrival}
    (hSpan : s.span? span.id = some span) (hLast : ∀ a ∈ after, ¬ a.Creates span.id)
    (hEnds : ∀ a ∈ after, a.Ends) :
    (s.arriveAll after).span? span.id =
      some (span.settledBy (after.filterMap Arrival.closure?)) := by
  induction after generalizing s span with
  | nil => simpa [arriveAll] using hSpan
  | cons a rest ih =>
      have hArrives := arrives_arrive s a
      have hNext := hArrives.span?_eq hIndexed (hLast a (List.mem_cons_self ..))
      rw [hSpan, Option.map_some] at hNext
      have hRest : ∀ b ∈ rest, b.Ends := fun b hb => hEnds b (List.mem_cons_of_mem _ hb)
      have hOthers : ∀ b ∈ rest, ¬ b.Creates span.id :=
        fun b hb => hLast b (List.mem_cons_of_mem _ hb)
      change ((s.arrive a).arriveAll rest).span? span.id = _
      cases hClosure : a.closure? with
      | none =>
          rw [hClosure] at hNext
          rw [List.filterMap_cons_none hClosure]
          exact ih (hArrives.indexed hIndexed) hNext hOthers hRest
      | some c =>
          rw [hClosure] at hNext
          have hId : (span.close c).id = span.id := Span.id_close span c
          rw [List.filterMap_cons_some hClosure,
            ← Span.settledBy_close (hEnds a (List.mem_cons_self ..) c hClosure), ← hId]
          refine ih (hArrives.indexed hIndexed) ?_ ?_ hRest
          · rw [hId]
            exact hNext
          · rw [hId]
            exact hOthers

/-! ## The history of one span -/

section History

variable {before arrivals : List Arrival} {id : String}

/-- The arrival is the last one of the given arrivals that creates the span, with what follows
it. -/
def LastCreation (arrivals : List Arrival) (span : Span) (after : List Arrival) : Prop :=
  ∃ before a, arrivals = before ++ a :: after ∧ a.creation? = some span ∧
    ∀ b ∈ after, ¬ b.Creates span.id

/-- No closure can settle the span any more: its last creation was closed, or a closure named it
since then, or it was not created at all. -/
def Spent (arrivals : List Arrival) (id : String) : Prop :=
  ∀ span after, LastCreation arrivals span after → span.id = id →
    span.isOpen = false ∨ ∃ a ∈ after, a.Closes id

theorem span?_of_lastCreation (hEnds : ∀ a ∈ arrivals, a.Ends) {span : Span}
    {after : List Arrival} (h : LastCreation arrivals span after) :
    (empty.arriveAll arrivals).span? span.id =
      some (span.settledBy (after.filterMap Arrival.closure?)) := by
  obtain ⟨before, a, rfl, hCreates, hLast⟩ := h
  rw [arriveAll_append]
  have hIndexed := indexed_arriveAll before
  have hArrives := arrives_arrive (empty.arriveAll before) a
  refine span?_arriveAll (hArrives.indexed hIndexed) (hArrives.span?_of_creation hIndexed hCreates)
    hLast ?_
  intro b hb
  exact hEnds b (List.mem_append_right _ (List.mem_cons_of_mem _ hb))

/-- Nothing after the last creation of a span creates it, so no other one can stand later. -/
theorem LastCreation.after_eq {span other : Span} {after after' : List Arrival}
    (h : LastCreation arrivals span after) (h' : LastCreation arrivals other after')
    (hId : span.id = other.id) : span = other ∧ after = after' := by
  obtain ⟨before, a, rfl, hCreates, hLast⟩ := h
  obtain ⟨before', a', hSplit, hCreates', hLast'⟩ := h'
  rcases List.append_eq_append_iff.1 hSplit with ⟨gap, -, hGap⟩ | ⟨gap, -, hGap⟩
  · cases gap with
    | nil =>
        obtain ⟨rfl, rfl⟩ := List.cons_eq_cons.1 hGap
        exact ⟨Option.some.inj (hCreates.symm.trans hCreates'), rfl⟩
    | cons b gap =>
        obtain ⟨rfl, rfl⟩ := List.cons_eq_cons.1 hGap
        exact absurd ⟨other, hCreates', hId.symm⟩ (hLast a' (by simp))
  · cases gap with
    | nil =>
        obtain ⟨rfl, rfl⟩ := List.cons_eq_cons.1 hGap
        exact ⟨Option.some.inj (hCreates.symm.trans hCreates'), rfl⟩
    | cons b gap =>
        obtain ⟨rfl, rfl⟩ := List.cons_eq_cons.1 hGap
        exact absurd ⟨span, hCreates, hId⟩ (hLast' a (by simp))

theorem LastCreation.spent {span : Span} {after : List Arrival}
    (h : LastCreation arrivals span after)
    (hClosed : span.isOpen = false ∨ ∃ a ∈ after, a.Closes span.id) :
    Spent arrivals span.id := by
  intro other after' h' hId
  obtain ⟨rfl, rfl⟩ := h.after_eq h' hId.symm
  exact hClosed

theorem exists_lastCreation (h : ∃ a ∈ arrivals, a.Creates id) :
    ∃ span after, LastCreation arrivals span after ∧ span.id = id := by
  induction arrivals with
  | nil =>
      obtain ⟨a, ha, -⟩ := h
      cases ha
  | cons a rest ih =>
      by_cases hLater : ∃ b ∈ rest, b.Creates id
      · obtain ⟨span, after, ⟨before, b, hSplit, hRest⟩, hId⟩ := ih hLater
        exact ⟨span, after, ⟨a :: before, b, by rw [hSplit]; rfl, hRest⟩, hId⟩
      · obtain ⟨b, hb, hCreates⟩ := h
        rcases List.mem_cons.1 hb with rfl | hRest
        · obtain ⟨span, hSpan, rfl⟩ := hCreates
          refine ⟨span, rest, ⟨[], b, rfl, hSpan, ?_⟩, rfl⟩
          intro other hOther hAgain
          exact hLater ⟨other, hOther, hAgain⟩
        · exact absurd ⟨b, hRest, hCreates⟩ hLater

theorem span?_eq_none_of_not_created (h : ∀ a ∈ arrivals, ¬ a.Creates id) :
    (empty.arriveAll arrivals).span? id = none := by
  rw [(indexed_arriveAll arrivals).span?_eq_none_iff]
  intro span hSpan hId
  have hMem : span.id ∈ (empty.arriveAll arrivals).spans.map (·.id) := List.mem_map_of_mem hSpan
  rw [spanIds_arriveAll, List.mem_eraseDups, List.mem_map] at hMem
  obtain ⟨created, hCreated, hSame⟩ := hMem
  obtain ⟨a, ha, hCreates⟩ := List.mem_filterMap.1 hCreated
  exact h a ha ⟨created, hCreates, hSame.trans hId⟩

/-- A span that is spent is not open. -/
theorem Spent.not_isOpen (h : Spent arrivals id) (hEnds : ∀ a ∈ arrivals, a.Ends) {span : Span}
    (hSpan : (empty.arriveAll arrivals).span? id = some span) : span.isOpen = false := by
  by_cases hCreated : ∃ a ∈ arrivals, a.Creates id
  · obtain ⟨created, after, hLast, rfl⟩ := exists_lastCreation hCreated
    rw [span?_of_lastCreation hEnds hLast] at hSpan
    have hMem : ∀ a ∈ after, a ∈ arrivals := by
      obtain ⟨before, b, rfl, -⟩ := hLast
      exact fun a ha => List.mem_append_right _ (List.mem_cons_of_mem _ ha)
    obtain rfl := Option.some.inj hSpan
    apply Span.isOpen_settledBy
    · intro c hc
      obtain ⟨a, ha, hCloses⟩ := List.mem_filterMap.1 hc
      exact hEnds a (hMem a ha) c hCloses
    · refine (h created after hLast rfl).imp_right ?_
      rintro ⟨a, ha, c, hCloses, hId⟩
      exact ⟨c, List.mem_filterMap.2 ⟨a, ha, hCloses⟩, hId⟩
  · rw [span?_eq_none_of_not_created fun a ha hCreates => hCreated ⟨a, ha, hCreates⟩] at hSpan
    cases hSpan

end History

/-- Whatever arrives at a store, ids are distinct, the index leads to every span and to nothing
else, every record keeps the place of its first arrival, and no orphan is counted without a
closure. If every closure ends its span, a span is what its last creation and the first closure
after it say, and every other closure changes the counts only. -/
theorem records_placed_and_settled_once (arrivals : List Arrival) :
    let s := empty.arriveAll arrivals
    ((s.traces.map (·.id)).Nodup ∧ (s.spans.map (·.id)).Nodup) ∧
    ((∀ id place, s.position? id = some place ↔ (s.spans[place]?).map (·.id) = some id) ∧
      (∀ id place, s.position? id = some place → place < s.spans.length) ∧
      ∀ id span, s.span? id = some span ↔ span ∈ s.spans ∧ span.id = id) ∧
    (s.traces.map (·.id) = (arrivals.filterMap Arrival.traceId?).eraseDups ∧
      s.spans.map (·.id) = ((arrivals.filterMap Arrival.creation?).map (·.id)).eraseDups ∧
      ∀ more, s.traces.map (·.id) <+: (s.arriveAll more).traces.map (·.id) ∧
        s.spans.map (·.id) <+: (s.arriveAll more).spans.map (·.id)) ∧
    s.orphans ≤ s.closures ∧
    ((∀ a ∈ arrivals, a.Ends) →
      (∀ id, (∀ a ∈ arrivals, ¬ a.Creates id) → s.span? id = none) ∧
      (∀ span after, LastCreation arrivals span after →
        s.span? span.id = some (span.settledBy (after.filterMap Arrival.closure?))) ∧
      ∀ a c, a.closure? = some c → Spent arrivals c.spanId →
        s.arrive a = { s with
          closures := s.closures + 1
          orphans := if s.hasSpan c.spanId then s.orphans else s.orphans + 1 }) := by
  intro s
  have hIndexed : s.Indexed := indexed_arriveAll arrivals
  refine ⟨⟨?traces, hIndexed.nodup_ids⟩, ⟨hIndexed, fun _ _ => hIndexed.lt_of_position?,
    fun _ _ => hIndexed.span?_eq_some_iff⟩, ⟨traceIds_arriveAll arrivals,
    spanIds_arriveAll arrivals, ?places⟩, orphans_arriveAll_le arrivals, ?settled⟩
  case traces =>
    rw [traceIds_arriveAll]
    exact nodup_eraseDups _
  case places =>
    intro more
    rw [← arriveAll_append, traceIds_arriveAll, spanIds_arriveAll, traceIds_arriveAll,
      spanIds_arriveAll, List.filterMap_append, List.filterMap_append, List.map_append,
      List.eraseDups_append, List.eraseDups_append]
    exact ⟨List.prefix_append _ _, List.prefix_append _ _⟩
  case settled =>
    intro hEnds
    refine ⟨fun id => span?_eq_none_of_not_created,
      fun span after => span?_of_lastCreation hEnds, ?_⟩
    intro a c hCloses hSpent
    exact arrive_eq_of_not_open hIndexed hCloses fun span hSpan => hSpent.not_isOpen hEnds hSpan

/-- The span that a failure closes among the arrivals `closedEarlyAndLate`. -/
def searchSpan : Span := .new "s1" "t1" "search" ⟨0, 0⟩

def searchFailure : Closure := .failed "s1" "t1" "out of time" none ⟨2, 0⟩

/-- A closure before its span, the span, a second one that is closed already, a failure that is
replayed and a late success. -/
def closedEarlyAndLate : List Arrival :=
  [.write (.endSpan (.succeeded "s1" "t1" none ⟨0, 0⟩)),
    .write (.createSpan searchSpan),
    .event (.ofSpan ((Span.new "s2" "t1" "answer" ⟨1, 0⟩).finished none ⟨1, 0⟩) "e1" ⟨1, 0⟩) ⟨9, 0⟩,
    .write (.createTrace (.new "t1" "story" ⟨0, 0⟩)),
    .event (.ofClosure searchFailure "e2" ⟨2, 0⟩) ⟨9, 0⟩,
    .write (.endSpan (.succeeded "s1" "t1" (some (.string "found")) ⟨3, 0⟩))]

theorem lastCreation_closedEarlyAndLate :
    LastCreation closedEarlyAndLate searchSpan (closedEarlyAndLate.drop 2) := by
  refine ⟨closedEarlyAndLate.take 1, .write (.createSpan searchSpan), rfl, rfl, ?_⟩
  simp only [closedEarlyAndLate, List.drop_succ_cons, List.drop_zero, List.forall_mem_cons]
  refine ⟨?second, ?trace, ?failure, ?success, List.forall_mem_nil _⟩
  case second =>
    rintro ⟨span, hCreates, hId⟩
    obtain rfl := Option.some.inj hCreates
    exact absurd hId (by decide)
  case trace | failure | success =>
    rintro ⟨span, hCreates, -⟩
    cases hCreates

theorem ends_closedEarlyAndLate : ∀ a ∈ closedEarlyAndLate, a.Ends := by
  simp only [closedEarlyAndLate, List.forall_mem_cons]
  refine ⟨?early, ?first, ?second, ?trace, ?failure, ?success, List.forall_mem_nil _⟩
  case early | success | failure =>
    intro c hCloses
    obtain rfl := Option.some.inj hCloses
    decide
  case first | second | trace =>
    intro c hCloses
    cases hCloses

theorem records_placed_and_settled_once_closedEarlyAndLate :
    let s := empty.arriveAll closedEarlyAndLate
    s.spans.map (·.id) = ["s1", "s2"] ∧
    s.span? "s1" = some (searchSpan.closedBy searchFailure) ∧
    s.arrive (.write (.endSpan searchFailure)) = { s with closures := 4, orphans := 1 } := by
  obtain ⟨-, -, ⟨-, hPlaces, -⟩, -, hSettled⟩ := records_placed_and_settled_once closedEarlyAndLate
  obtain ⟨-, hStored, hShut⟩ := hSettled ends_closedEarlyAndLate
  have hLast := lastCreation_closedEarlyAndLate
  have hSpent : Spent closedEarlyAndLate "s1" := by
    refine hLast.spent (.inr ⟨.event (.ofClosure searchFailure "e2" ⟨2, 0⟩) ⟨9, 0⟩, ?_, ?_⟩)
    · simp [closedEarlyAndLate]
    · exact ⟨searchFailure, rfl, rfl⟩
  refine ⟨hPlaces.trans (by decide +kernel), (hStored _ _ hLast).trans ?_, ?_⟩
  · rfl
  · exact hShut (.write (.endSpan searchFailure)) searchFailure rfl hSpent

end Store

end StoryTrace

import StoryTrace.Proofs.Store.Arrivals
import StoryTrace.Proofs.Story.Turn

/-!
# Closings of tracked spans

An orchestrator ends a span that it tracks before the sink answers to the closure, and offers no
other closure for an ended span. The record of a tracked span is therefore open as long as the span
is, and stays open for good once its closure is refused.
-/

namespace StoryTrace

namespace Watched

variable {σ : Type}

/-- The closures that were handed over, whatever the answer. -/
def offeredClosures (w : Watched σ) : List Closure := w.handovers.filterMap (·.write.closure?)

/-- The closures that were refused. -/
def refusedClosures (w : Watched σ) : List Closure :=
  w.handovers.filterMap fun x => x.refusal.bind fun _ => x.write.closure?

/-- A closure of the span was refused. -/
def Refused (w : Watched σ) (id : String) : Prop := ∃ c ∈ w.refusedClosures, c.spanId = id

variable {w : Watched σ} {noted : List Handover} {id : String}

theorem offeredClosures_note (sink : σ) :
    (w.note sink noted).offeredClosures =
      w.offeredClosures ++ noted.filterMap (·.write.closure?) := by
  simp [offeredClosures, note]

theorem refusedClosures_note (sink : σ) :
    (w.note sink noted).refusedClosures =
      w.refusedClosures ++ noted.filterMap fun x => x.refusal.bind fun _ => x.write.closure? := by
  simp [refusedClosures, note]

theorem Refused.note (h : w.Refused id) (sink : σ) : (w.note sink noted).Refused id := by
  obtain ⟨c, hc, hId⟩ := h
  exact ⟨c, by rw [refusedClosures_note]; exact List.mem_append_left _ hc, hId⟩

theorem Refused.exists_offered (h : w.Refused id) : ∃ c ∈ w.offeredClosures, c.spanId = id := by
  obtain ⟨c, hc, hId⟩ := h
  obtain ⟨x, hx, hRefused⟩ := List.mem_filterMap.1 hc
  obtain ⟨e, -, hClosure⟩ := Option.bind_eq_some_iff.1 hRefused
  exact ⟨c, List.mem_filterMap.2 ⟨x, hx, hClosure⟩, hId⟩

theorem refused_note_endSpan_iff (sink : σ) (c : Closure) (refusal : Option SinkError) :
    (w.note sink [⟨.endSpan c, refusal⟩]).Refused id ↔
      w.Refused id ∨ c.spanId = id ∧ refusal ≠ none := by
  unfold Refused
  rw [refusedClosures_note]
  cases refusal with
  | none => simp
  | some e => simp [Write.closure?, or_and_right, exists_or]

theorem span?_note_createSpan (sink : σ) (record : Span) :
    (w.note sink [⟨.createSpan record, none⟩]).store.span? id =
      if record.id = id then some record else w.store.span? id := by
  rw [store_note]
  exact w.indexed_store.span?_insertSpan record id

theorem span?_note_endSpan (sink : σ) (c : Closure) (refusal : Option SinkError) :
    (w.note sink [⟨.endSpan c, refusal⟩]).store.span? id =
      (w.store.span? id).map fun record => if refusal = none then record.close c else record := by
  rw [store_note]
  cases refusal with
  | none => exact w.indexed_store.span?_closeSpan c id
  | some e =>
      rw [List.filterMap_cons_none (Handover.accepted?_refused _ e)]
      simp

/-- The answer to a closure makes no difference to the other spans. -/
theorem span?_note_endSpan_of_ne (sink : σ) {c : Closure} (refusal : Option SinkError)
    (hOther : c.spanId ≠ id) :
    (w.note sink [⟨.endSpan c, refusal⟩]).store.span? id = w.store.span? id := by
  rw [span?_note_endSpan]
  cases hRecord : w.store.span? id with
  | none => rfl
  | some record =>
      obtain ⟨-, rfl⟩ := w.indexed_store.span?_eq_some_iff.1 hRecord
      simp [Span.close_of_ne hOther]

end Watched

namespace Store

/-- A write that creates and closes no span changes none. -/
theorem SameSpans.receive {s : Store} {w : Write} (hCreated : w.createdSpan? = none)
    (hClosure : w.closure? = none) : SameSpans (s.receive w) s := by
  cases w with
  | createTrace t => exact ((SameSpans.refl s).receive_createTrace t).symm
  | updateTrace u => exact ⟨rfl, rfl, rfl, rfl⟩
  | createSpan span => cases hCreated
  | endSpan c => cases hClosure

theorem SameSpans.trans {a b c : Store} (h : SameSpans a b) (hNext : SameSpans b c) :
    SameSpans a c :=
  ⟨h.spans.trans hNext.spans, h.index.trans hNext.index, h.closures.trans hNext.closures,
    h.orphans.trans hNext.orphans⟩

end Store

namespace Orchestrator

variable {σ : Type}

namespace Quiet

variable {noted : List Handover} (h : Quiet noted)
include h

theorem filterMap_closure? : noted.filterMap (·.write.closure?) = [] :=
  List.filterMap_eq_nil_iff.2 fun x hx => (h x hx).1

theorem filterMap_refused :
    (noted.filterMap fun x => x.refusal.bind fun _ => x.write.closure?) = [] := by
  apply List.filterMap_eq_nil_iff.2
  intro x hx
  simp [(h x hx).1]

theorem sameSpans (store : Store) :
    Store.SameSpans (store.receiveAll (noted.filterMap Handover.accepted?)) store := by
  induction noted generalizing store with
  | nil => exact .refl store
  | cons x rest ih =>
      have hRest : Quiet rest := fun y hy => h y (List.mem_cons_of_mem _ hy)
      obtain ⟨hClosure, hCreated⟩ := h x (List.mem_cons_self ..)
      obtain ⟨w, refusal⟩ := x
      cases refusal with
      | none => exact (ih hRest (store.receive w)).trans (.receive (hCreated rfl) hClosure)
      | some e => exact ih hRest store

end Quiet

/-- The record of every tracked span is there, and open exactly if the span is or a closure of it
was refused. -/
structure Tracks (s : Session StoryBoard (Watched σ)) : Prop where
  fresh : s.supply.Fresh
  keyed : s.state.Keyed
  stored : ∀ id record, s.sink.store.span? id = some record → s.supply.Gave id
  offered : ∀ c ∈ s.sink.offeredClosures, s.supply.Gave c.spanId
  once : (s.sink.offeredClosures.map (·.spanId)).Nodup
  unoffered : ∀ id span, s.state.spans.get? id = some span → span.endTime = none →
    ∀ c ∈ s.sink.offeredClosures, c.spanId ≠ id
  recorded : ∀ id span, s.state.spans.get? id = some span →
    ∃ record, s.sink.store.span? id = some record ∧
      (record.isOpen = true ↔ span.endTime = none ∨ s.sink.Refused id)
  left : ∀ id, s.sink.Refused id →
    ∃ record, s.sink.store.span? id = some record ∧ record.isOpen = true

theorem tracks_session (sink : σ) {supply : Supply} (hFresh : supply.Fresh) :
    Tracks (session sink supply) where
  fresh := hFresh
  keyed _ _ hSpan := by cases hSpan
  stored _ _ hRecord := by cases hRecord
  offered _ hc := by cases hc
  once := List.nodup_nil
  unoffered _ _ hSpan := by cases hSpan
  recorded _ _ hSpan := by cases hSpan
  left _ hRefused := by
    obtain ⟨c, hc, -⟩ := hRefused
    cases hc

namespace Tracks

variable {s s' : Session StoryBoard (Watched σ)}

theorem quiet (h : Tracks s) {board : StoryBoard} {noted : List Handover} {sink : σ}
    {supply : Supply} {n : Nat} (ends : s.state.KeepsEnds board) (hQuiet : Quiet noted)
    (uses : s.supply.Uses n supply) : Tracks ⟨board, s.sink.note sink noted, supply⟩ := by
  have hStore : Store.SameSpans (s.sink.note sink noted).store s.sink.store := by
    rw [Watched.store_note]
    exact hQuiet.sameSpans s.sink.store
  have hOffered : (s.sink.note sink noted).offeredClosures = s.sink.offeredClosures := by
    rw [Watched.offeredClosures_note, hQuiet.filterMap_closure?, List.append_nil]
  have hRefused (id : String) : (s.sink.note sink noted).Refused id ↔ s.sink.Refused id := by
    rw [Watched.Refused, Watched.refusedClosures_note, hQuiet.filterMap_refused, List.append_nil]
    exact Iff.rfl
  refine ⟨uses.fresh h.fresh, h.keyed.of_keepsEnds ends, ?stored, ?offered, hOffered ▸ h.once,
    ?unoffered, ?recorded, ?left⟩
  case stored =>
    intro id record hRecord
    exact uses.gave (h.stored id record ((hStore.span?_eq id).symm.trans hRecord))
  case offered =>
    intro c hc
    rw [hOffered] at hc
    exact uses.gave (h.offered c hc)
  case unoffered =>
    intro id span hSpan hOpen
    obtain ⟨old, hOld, -, hEnds⟩ := ends id span hSpan
    rw [hOffered]
    exact h.unoffered id old hOld (hEnds.1 hOpen)
  case recorded =>
    intro id span hSpan
    obtain ⟨old, hOld, -, hEnds⟩ := ends id span hSpan
    obtain ⟨record, hRecord, hOpen⟩ := h.recorded id old hOld
    refine ⟨record, (hStore.span?_eq id).trans hRecord, ?_⟩
    rw [hRefused, hOpen, hEnds]
  case left =>
    intro id hId
    rw [hRefused] at hId
    obtain ⟨record, hRecord, hOpen⟩ := h.left id hId
    exact ⟨record, (hStore.span?_eq id).trans hRecord, hOpen⟩

theorem opened (h : Tracks s) {board : StoryBoard} {record : Span} {kept : StorySpan} {sink : σ}
    {supply : Supply} (new : record.id = s.supply.ids s.supply.idsUsed)
    (same : kept.id = record.id) (ends : record.isOpen = true ↔ kept.endTime = none)
    (spans : board.spans = s.state.spans.put kept.id kept) (uses : s.supply.Uses 1 supply) :
    Tracks ⟨board, s.sink.note sink [⟨.createSpan record, none⟩], supply⟩ := by
  have hNew : ¬ s.supply.Gave record.id := by
    rw [new]
    exact h.fresh.not_gave 0
  have hGave : supply.Gave record.id := by
    rw [new]
    exact uses.gave_taken Nat.one_pos
  have hOffered : (s.sink.note sink [⟨.createSpan record, none⟩]).offeredClosures =
      s.sink.offeredClosures := by
    simp [Watched.offeredClosures_note, Write.closure?]
  have hRefused (id : String) : (s.sink.note sink [⟨.createSpan record, none⟩]).Refused id ↔
      s.sink.Refused id := by
    simp [Watched.Refused, Watched.refusedClosures_note]
  have hUnrefused : ¬ s.sink.Refused record.id := by
    intro hRef
    obtain ⟨c, hc, hId⟩ := hRef.exists_offered
    exact hNew (hId ▸ h.offered c hc)
  have hGet (id : String) : board.spans.get? id =
      if record.id = id then some kept else s.state.spans.get? id := by
    rw [spans, Table.get?_put, same]
  refine ⟨uses.fresh h.fresh, h.keyed.put spans, ?stored, ?offered, hOffered ▸ h.once, ?unoffered,
    ?recorded, ?left⟩
  case stored =>
    intro id old hOld
    rw [Watched.span?_note_createSpan] at hOld
    split at hOld
    case isTrue hHere => exact hHere ▸ hGave
    case isFalse => exact uses.gave (h.stored id old hOld)
  case offered =>
    intro c hc
    rw [hOffered] at hc
    exact uses.gave (h.offered c hc)
  case unoffered =>
    intro id span hSpan hOpen c hc hId
    rw [hGet] at hSpan
    rw [hOffered] at hc
    split at hSpan
    case isTrue hHere =>
      exact hNew (hHere.trans hId.symm ▸ h.offered c hc)
    case isFalse => exact h.unoffered id span hSpan hOpen c hc hId
  case recorded =>
    intro id span hSpan
    rw [hGet] at hSpan
    rw [Watched.span?_note_createSpan, hRefused]
    split at hSpan
    case isTrue hHere =>
      obtain rfl := Option.some.inj hSpan
      refine ⟨record, if_pos hHere, ?_⟩
      rw [ends, ← hHere, or_iff_left hUnrefused]
    case isFalse hOther =>
      rw [if_neg hOther]
      exact h.recorded id span hSpan
  case left =>
    intro id hId
    rw [hRefused] at hId
    have hOther : record.id ≠ id := by
      rintro rfl
      exact hUnrefused hId
    rw [Watched.span?_note_createSpan, if_neg hOther]
    exact h.left id hId

theorem ended (h : Tracks s) {known ended : StorySpan} {c : Closure} {refusal : Option SinkError}
    {sink : σ} {supply : Supply} (hKnown : s.state.spans.get? c.spanId = some known)
    (isOpen : known.endTime = none) (same : ended.id = known.id)
    (ends : ended.endTime ≠ none) (closes : c.status.isRunning = false)
    (uses : s.supply.Uses 0 supply) :
    Tracks ⟨s.state.setSpan ended, s.sink.note sink [⟨.endSpan c, refusal⟩], supply⟩ := by
  have hUnoffered := h.unoffered c.spanId known hKnown isOpen
  have hUnrefused : ¬ s.sink.Refused c.spanId := by
    intro hRef
    obtain ⟨d, hd, hId⟩ := hRef.exists_offered
    exact hUnoffered d hd hId
  obtain ⟨record, hRecord, hOpen⟩ := h.recorded c.spanId known hKnown
  have hIs : record.isOpen = true := hOpen.2 (.inl isOpen)
  have hRecordId : record.id = c.spanId :=
    (s.sink.indexed_store.span?_eq_some_iff.1 hRecord).2
  have hOffered : (s.sink.note sink [⟨.endSpan c, refusal⟩]).offeredClosures =
      s.sink.offeredClosures ++ [c] := by
    simp [Watched.offeredClosures_note, Write.closure?]
  have hGet (id : String) : (s.state.setSpan ended).spans.get? id =
      if c.spanId = id then some ended else s.state.spans.get? id := by
    rw [StoryBoard.setSpan, Table.get?_put, same, h.keyed _ _ hKnown]
  refine ⟨uses.fresh h.fresh, h.keyed.put rfl, ?stored, ?offered, ?once, ?unoffered, ?recorded,
    ?left⟩
  case stored =>
    intro id old hOld
    rw [Watched.span?_note_endSpan, Option.map_eq_some_iff] at hOld
    obtain ⟨before, hBefore, -⟩ := hOld
    exact uses.gave (h.stored id before hBefore)
  case offered =>
    intro d hd
    rw [hOffered] at hd
    rcases List.mem_append.1 hd with hBefore | hLast
    · exact uses.gave (h.offered d hBefore)
    · rw [List.mem_singleton.1 hLast]
      exact uses.gave (h.stored _ _ hRecord)
  case once =>
    rw [hOffered, List.map_append, List.nodup_append]
    refine ⟨h.once, List.nodup_singleton _, ?_⟩
    rintro id hId other hLast rfl
    obtain ⟨d, hd, rfl⟩ := List.mem_map.1 hId
    exact hUnoffered d hd (List.mem_singleton.1 hLast)
  case unoffered =>
    intro id span hSpan hStill d hd
    rw [hGet] at hSpan
    rw [hOffered] at hd
    split at hSpan
    case isTrue =>
      obtain rfl := Option.some.inj hSpan
      exact absurd hStill ends
    case isFalse hOther =>
      rcases List.mem_append.1 hd with hBefore | hLast
      · exact h.unoffered id span hSpan hStill d hBefore
      · rw [List.mem_singleton.1 hLast]
        exact hOther
  case recorded =>
    intro id span hSpan
    rw [hGet] at hSpan
    split at hSpan
    case isTrue hHere =>
      obtain rfl := Option.some.inj hSpan
      subst hHere
      refine ⟨_, by rw [Watched.span?_note_endSpan, hRecord]; rfl, ?_⟩
      rw [Watched.refused_note_endSpan_iff, or_iff_right hUnrefused, or_iff_right ends]
      cases refusal with
      | none => simp [Span.close_of_isOpen hIs hRecordId.symm, Span.isOpen, Span.closedBy, closes]
      | some e => simp [hIs]
    case isFalse hOther =>
      have hRefused := (Watched.refused_note_endSpan_iff (w := s.sink) sink c refusal).trans
        (or_iff_left fun hHere => hOther hHere.1)
      rw [Watched.span?_note_endSpan_of_ne sink refusal hOther, hRefused]
      exact h.recorded id span hSpan
  case left =>
    intro id hId
    rcases (Watched.refused_note_endSpan_iff sink c refusal).1 hId with hBefore | ⟨rfl, hHere⟩
    · have hOther : c.spanId ≠ id := by
        rintro rfl
        exact hUnrefused hBefore
      rw [Watched.span?_note_endSpan_of_ne sink refusal hOther]
      exact h.left id hBefore
    · exact ⟨record, by rw [Watched.span?_note_endSpan, hRecord]; simp [hHere], hIs⟩

end Tracks

theorem Turn.tracks {s s' : Session StoryBoard (Watched σ)} (hTurn : Turn s s') (h : Tracks s) :
    Tracks s' := by
  cases hTurn with
  | quiet ends hQuiet uses => exact h.quiet ends hQuiet uses
  | opened new same ends spans uses => exact h.opened new same ends spans uses
  | ended hKnown isOpen same ends closes uses => exact h.ended hKnown isOpen same ends closes uses

theorem Tracks.serveAll [Sink σ] {s : Session StoryBoard (Watched σ)} (h : Tracks s)
    (o : Orchestrator) (requests : List Request) : Tracks (o.serveAll requests s) := by
  induction requests generalizing s with
  | nil => exact h
  | cons q rest ih => exact ih ((turn_serve o h.keyed q).tracks h)

/-- A refusal is never taken back. -/
theorem Turn.refused {s s' : Session StoryBoard (Watched σ)} (hTurn : Turn s s') {id : String}
    (h : s.sink.Refused id) : s'.sink.Refused id := by
  cases hTurn with
  | quiet _ _ _ => exact h.note _
  | opened _ _ _ _ _ => exact h.note _
  | ended _ _ _ _ _ _ => exact h.note _

theorem Tracks.refused_serveAll [Sink σ] {s : Session StoryBoard (Watched σ)} (h : Tracks s)
    (o : Orchestrator) {id : String} (hRefused : s.sink.Refused id) (requests : List Request) :
    (o.serveAll requests s).sink.Refused id := by
  induction requests generalizing s with
  | nil => exact hRefused
  | cons q rest ih =>
      have hTurn := turn_serve o h.keyed q
      exact ih (hTurn.tracks h) (hTurn.refused hRefused)

section

variable [Sink σ] {s : Session StoryBoard (Watched σ)} {id : String} {span : StorySpan}

/-- A span that is ended takes an output without asking the sink. -/
theorem setOutput_of_ended (hSpan : s.state.spans.get? id = some span)
    (hEnded : span.endTime ≠ none) (output : Json) :
    (setOutput id output).Yields s fun answer t => answer = .ok true ∧ t.sink = s.sink := by
  refine .bind (Work.yields_state ?_)
  simp only [hSpan]
  split
  case h_1 => exact .bind (Work.yields_change (Work.yields_pure ⟨rfl, rfl⟩))
  case h_2 hOpen => exact absurd hOpen hEnded

theorem setError_of_ended (hSpan : s.state.spans.get? id = some span)
    (hEnded : span.endTime ≠ none) (message : String) :
    (setError id message).Yields s fun answer t => answer = .ok true ∧ t.sink = s.sink := by
  refine .bind (Work.yields_state ?_)
  rw [hSpan]
  refine .bind (Work.yields_now (.bind (Work.yields_change ?_)))
  split
  case h_1 => exact Work.yields_pure ⟨rfl, rfl⟩
  case h_2 hOpen => exact absurd hOpen hEnded

end

/-- Whatever is requested and refused, a tracked span has an end exactly if its record is closed,
unless its closure was refused. No closure is offered again: the record of a span whose closure was
refused stays open for good, while the span takes further outputs and errors as if it were
closed. -/
theorem tracked_closed_iff_of_not_refused [Sink σ] (o : Orchestrator) (sink : σ) {supply : Supply}
    (hFresh : supply.Fresh) (requests : List Request) :
    let s := o.serveAll requests (session sink supply)
    (∀ id span, s.state.spans.get? id = some span →
      ∃ record, s.sink.store.span? id = some record ∧
        ((span.endTime.isSome ↔ record.isOpen = false) ↔ ¬ s.sink.Refused id)) ∧
    (s.sink.offeredClosures.map (·.spanId)).Nodup ∧
    ∀ id, s.sink.Refused id →
      (∀ more, ∃ record, (o.serveAll more s).sink.store.span? id = some record ∧
        record.isOpen = true) ∧
      ∀ span, s.state.spans.get? id = some span →
        (∀ output, (setOutput id output s).1 = .ok true ∧
          (setOutput id output s).2.sink = s.sink) ∧
        ∀ message, (setError id message s).1 = .ok true ∧
          (setError id message s).2.sink = s.sink := by
  intro s
  have hTracks : Tracks s := (tracks_session sink hFresh).serveAll o requests
  have hEnded {id : String} {span : StorySpan} (hSpan : s.state.spans.get? id = some span)
      (hRefused : s.sink.Refused id) : span.endTime ≠ none := by
    intro hOpen
    obtain ⟨c, hc, hId⟩ := hRefused.exists_offered
    exact hTracks.unoffered id span hSpan hOpen c hc hId
  refine ⟨?agree, hTracks.once, ?refused⟩
  case agree =>
    intro id span hSpan
    obtain ⟨record, hRecord, hOpen⟩ := hTracks.recorded id span hSpan
    refine ⟨record, hRecord, ?_⟩
    rw [← Bool.not_eq_true, hOpen, Option.isSome_iff_ne_none]
    have := hEnded hSpan
    tauto
  case refused =>
    intro id hRefused
    refine ⟨?_, ?_⟩
    · intro more
      exact (hTracks.serveAll o more).left id (hTracks.refused_serveAll o hRefused more)
    · intro span hSpan
      have hHere := hEnded hSpan hRefused
      exact ⟨setOutput_of_ended hSpan hHere, setError_of_ended hSpan hHere⟩

/-- A story whose span is given an output twice, over a store that refuses one closure. -/
def outputAfterRefusal : Session StoryBoard (Watched Gate) :=
  serveAll ⟨none, "story"⟩
    [.createRoot "story-1" none (some "t1") [],
      .openSpan "t1" (.analysis "emotional" none none none),
      .setOutput "ii" (.string "calm"), .setOutput "ii" (.string "joy")]
    (session (Gate.start.refuse .endSpan 1) (.counting ⟨0, 0⟩))

theorem tracked_closed_iff_of_not_refused_outputAfterRefusal :
    (Supply.counting ⟨0, 0⟩).Fresh ∧ outputAfterRefusal.sink.Refused "ii" ∧
    (∃ record, outputAfterRefusal.sink.store.span? "ii" = some record ∧ record.isOpen = true) ∧
    outputAfterRefusal.sink.offeredClosures.length = 1 := by
  have hFresh := Supply.fresh_counting ⟨0, 0⟩
  have hRefused : outputAfterRefusal.sink.Refused "ii" := by
    refine ⟨.succeeded "ii" "t1" (some (.string "calm")) ⟨0, 0⟩, ?_, rfl⟩
    exact List.mem_singleton.2 rfl
  obtain ⟨-, -, hAfter⟩ := tracked_closed_iff_of_not_refused ⟨none, "story"⟩
    (Gate.start.refuse .endSpan 1) hFresh
    [.createRoot "story-1" none (some "t1") [],
      .openSpan "t1" (.analysis "emotional" none none none),
      .setOutput "ii" (.string "calm"), .setOutput "ii" (.string "joy")]
  exact ⟨hFresh, hRefused, (hAfter "ii" hRefused).1 [], by decide +kernel⟩

/-- The refused closure is not offered again: the tracked span is ended and its record is open. -/
theorem tracked_ended_and_record_open :
    (outputAfterRefusal.state.spans.get? "ii").map (·.endTime.isSome) = some true ∧
    (outputAfterRefusal.sink.sink.store.span? "ii").map (·.isOpen) = some true ∧
    (setOutput "ii" (.string "hope") outputAfterRefusal).2.sink.handovers.length =
      outputAfterRefusal.sink.handovers.length := by
  decide +kernel

end Orchestrator

end StoryTrace

import StoryTrace.Proofs.Run.Turn

/-!
# The store behind a recorder

A store that receives what a recorder hands over, less what was refused, holds the span of every
life as it is now: open while the run is open, and closed by the one closure that ended the run.
-/

namespace StoryTrace

namespace Recorder

variable {σ : Type}

theorem Quiet.receiveAll {noted : List Handover} (h : Quiet noted) (store : Store) :
    (store.receiveAll (noted.filterMap Handover.accepted?)).spans = store.spans ∧
      (store.receiveAll (noted.filterMap Handover.accepted?)).orphans = store.orphans := by
  unfold Quiet at h
  generalize noted.filterMap Handover.accepted? = writes at h
  induction writes generalizing store with
  | nil => exact ⟨rfl, rfl⟩
  | cons w rest ih =>
      obtain ⟨t, rfl⟩ := h w (List.mem_cons_self ..)
      have hRest := ih (store.receive (.createTrace t))
        fun v hv => h v (List.mem_cons_of_mem _ hv)
      simpa using hRest

/-- The store that the accepted writes make holds the spans of the given lives. -/
structure Mirrors (lives : List RunLife) (s : Session RunMap (Watched σ)) : Prop where
  fresh : s.supply.Fresh
  gave : ∀ l ∈ lives, s.supply.Gave l.span.id
  ids : (lives.map (·.span.id)).Nodup
  created : s.sink.createdSpans = lives.map (·.span)
  closures : s.sink.acceptedClosures.Perm (lives.filterMap (·.closure))
  spans : s.sink.store.spans = lives.map RunLife.current
  orphans : s.sink.store.orphans = 0
  opened : ∀ l ∈ lives, l.span.isOpen = true
  ended : ∀ l ∈ lives, ∀ c, l.closure = some c →
    c.spanId = l.span.id ∧ c.status.isRunning = false

namespace Mirrors

variable {r : Recorder} {lives lives' : List RunLife} {s s' : Session RunMap (Watched σ)}

theorem current_of_closed (h : Mirrors lives s) {l : RunLife} (hl : l ∈ lives) {c : Closure}
    (hClosure : l.closure = some c) : l.current = l.span.closedBy c := by
  simp only [RunLife.current, hClosure]
  exact Span.close_of_isOpen (h.opened l hl) (h.ended l hl c hClosure).1

/-- A span of the store is open exactly when its run is. -/
theorem isOpen_current (h : Mirrors lives s) {l : RunLife} (hl : l ∈ lives) :
    l.current.isOpen = l.closure.isNone := by
  have hOpen := h.opened l hl
  cases hClosure : l.closure with
  | none => simpa [RunLife.current, hClosure] using hOpen
  | some c =>
      rw [h.current_of_closed hl hClosure]
      exact (h.ended l hl c hClosure).2

theorem quiet (h : Mirrors lives s) {noted : List Handover} {sink : σ} {supply : Supply} {n : Nat}
    (hQuiet : Quiet noted) (uses : s.supply.Uses n supply) :
    Mirrors lives ⟨s.state, s.sink.note sink noted, supply⟩ where
  fresh := uses.fresh h.fresh
  gave l hl := uses.gave (h.gave l hl)
  ids := h.ids
  created := by
    simpa [Watched.createdSpans, Watched.accepted_note, hQuiet.created] using h.created
  closures := by
    simpa [Watched.acceptedClosures, Watched.accepted_note, hQuiet.closures] using h.closures
  spans := by
    rw [Watched.store_note, (hQuiet.receiveAll _).1]
    exact h.spans
  orphans := by
    rw [Watched.store_note, (hQuiet.receiveAll _).2]
    exact h.orphans
  opened := h.opened
  ended := h.ended

/-- A new life brings its span to the store. -/
theorem append_singleton (h : Mirrors lives s) {x : RunStart} {span : Span} (m : RunMap) (sink : σ)
    (hNew : ∀ l ∈ lives, l.span.id ≠ span.id) (hGave : s.supply.Gave span.id)
    (hOpen : span.isOpen = true) :
    Mirrors (lives ++ [⟨x, span, none⟩])
      ⟨m, s.sink.note sink [⟨.createSpan span, none⟩], s.supply⟩ := by
  have hStore : (s.sink.note sink [⟨.createSpan span, none⟩]).store =
      s.sink.store.insertSpan span := Watched.store_note ..
  refine ⟨h.fresh, ?gave, ?ids, ?created, ?closures, ?spans, ?orphans, ?opened, ?ended⟩
  case gave => exact List.forall_mem_append.2 ⟨h.gave, List.forall_mem_singleton.2 hGave⟩
  case ids =>
    rw [List.map_append, List.nodup_append]
    refine ⟨h.ids, List.nodup_singleton _, ?_⟩
    intro id hOld other hOther
    obtain ⟨l, hl, rfl⟩ := List.mem_map.1 hOld
    obtain rfl := List.mem_singleton.1 hOther
    exact hNew l hl
  case created =>
    rw [List.map_append, ← h.created]
    simp [Watched.createdSpans, Watched.accepted_note, Write.createdSpan?]
  case closures =>
    have hClosures := h.closures
    rw [Watched.acceptedClosures] at hClosures ⊢
    simpa [Watched.accepted_note, List.filterMap_cons, Write.closure?] using hClosures
  case spans =>
    have hAbsent : ∀ old ∈ s.sink.store.spans, old.id ≠ span.id := by
      intro old hOld
      rw [h.spans] at hOld
      obtain ⟨l, hl, rfl⟩ := List.mem_map.1 hOld
      rw [RunLife.id_current]
      exact hNew l hl
    rw [hStore, s.sink.indexed_store.spans_insertSpan_of_new hAbsent, h.spans, List.map_append]
    rfl
  case orphans =>
    simp only [hStore, Store.orphans_insertSpan]
    exact h.orphans
  case opened => exact List.forall_mem_append.2 ⟨h.opened, List.forall_mem_singleton.2 hOpen⟩
  case ended =>
    refine List.forall_mem_append.2 ⟨h.ended, List.forall_mem_singleton.2 ?_⟩
    intro c hClosure
    cases hClosure

/-- The span of a new life has an id that was still to come. -/
theorem opened_turn (h : Mirrors lives s) {x : RunStart} {span : Span} {noted : List Handover}
    {sink : σ} {supply : Supply} (m : RunMap)
    (hId : span.id = s.supply.ids (s.supply.idsUsed + 1)) (hOpen : span.isOpen = true)
    (hQuiet : Quiet noted) (uses : s.supply.Uses 2 supply) :
    Mirrors (lives ++ [⟨x, span, none⟩])
      ⟨m, s.sink.note sink (noted ++ [⟨.createSpan span, none⟩]), supply⟩ := by
  have hNew : ∀ l ∈ lives, l.span.id ≠ span.id := by
    intro l hl hEq
    exact h.fresh.not_gave 1 (hId ▸ hEq ▸ h.gave l hl)
  have hGave : supply.Gave span.id := hId ▸ uses.gave_taken (by omega)
  have hBefore : Mirrors lives ⟨s.state, s.sink.note sink noted, supply⟩ := h.quiet hQuiet uses
  rw [← Watched.note_note s.sink sink sink]
  exact hBefore.append_singleton m sink hNew hGave hOpen

/-- A closure that names the span of an open life closes that span and no other one. -/
theorem map_close_current (h : Mirrors lives s) (distinct : (lives.map RunLife.run).Nodup)
    {l : RunLife} (hl : l ∈ lives) (isOpen : l.closure = none) {c : Closure}
    (hId : c.spanId = l.span.id) :
    (lives.map RunLife.current).map (·.close c) =
      (lives.map (RunLife.endedBy l.run c)).map RunLife.current := by
  rw [List.map_map, List.map_map]
  apply List.map_congr_left
  intro other hOther
  by_cases hRun : other.run = l.run
  · obtain rfl : other = l := List.inj_on_of_nodup_map distinct hOther hl hRun
    simp [RunLife.endedBy, RunLife.current, isOpen]
  · have hOtherId : other.span.id ≠ l.span.id := by
      intro hEq
      exact hRun (congrArg RunLife.run (List.inj_on_of_nodup_map h.ids hOther hl hEq))
    have hKeeps : other.current.close c = other.current := by
      apply Span.close_of_ne
      rw [hId, RunLife.id_current]
      exact hOtherId.symm
    simp [RunLife.endedBy, hRun, hKeeps]

/-- An ended life has its span closed in the store. -/
theorem closed_turn (h : Mirrors lives s) (distinct : (lives.map RunLife.run).Nodup)
    {l : RunLife} (hl : l ∈ lives) (isOpen : l.closure = none) {c : Closure} {sink : σ}
    {supply : Supply} (m : RunMap) (hId : c.spanId = l.span.id)
    (hEnds : c.status.isRunning = false) (uses : s.supply.Uses 0 supply) :
    Mirrors (lives.map (RunLife.endedBy l.run c))
      ⟨m, s.sink.note sink [⟨.endSpan c, none⟩], supply⟩ := by
  have hStore : (s.sink.note sink [⟨.endSpan c, none⟩]).store = s.sink.store.closeSpan c :=
    Watched.store_note ..
  have hSpan : s.sink.store.hasSpan c.spanId = true := by
    have hMem : l.current ∈ s.sink.store.spans := by
      rw [h.spans]
      exact List.mem_map_of_mem hl
    rw [hId, ← RunLife.id_current]
    exact s.sink.indexed_store.hasSpan_of_mem hMem
  have hSpans := RunLife.map_span_map_endedBy l.run c lives
  refine ⟨uses.fresh h.fresh, ?gave, ?ids, ?created, ?closures, ?spans, ?orphans, ?opened,
    ?ended⟩
  case gave =>
    refine List.forall_mem_map.2 ?_
    intro other hOther
    rw [RunLife.span_endedBy]
    exact uses.gave (h.gave other hOther)
  case ids =>
    simp only [List.map_map, Function.comp_def, RunLife.span_endedBy]
    exact h.ids
  case created =>
    rw [hSpans, ← h.created]
    simp [Watched.createdSpans, Watched.accepted_note, Write.createdSpan?]
  case closures =>
    have hClosures := h.closures.append_right [c]
    refine List.Perm.trans ?_ (RunLife.filterMap_endedBy_perm distinct hl c isOpen).symm
    rw [Watched.acceptedClosures] at hClosures ⊢
    simpa [Watched.accepted_note, Write.closure?, RunLife.endedBy] using hClosures
  case spans =>
    rw [hStore, s.sink.indexed_store.spans_closeSpan, h.spans]
    exact h.map_close_current distinct hl isOpen hId
  case orphans =>
    rw [hStore, Store.orphans_closeSpan_of_hasSpan hSpan]
    exact h.orphans
  case opened =>
    refine List.forall_mem_map.2 ?_
    intro other hOther
    rw [RunLife.span_endedBy]
    exact h.opened other hOther
  case ended =>
    refine List.forall_mem_map.2 ?_
    intro other hOther d hClosure
    by_cases hRun : other.run = l.run
    · obtain rfl : other = l := List.inj_on_of_nodup_map distinct hOther hl hRun
      simp only [RunLife.endedBy, if_true, Option.some.injEq] at hClosure ⊢
      exact hClosure ▸ ⟨hId, hEnds⟩
    · simp only [RunLife.endedBy, hRun, if_false] at hClosure ⊢
      exact h.ended other hOther d hClosure

/-- Every turn keeps the store and the lives alike. -/
theorem turn (h : Mirrors lives s) (hHolds : s.state.Holds lives)
    {x : Exchange} (hTurn : Turn r lives s x lives' s') : Mirrors lives' s' := by
  cases hTurn with
  | quiet _ _ hQuiet uses => exact h.quiet hQuiet uses
  | opened _ _ new hSpan hQuiet uses =>
      exact h.opened_turn _ (by rw [hSpan]; rfl) (by rw [hSpan]; rfl) hQuiet uses
  | closed _ _ hl isOpen ends hClosure uses =>
      obtain ⟨-, hId, hEnds⟩ := closure_of_ending ends ⟨_, _, _⟩ _
      exact h.closed_turn hHolds.distinct hl isOpen _ (by rw [hClosure]; exact hId)
        (by rw [hClosure]; exact hEnds) uses

theorem start {sink : σ} {supply : Supply} (hFresh : supply.Fresh) :
    Mirrors [] (session sink supply) where
  fresh := hFresh
  gave _ hl := nomatch hl
  ids := List.nodup_nil
  created := rfl
  closures := List.Perm.refl _
  spans := rfl
  orphans := rfl
  opened _ hl := nomatch hl
  ended _ hl := nomatch hl

end Mirrors

end Recorder

end StoryTrace

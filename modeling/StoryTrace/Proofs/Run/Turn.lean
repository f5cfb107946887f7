import StoryTrace.Proofs.Run.Life

/-!
# Turns of a recorder

In terms of the lives of its runs a recorder has three turns: it hands over nothing that a store of
spans would notice, it opens one life, or it ends one. What every turn keeps holds after any
notices.
-/

namespace StoryTrace.Recorder

variable {σ : Type}

/-- No span and no closure was accepted. -/
def Quiet (noted : List Handover) : Prop :=
  ∀ w ∈ noted.filterMap Handover.accepted?, ∃ t, w = .createTrace t

theorem Quiet.created {noted : List Handover} (h : Quiet noted) :
    (noted.filterMap Handover.accepted?).filterMap Write.createdSpan? = [] := by
  apply List.filterMap_eq_nil_iff.2
  intro w hw
  obtain ⟨t, rfl⟩ := h w hw
  rfl

theorem Quiet.closures {noted : List Handover} (h : Quiet noted) :
    (noted.filterMap Handover.accepted?).filterMap Write.closure? = [] := by
  apply List.filterMap_eq_nil_iff.2
  intro w hw
  obtain ⟨t, rfl⟩ := h w hw
  rfl

theorem quiet_nil : Quiet [] := by
  intro w hw
  cases hw

theorem quiet_refused (w : Write) (e : SinkError) : Quiet [⟨w, some e⟩] := by
  intro w hw
  simp at hw

theorem Quiet.append {first more : List Handover} (h : Quiet first) (hMore : Quiet more) :
    Quiet (first ++ more) := by
  intro w hw
  rw [List.filterMap_append, List.mem_append] at hw
  exact hw.elim (h w) (hMore w)

theorem quiet_traceCreation (r : Recorder) (s : Session RunMap σ) (x : RunStart)
    (now : Instant) : Quiet (r.traceCreation s x now) := by
  unfold traceCreation
  split
  · exact quiet_nil
  · intro w hw
    exact ⟨_, by simpa using hw⟩

/-- How lives and session change together in an exchange. -/
inductive Turn (r : Recorder) (lives : List RunLife) (s : Session RunMap (Watched σ)) :
    Exchange → List RunLife → Session RunMap (Watched σ) → Prop where
  | quiet {x : Exchange} {noted : List Handover} {sink : σ} {supply : Supply} {n : Nat}
      (noStart : x.acceptedStart? = none) (noEnd : x.ended? = none)
      (hQuiet : Quiet noted) (uses : s.supply.Uses n supply) :
      Turn r lives s x lives ⟨s.state, s.sink.note sink noted, supply⟩
  | opened {x : Exchange} {start : RunStart} {span : Span} {now : Instant}
      {noted : List Handover} {sink : σ} {supply : Supply}
      (starts : x.acceptedStart? = some start) (noEnd : x.ended? = none)
      (new : ∀ l ∈ lives, l.run ≠ start.run)
      (hSpan : span = spanOf start (s.supply.ids (s.supply.idsUsed + 1))
        (((RunLife.parentAmong lives start).map (·.span.traceId)).getD
          (r.policy.join (s.supply.ids s.supply.idsUsed)))
        ((RunLife.parentAmong lives start).map (·.span.id)) now)
      (hQuiet : Quiet noted) (uses : s.supply.Uses 2 supply) :
      Turn r lives s x (lives ++ [⟨start, span, none⟩])
        ⟨s.state.enroll start.run span.traceId span.id start.kind.spanType,
          s.sink.note sink (noted ++ [⟨.createSpan span, none⟩]), supply⟩
  | closed {x : Exchange} {l : RunLife} {closure : ClosedRun → Instant → Closure}
      {now : Instant} {c : Closure} {sink : σ} {supply : Supply}
      (noStart : x.acceptedStart? = none) (hEnd : x.ended? = some l.run)
      (hl : l ∈ lives) (isOpen : l.closure = none)
      (ends : x.notice.ending? = some (l.run, closure))
      (hClosure : c = (closure ⟨l.span.traceId, l.span.id, l.span.type⟩ now).withType l.span.type)
      (uses : s.supply.Uses 0 supply) :
      Turn r lives s x (lives.map (RunLife.endedBy l.run c))
        ⟨s.state.setOpen l.run false, s.sink.note sink [⟨.endSpan c, none⟩], supply⟩

section Ending

variable {n : Notice} {run : RunId} {closure : ClosedRun → Instant → Closure}
  (h : n.ending? = some (run, closure))
include h

theorem run_of_ending : n.run = run := by
  cases n with
  | started _ => cases h
  | ended _ _ => cases h; rfl
  | failed _ _ => cases h; rfl

/-- The closure of an ending is about the span that is taken, and leaves it closed. -/
theorem closure_of_ending (taken : ClosedRun) (now : Instant) :
    (closure taken now).traceId = taken.traceId ∧ (closure taken now).spanId = taken.spanId ∧
      (closure taken now).status.isRunning = false := by
  cases n with
  | started _ => cases h
  | ended _ _ => cases h; exact ⟨rfl, rfl, rfl⟩
  | failed _ _ => cases h; exact ⟨rfl, rfl, rfl⟩

theorem acceptedStart?_of_ending (answer : Answer) (noted : List Handover) :
    (Exchange.mk n answer noted).acceptedStart? = none := by
  cases n with
  | started _ => cases h
  | ended _ _ => rfl
  | failed _ _ => rfl

theorem after_of_ending (lives : List RunLife) (answer : Answer) (noted : List Handover) :
    RunLife.after lives ⟨n, answer, noted⟩ =
      ((noted.filterMap Handover.accepted?).filterMap Write.closure?).foldl
        (fun ls c => ls.map (RunLife.endedBy run c)) lives := by
  cases n with
  | started _ => cases h
  | ended _ _ => cases h; rfl
  | failed _ _ => cases h; rfl

end Ending

theorem Step.turn [Sink σ] {r : Recorder} {lives : List RunLife}
    {s s' : Session RunMap (Watched σ)} {x : Exchange} (hHolds : s.state.Holds lives)
    (h : Step r s x s') : Turn r lives s x (RunLife.after lives x) s' := by
  have hStay (x : RunStart) (answer : Answer) (noted : List Handover) (hQuiet : Quiet noted) :
      RunLife.after lives ⟨.started x, answer, noted⟩ = lives := by
    simp [RunLife.after, Exchange.accepted, hQuiet.created]
  have hStill (x : Exchange) (noStart : x.acceptedStart? = none) (noEnd : x.ended? = none) :
      Turn r lives s x lives s := by
    have hTurn : Turn r lives s x lives ⟨s.state, s.sink.note s.sink.sink [], s.supply⟩ :=
      .quiet noStart noEnd quiet_nil (n := 0) ⟨rfl, rfl⟩
    rwa [Watched.note_nil] at hTurn
  cases h with
  | again known =>
      rw [hStay _ _ _ quiet_nil]
      exact hStill _ rfl rfl
  | traceRefused unknown new uses =>
      rw [hStay _ _ _ (quiet_refused _ _)]
      exact .quiet rfl rfl (quiet_refused _ _) uses
  | @spanRefused x e now later sink supply unknown uses =>
      have hQuiet := (quiet_traceCreation r s x now).append
        (quiet_refused (.createSpan (r.spanFor s x later)) e)
      rw [hStay _ _ _ hQuiet]
      exact .quiet rfl rfl hQuiet uses
  | @opened x now later sink supply unknown uses =>
      have hSpan : r.spanFor s x later = spanOf x (s.supply.ids (s.supply.idsUsed + 1))
          (((RunLife.parentAmong lives x).map (·.span.traceId)).getD
            (r.policy.join (s.supply.ids s.supply.idsUsed)))
          ((RunLife.parentAmong lives x).map (·.span.id)) later := by
        rw [spanFor, traceIdFor, hHolds.bind_traceId?, hHolds.bind_spanId?]
        rfl
      have hQuiet := quiet_traceCreation r s x now
      have hLives (answer : Answer) : RunLife.after lives ⟨.started x, answer,
          r.traceCreation s x now ++ [⟨.createSpan (r.spanFor s x later), none⟩]⟩ =
            lives ++ [⟨x, r.spanFor s x later, none⟩] := by
        simp [RunLife.after, Exchange.accepted, hQuiet.created, Write.createdSpan?]
      rw [hLives]
      exact .opened rfl rfl (hHolds.find?_eq_none_iff_forall.1 unknown) hSpan hQuiet uses
  | idle ends shut =>
      rw [after_of_ending ends]
      exact hStill _ (acceptedStart?_of_ending ends _ _) rfl
  | closeRefused ends known sent uses =>
      rw [after_of_ending ends]
      exact .quiet (acceptedStart?_of_ending ends _ _) rfl (quiet_refused _ _) uses
  | @closed n run closure taken now sink supply ends known sent uses =>
      obtain ⟨l, hl, rfl, hOpen, rfl⟩ := hHolds.exists_of_open known
      rw [after_of_ending ends]
      exact .closed (acceptedStart?_of_ending ends _ _)
        (congrArg some (run_of_ending ends)) hl hOpen ends rfl uses

theorem Turn.holds {r : Recorder} {lives lives' : List RunLife} {x : Exchange}
    {s s' : Session RunMap (Watched σ)} (h : Turn r lives s x lives' s')
    (hHolds : s.state.Holds lives) : s'.state.Holds lives' := by
  cases h with
  | quiet _ _ _ _ => exact hHolds
  | opened _ _ new hSpan _ _ => exact hHolds.enroll new (by rw [hSpan]; rfl)
  | closed _ _ _ _ _ _ _ => exact hHolds.setOpen _

/-! ## Many notices -/

section

variable [Sink σ] {r : Recorder} {sink : σ} {supply : Supply}

theorem attendAll_nil (s : Session RunMap (Watched σ)) : r.attendAll [] s = ([], s) := rfl

theorem attendAll_cons (n : Notice) (rest : List Notice) (s : Session RunMap (Watched σ)) :
    r.attendAll (n :: rest) s =
      ((r.attend n s).1 :: (r.attendAll rest (r.attend n s).2).1,
        (r.attendAll rest (r.attend n s).2).2) := by
  simp only [attendAll, List.mapM_cons, Work.run_bind, Work.run_pure]

/-- What every exchange keeps holds after any notices. -/
theorem attendAll_induction {motive : List Exchange → Session RunMap (Watched σ) → Prop}
    (hStep : ∀ history s n, motive history s →
      motive (history ++ [(r.attend n s).1]) (r.attend n s).2)
    {s : Session RunMap (Watched σ)} (h : motive [] s) (notices : List Notice) :
    motive (r.attendAll notices s).1 (r.attendAll notices s).2 := by
  suffices hFrom : ∀ history s, motive history s →
      motive (history ++ (r.attendAll notices s).1) (r.attendAll notices s).2 from
    hFrom [] s h
  clear h
  induction notices with
  | nil =>
      intro history s h
      simpa [attendAll_nil] using h
  | cons n rest ih =>
      intro history s h
      rw [attendAll_cons]
      simpa using ih _ _ (hStep history s n h)

theorem holds_empty : RunMap.empty.Holds [] := ⟨rfl, List.nodup_nil⟩

/-- What every step keeps holds after any notices, while the run map holds the lives that the history
tells. -/
theorem steps_attendAll {motive : List Exchange → Session RunMap (Watched σ) → Prop}
    (hStep : ∀ {history s x s'}, s.state.Holds (RunLife.ofHistory history) → motive history s →
      Step r s x s' → motive (history ++ [x]) s')
    (hStart : motive [] (session sink supply)) {notices : List Notice}
    {history : List Exchange} {s : Session RunMap (Watched σ)}
    (hRun : r.attendAll notices (session sink supply) = (history, s)) :
    s.state.Holds (RunLife.ofHistory history) ∧ motive history s := by
  have hAll := attendAll_induction (r := r) (s := session sink supply)
    (motive := fun history s => s.state.Holds (RunLife.ofHistory history) ∧ motive history s)
    (fun history s n h => ?_) ⟨holds_empty, hStart⟩ notices
  · rwa [hRun] at hAll
  · have hNext := step_attend (r := r) h.1.settled n
    refine ⟨?_, hStep h.1 h.2 hNext⟩
    rw [RunLife.ofHistory_append_singleton]
    exact (hNext.turn h.1).holds h.1

/-- What every turn keeps holds of the lives and the session after any notices. -/
theorem lives_attendAll
    {motive : List Exchange → List RunLife → Session RunMap (Watched σ) → Prop}
    (hTurn : ∀ {history lives s x lives' s'}, s.state.Holds lives → motive history lives s →
      Turn r lives s x lives' s' → motive (history ++ [x]) lives' s')
    (hStart : motive [] [] (session sink supply)) {notices : List Notice}
    {history : List Exchange} {s : Session RunMap (Watched σ)}
    (hRun : r.attendAll notices (session sink supply) = (history, s)) :
    s.state.Holds (RunLife.ofHistory history) ∧ motive history (RunLife.ofHistory history) s := by
  refine steps_attendAll (motive := fun history => motive history (RunLife.ofHistory history)) ?_
    hStart hRun
  intro history s x s' hHolds h hStep
  rw [RunLife.ofHistory_append_singleton]
  exact hTurn hHolds h (hStep.turn hHolds)

/-- The lives begin with the starts that were accepted. -/
theorem map_start_ofHistory {notices : List Notice} {history : List Exchange}
    {s : Session RunMap (Watched σ)}
    (hRun : r.attendAll notices (session sink supply) = (history, s)) :
    (RunLife.ofHistory history).map (·.start) = history.filterMap Exchange.acceptedStart? := by
  refine (lives_attendAll (motive := fun history lives _ =>
    lives.map (·.start) = history.filterMap Exchange.acceptedStart?) ?_ rfl hRun).2
  intro history lives s x lives' s' hHolds h hTurn
  rw [List.filterMap_append, ← h]
  cases hTurn with
  | quiet noStart _ _ _ => simp [noStart]
  | opened starts _ _ _ _ _ => simp [starts]
  | @closed l closure now c sink supply noStart _ _ _ _ _ _ =>
      rw [List.filterMap_cons_none noStart, List.filterMap_nil, List.append_nil, List.map_map]
      exact List.map_congr_left fun other _ => RunLife.start_endedBy l.run c other

end

end StoryTrace.Recorder

import Mathlib.Data.List.Find
import Mathlib.Data.List.Induction
import StoryTrace.Proofs.Run.Exchange

/-!
# Chronicles of notices

A chronicle tells what notices come to if nothing is refused, with every span under the id of its
run. What it tells of some of the runs does not depend on the others, as long as no start of a run
names a run of the other part as its parent.
-/

namespace StoryTrace

/-- The run that a start names as its parent. -/
def Notice.parent? : Notice → Option RunId
  | .started x => x.parent
  | .ended _ _ | .failed _ _ => none

/-- What notices come to: for each of them whether something was written, and the spans of the runs
that were started. -/
structure Chronicle where
  results : List (RunId × Bool)
  spans : List Span

namespace Chronicle

def empty : Chronicle := ⟨[], []⟩

/-- What stands in a chronicle for any reading of the clock. -/
def someTime : Instant := ⟨0, 0⟩

/-- The run was started. -/
def knows (spans : List Span) (run : RunId) : Bool := spans.any (·.id == run)

/-- The run was started and not ended. -/
def hasOpen (spans : List Span) (run : RunId) : Bool := spans.any fun s => s.id == run && s.isOpen

/-- The span that a start names as its parent, if it is one of the given ones. -/
def parentAmong (spans : List Span) (x : RunStart) : Option Span :=
  x.parent.bind fun parent => spans.find? (·.id == parent)

/-- The span of a run that starts for the first time. A run without a known parent names its trace,
unless one trace is fixed for all. -/
def spanFor (policy : TracePolicy) (spans : List Span) (x : RunStart) : Span :=
  Recorder.spanOf x x.run (((parentAmong spans x).map (·.traceId)).getD (policy.join x.run))
    ((parentAmong spans x).map (·.id)) someTime

/-- Whether something is written for a notice. -/
def writes (spans : List Span) : Notice → Bool
  | .started x => !knows spans x.run
  | .ended run _ | .failed run _ => hasOpen spans run

/-- The spans after a notice. -/
def spansAfter (policy : TracePolicy) (spans : List Span) : Notice → List Span
  | .started x => if knows spans x.run then spans else spans ++ [spanFor policy spans x]
  | .ended run output =>
    spans.map
      (·.close ((Closure.succeeded run "" (some output.payload) someTime).withUsage output.usage?))
  | .failed run error =>
    spans.map (·.close (Closure.failed run "" error.message error.kind someTime))

def record (policy : TracePolicy) (c : Chronicle) (n : Notice) : Chronicle :=
  ⟨c.results ++ [(n.run, writes c.spans n)], spansAfter policy c.spans n⟩

/-- The chronicle of notices in the given order. -/
def ofNotices (policy : TracePolicy) (notices : List Notice) : Chronicle :=
  notices.foldl (record policy) empty

theorem ofNotices_append_singleton (policy : TracePolicy) (notices : List Notice) (n : Notice) :
    ofNotices policy (notices ++ [n]) = record policy (ofNotices policy notices) n := by
  simp [ofNotices]

/-- What is told of the given runs. -/
def restrict (mine : RunId → Bool) (c : Chronicle) : Chronicle :=
  ⟨c.results.filter (mine ·.1), c.spans.filter (mine ·.id)⟩

section Ending

variable {n : Notice} {run : RunId} {closure : ClosedRun → Instant → Closure}
  (h : n.ending? = some (run, closure))
include h

theorem writes_of_ending (spans : List Span) : writes spans n = hasOpen spans run := by
  cases n with
  | started _ => cases h
  | ended _ _ | failed _ _ => cases h; rfl

theorem spansAfter_of_ending (policy : TracePolicy) (spans : List Span) :
    spansAfter policy spans n = spans.map (·.close (closure ⟨"", run, .span⟩ someTime)) := by
  cases n with
  | started _ => cases h
  | ended _ _ | failed _ _ => cases h; rfl

end Ending

/-- A closure of a run that has no open span changes no span. -/
theorem map_close_of_not_open {spans : List Span} {run : RunId} {c : Closure} (hId : c.spanId = run)
    (h : hasOpen spans run = false) : spans.map (·.close c) = spans := by
  rw [List.map_congr_left (g := id), List.map_id]
  intro s hs
  by_cases hRun : s.id = run
  · have hShut : s.isOpen = false := by
      simpa [hRun] using List.any_eq_false.1 h s hs
    exact Span.close_of_not_isOpen c hShut
  · exact Span.close_of_ne fun hSame => hRun (hSame.symm.trans hId)

/-- A notice for which nothing is written changes no span. -/
theorem spansAfter_of_not_writes (policy : TracePolicy) {spans : List Span} {n : Notice}
    (h : writes spans n = false) : spansAfter policy spans n = spans := by
  cases n with
  | started x =>
      have hKnown : knows spans x.run = true := by simpa [writes] using h
      simp only [spansAfter, hKnown, if_true]
  | ended run output => exact map_close_of_not_open rfl h
  | failed run error => exact map_close_of_not_open rfl h

/-! ## What is told of some of the runs -/

section Part

variable {policy : TracePolicy} {mine : RunId → Bool} {spans : List Span}

/-- What only spans of the part can be is looked for in the part. -/
theorem find?_filter_mine {test : Span → Bool}
    (hMine : ∀ s ∈ spans, test s = true → mine s.id = true) :
    (spans.filter (mine ·.id)).find? test = spans.find? test := by
  rw [List.find?_filter]
  refine List.find?_congr fun s hs => ?_
  cases hTest : test s with
  | false => simp
  | true => simp [hMine s hs hTest]

theorem knows_filter {run : RunId} (hRun : mine run = true) :
    knows (spans.filter (mine ·.id)) run = knows spans run := by
  rw [knows, knows, ← List.isSome_find?, ← List.isSome_find?, find?_filter_mine]
  intro s _ hId
  rw [beq_iff_eq.1 hId, hRun]

theorem hasOpen_filter {run : RunId} (hRun : mine run = true) :
    hasOpen (spans.filter (mine ·.id)) run = hasOpen spans run := by
  rw [hasOpen, hasOpen, ← List.isSome_find?, ← List.isSome_find?, find?_filter_mine]
  intro s _ hTest
  rw [beq_iff_eq.1 (Bool.and_eq_true_iff.1 hTest).1, hRun]

theorem writes_filter {n : Notice} (hRun : mine n.run = true) :
    writes (spans.filter (mine ·.id)) n = writes spans n := by
  cases n with
  | started x => exact congrArg not (knows_filter hRun)
  | ended run output => exact hasOpen_filter hRun
  | failed run error => exact hasOpen_filter hRun

theorem parentAmong_filter {x : RunStart}
    (hParent : ∀ s ∈ spans, x.parent = some s.id → mine s.id = true) :
    parentAmong (spans.filter (mine ·.id)) x = parentAmong spans x := by
  unfold parentAmong
  cases hNamed : x.parent with
  | none => rfl
  | some parent =>
      rw [Option.bind_some, Option.bind_some, find?_filter_mine]
      intro s hs hId
      exact hParent s hs (hNamed.trans (congrArg some (beq_iff_eq.1 hId).symm))

theorem filter_map_close (c : Closure) :
    (spans.map (·.close c)).filter (mine ·.id) = (spans.filter (mine ·.id)).map (·.close c) := by
  rw [List.filter_map]
  simp only [Function.comp_def, Span.id_close]

/-- Nothing is told of a run by a notice about a run of the other part. -/
theorem filter_spansAfter_of_not_mine {n : Notice} (hRun : mine n.run = false) :
    (spansAfter policy spans n).filter (mine ·.id) = spans.filter (mine ·.id) := by
  have hClose (c : Closure) (hId : c.spanId = n.run) :
      (spans.map (·.close c)).filter (mine ·.id) = spans.filter (mine ·.id) := by
    rw [filter_map_close, List.map_congr_left (g := id), List.map_id]
    intro s hs
    refine Span.close_of_ne fun hSame => ?_
    have hMine := (List.mem_filter.1 hs).2
    rw [← hSame, hId, hRun] at hMine
    cases hMine
  cases n with
  | started x =>
      simp only [spansAfter]
      split
      · rfl
      · have hNew : mine (spanFor policy spans x).id = false := hRun
        simp [hNew]
  | ended run output => exact hClose _ rfl
  | failed run error => exact hClose _ rfl

theorem filter_spansAfter {n : Notice} (hRun : mine n.run = true)
    (hParent : ∀ s ∈ spans, n.parent? = some s.id → mine s.id = true) :
    (spansAfter policy spans n).filter (mine ·.id) =
      spansAfter policy (spans.filter (mine ·.id)) n := by
  cases n with
  | started x =>
      have hKnows : knows (spans.filter (mine ·.id)) x.run = knows spans x.run :=
        knows_filter hRun
      have hNew : mine (spanFor policy spans x).id = true := hRun
      have hSpan : spanFor policy (spans.filter (mine ·.id)) x = spanFor policy spans x := by
        rw [spanFor, spanFor, parentAmong_filter hParent]
      simp only [spansAfter, hKnows, hSpan]
      split
      · rfl
      · simp [hNew]
  | ended run output => exact filter_map_close _
  | failed run error => exact filter_map_close _

end Part

/-- A span after a notice was there before, but for its closure, or is the span of a new run. -/
theorem mem_spansAfter_cases {policy : TracePolicy} {spans : List Span} {n : Notice} {s : Span}
    (h : s ∈ spansAfter policy spans n) :
    (∃ t ∈ spans, t.id = s.id ∧ t.traceId = s.traceId ∧ t.parentId = s.parentId) ∨
      ∃ x, n = .started x ∧ s = spanFor policy spans x := by
  have hClosed {c : Closure} (h : s ∈ spans.map (·.close c)) :
      ∃ t ∈ spans, t.id = s.id ∧ t.traceId = s.traceId ∧ t.parentId = s.parentId := by
    obtain ⟨t, ht, rfl⟩ := List.mem_map.1 h
    exact ⟨t, ht, by simp⟩
  cases n with
  | started x =>
      simp only [spansAfter] at h
      split at h
      · exact .inl ⟨s, h, rfl, rfl, rfl⟩
      · rcases List.mem_append.1 h with hOld | hLast
        · exact .inl ⟨s, hOld, rfl, rfl, rfl⟩
        · exact .inr ⟨x, rfl, List.mem_singleton.1 hLast⟩
  | ended run output => exact .inl (hClosed h)
  | failed run error => exact .inl (hClosed h)

theorem parentAmong_mem {spans : List Span} {x : RunStart} {p : Span}
    (h : parentAmong spans x = some p) : p ∈ spans ∧ x.parent = some p.id := by
  obtain ⟨named, hParent, hFind⟩ := Option.bind_eq_some_iff.1 h
  have hId : p.id = named := by simpa using List.find?_some hFind
  exact ⟨List.mem_of_find?_eq_some hFind, hId ▸ hParent⟩

/-- A span of the chronicle has the id of a run that was started, and no parent but the one that
the start names. -/
theorem exists_start_of_mem {policy : TracePolicy} {notices : List Notice} {s : Span}
    (h : s ∈ (ofNotices policy notices).spans) :
    ∃ x, .started x ∈ notices ∧ x.run = s.id ∧
      ∀ parent, s.parentId = some parent → x.parent = some parent := by
  induction notices using List.reverseRecOn generalizing s with
  | nil => cases h
  | append_singleton before n ih =>
      rw [ofNotices_append_singleton] at h
      obtain ⟨t, ht, hId, -, hParent⟩ | ⟨x, rfl, rfl⟩ := mem_spansAfter_cases h
      · obtain ⟨x, hx, hRest⟩ := ih ht
        rw [hId, hParent] at hRest
        exact ⟨x, List.mem_append_left _ hx, hRest⟩
      · refine ⟨x, by simp, rfl, fun parent hNamed => ?_⟩
        obtain ⟨p, hp, rfl⟩ := Option.map_eq_some_iff.1 hNamed
        exact (parentAmong_mem hp).2

/-- No start of a run names a run of the other part as its parent. -/
def Separates (mine : RunId → Bool) (notices : List Notice) : Prop :=
  ∀ x ∈ notices, ∀ y ∈ notices, x.parent? = some y.run → mine x.run = mine y.run

theorem restrict_record (policy : TracePolicy) {mine : RunId → Bool} {c : Chronicle} {n : Notice}
    (hParent : ∀ s ∈ c.spans, n.parent? = some s.id → mine n.run = mine s.id) :
    (record policy c n).restrict mine =
      if mine n.run then record policy (c.restrict mine) n else c.restrict mine := by
  cases hRun : mine n.run with
  | false =>
      rw [restrict, record, filter_spansAfter_of_not_mine hRun]
      simp [hRun, restrict]
  | true =>
      have hSpans : (spansAfter policy c.spans n).filter (mine ·.id) =
          spansAfter policy (c.spans.filter (mine ·.id)) n :=
        filter_spansAfter hRun fun s hs hNamed => (hParent s hs hNamed).symm.trans hRun
      rw [restrict, record, hSpans, if_pos rfl, record, restrict, writes_filter hRun]
      simp [hRun]

/-- What notices tell of some of the runs is what the notices about these runs tell. -/
theorem restrict_ofNotices (policy : TracePolicy) {mine : RunId → Bool} {notices : List Notice}
    (h : Separates mine notices) :
    (ofNotices policy notices).restrict mine =
      ofNotices policy (notices.filter (mine ·.run)) := by
  induction notices using List.reverseRecOn with
  | nil => rfl
  | append_singleton before n ih =>
      have hBefore : Separates mine before := fun x hx y hy =>
        h x (List.mem_append_left _ hx) y (List.mem_append_left _ hy)
      rw [ofNotices_append_singleton, restrict_record, ih hBefore, List.filter_append]
      · cases hRun : mine n.run <;> simp [hRun, ofNotices_append_singleton]
      · intro s hs hNamed
        obtain ⟨x, hx, hRun, -⟩ := exists_start_of_mem hs
        rw [← hRun] at hNamed ⊢
        exact h n (List.mem_append_right _ (List.mem_singleton.2 rfl)) (.started x)
          (List.mem_append_left _ hx) hNamed

/-- No parent leads from a span of the one part to a span of the other part. -/
theorem mine_id_eq_of_parent {policy : TracePolicy} {mine : RunId → Bool} {notices : List Notice}
    (h : Separates mine notices) {s t : Span} (hs : s ∈ (ofNotices policy notices).spans)
    (ht : t ∈ (ofNotices policy notices).spans) (hParent : t.parentId = some s.id) :
    mine t.id = mine s.id := by
  obtain ⟨x, hx, hRun, hNamed⟩ := exists_start_of_mem ht
  obtain ⟨y, hy, hOther, -⟩ := exists_start_of_mem hs
  rw [← hRun, ← hOther]
  exact h (.started x) hx (.started y) hy ((hNamed s.id hParent).trans (congrArg some hOther.symm))

/-- A trace that is named by a run is named by a run of the part that its spans belong to. -/
theorem mine_traceId_of_mem {mine : RunId → Bool} {notices : List Notice}
    (h : Separates mine notices) {s : Span} (hs : s ∈ (ofNotices .perRun notices).spans) :
    mine s.traceId = mine s.id := by
  induction notices using List.reverseRecOn generalizing s with
  | nil => cases hs
  | append_singleton before n ih =>
      have hBefore : Separates mine before := fun x hx y hy =>
        h x (List.mem_append_left _ hx) y (List.mem_append_left _ hy)
      rw [ofNotices_append_singleton] at hs
      obtain ⟨t, ht, hId, hTrace, -⟩ | ⟨x, rfl, rfl⟩ := mem_spansAfter_cases hs
      · rw [← hId, ← hTrace]
        exact ih hBefore ht
      · change mine (((parentAmong _ x).map (·.traceId)).getD x.run) = mine x.run
        cases hFound : parentAmong (ofNotices .perRun before).spans x with
        | none => rfl
        | some p =>
            obtain ⟨hp, hNamed⟩ := parentAmong_mem hFound
            obtain ⟨y, hy, hRun, -⟩ := exists_start_of_mem hp
            rw [Option.map_some, Option.getD_some, ih hBefore hp, ← hRun]
            refine (h (.started x) (by simp) (.started y) (List.mem_append_left _ hy) ?_).symm
            exact hNamed.trans (congrArg some hRun.symm)

end Chronicle

end StoryTrace

import StoryTrace.Proofs.Run.Exchange

/-!
# Lives of runs

A history of exchanges tells the life of every run: the start that was accepted, the span that was
created for it, and the closure that ended it. The run map of a recorder is the list of these lives,
latest first, so an exchange either changes nothing, opens one life or ends one.
-/

namespace StoryTrace

/-- What holds at every place of a list, given the items before it, holds at every place of a longer
list if it holds at the last one. -/
theorem forall_split_append_singleton {α : Type} {holds : List α → α → Prop} {items : List α}
    {new : α} (h : ∀ before a after, items = before ++ a :: after → holds before a)
    (hNew : holds items new) :
    ∀ before a after, items ++ [new] = before ++ a :: after → holds before a := by
  intro before a after hSplit
  rcases List.eq_nil_or_concat after with rfl | ⟨earlier, last, rfl⟩
  · obtain ⟨rfl, hLast⟩ := List.append_inj' hSplit rfl
    obtain rfl := List.singleton_inj.1 hLast
    exact hNew
  · have hSplit' : items ++ [new] = (before ++ a :: earlier) ++ [last] := by simpa using hSplit
    exact h before a earlier (List.append_inj' hSplit' rfl).1

/-- The writes that were accepted in an exchange. -/
def Exchange.accepted (x : Exchange) : List Write := x.handovers.filterMap Handover.accepted?

/-- The start, if it was answered with a new span. -/
def Exchange.acceptedStart? (x : Exchange) : Option RunStart :=
  match x.notice, x.answer with
  | .started start, .started (.ok known) => if known.repeated then none else some start
  | _, _ => none

/-- The run that was ended, if the end was accepted. -/
def Exchange.ended? (x : Exchange) : Option RunId :=
  match x.answer with
  | .finished (.ok true) => some x.notice.run
  | _ => none

/-- A run whose span was created. -/
structure RunLife where
  start : RunStart
  /-- The span as it was created. -/
  span : Span
  /-- What ended the run. -/
  closure : Option Closure

namespace RunLife

def run (l : RunLife) : RunId := l.start.run

/-- What a run map holds of the run. -/
def entry (l : RunLife) : RunId × RunEntry :=
  (l.run, ⟨l.span.traceId, some ⟨l.span.id, l.span.type, l.closure.isNone⟩⟩)

/-- The span as it is now. -/
def current (l : RunLife) : Span :=
  match l.closure with
  | none => l.span
  | some c => l.span.close c

/-- The life after a closure of the span of the given run. -/
def endedBy (run : RunId) (c : Closure) (l : RunLife) : RunLife :=
  if l.run = run then { l with closure := some c } else l

/-- The lives after an exchange. -/
def after (lives : List RunLife) (x : Exchange) : List RunLife :=
  match x.notice with
  | .started s => lives ++ (x.accepted.filterMap Write.createdSpan?).map fun span => ⟨s, span, none⟩
  | n => (x.accepted.filterMap Write.closure?).foldl (fun ls c => ls.map (endedBy n.run c)) lives

/-- The lives that a history tells, in the order of their starts. -/
def ofHistory (history : List Exchange) : List RunLife := history.foldl after []

theorem ofHistory_append_singleton (history : List Exchange) (x : Exchange) :
    ofHistory (history ++ [x]) = after (ofHistory history) x := by
  simp [ofHistory]

/-- The run that a start names as its parent, if it is one of the given ones. -/
def parentAmong (lives : List RunLife) (x : RunStart) : Option RunLife :=
  x.parent.bind fun parent => lives.find? (·.run = parent)

theorem parentAmong_mem {lives : List RunLife} {x : RunStart} {p : RunLife}
    (h : parentAmong lives x = some p) : p ∈ lives ∧ x.parent = some p.run := by
  obtain ⟨parent, hParent, hFind⟩ := Option.bind_eq_some_iff.1 h
  have hRun : p.run = parent := by simpa using List.find?_some hFind
  exact ⟨List.mem_of_find?_eq_some hFind, hRun ▸ hParent⟩

theorem parentAmong_eq_some_iff {lives : List RunLife} (distinct : (lives.map run).Nodup)
    {x : RunStart} {p : RunLife} :
    parentAmong lives x = some p ↔ p ∈ lives ∧ x.parent = some p.run := by
  constructor
  · exact parentAmong_mem
  · rintro ⟨hp, hParent⟩
    cases hFind : parentAmong lives x with
    | none =>
        simp only [parentAmong, hParent, Option.bind_some, List.find?_eq_none,
          decide_eq_true_eq] at hFind
        exact absurd rfl (hFind p hp)
    | some q =>
        obtain ⟨hq, hOther⟩ := parentAmong_mem hFind
        rw [hParent] at hOther
        rw [List.inj_on_of_nodup_map distinct hq hp (Option.some.inj hOther).symm]

@[simp] theorem run_endedBy (run : RunId) (c : Closure) (l : RunLife) :
    (l.endedBy run c).run = l.run := by
  unfold endedBy; split <;> rfl

@[simp] theorem start_endedBy (run : RunId) (c : Closure) (l : RunLife) :
    (l.endedBy run c).start = l.start := by
  unfold endedBy; split <;> rfl

@[simp] theorem span_endedBy (run : RunId) (c : Closure) (l : RunLife) :
    (l.endedBy run c).span = l.span := by
  unfold endedBy; split <;> rfl

theorem map_span_map_endedBy (run : RunId) (c : Closure) (lives : List RunLife) :
    (lives.map (endedBy run c)).map (·.span) = lives.map (·.span) := by
  rw [List.map_map]
  exact List.map_congr_left fun l _ => span_endedBy run c l

@[simp] theorem id_current (l : RunLife) : l.current.id = l.span.id := by
  unfold current; split <;> simp

@[simp] theorem traceId_current (l : RunLife) : l.current.traceId = l.span.traceId := by
  unfold current; split <;> simp

@[simp] theorem parentId_current (l : RunLife) : l.current.parentId = l.span.parentId := by
  unfold current; split <;> simp

/-- Ending one life changes what is read off that life only. -/
theorem filterMap_endedBy_perm {α : Type} {lives : List RunLife}
    (distinct : (lives.map run).Nodup) {l : RunLife} (hl : l ∈ lives) (c : Closure)
    {f : RunLife → Option α} (hNone : f l = none) :
    ((lives.map (endedBy l.run c)).filterMap f).Perm
      (lives.filterMap f ++ (f (endedBy l.run c l)).toList) := by
  obtain ⟨before, after, rfl⟩ := List.append_of_mem hl
  have hOthers (others : List RunLife) (hNot : ∀ k ∈ others, k.run ≠ l.run) :
      others.map (endedBy l.run c) = others := by
    rw [List.map_congr_left (g := id), List.map_id]
    intro k hk
    simp [endedBy, hNot k hk]
  have hSplit := List.nodup_append.1 (List.map_append ▸ distinct)
  have hBefore : ∀ k ∈ before, k.run ≠ l.run := by
    intro k hk
    exact hSplit.2.2 _ (List.mem_map_of_mem hk) _ (List.mem_map_of_mem (List.mem_cons_self ..))
  have hAfter : ∀ k ∈ after, k.run ≠ l.run := by
    intro k hk hEq
    exact (List.nodup_cons.1 hSplit.2.1).1 (hEq ▸ List.mem_map_of_mem hk)
  rw [List.map_append, List.map_cons, hOthers before hBefore, hOthers after hAfter]
  simp only [List.filterMap_append, List.append_assoc, List.filterMap_cons_none hNone]
  apply List.Perm.append_left _
  cases hHere : f (endedBy l.run c l) with
  | none => simp [List.filterMap_cons_none hHere]
  | some a =>
      rw [List.filterMap_cons_some hHere]
      exact @List.perm_append_comm _ [a] _

end RunLife

/-! ## Lives in a run map -/

/-- The run map holds the given lives, latest first, each run once. -/
structure RunMap.Holds (m : RunMap) (lives : List RunLife) : Prop where
  runs : m.runs = (lives.map RunLife.entry).reverse
  distinct : (lives.map RunLife.run).Nodup

namespace RunMap.Holds

variable {m : RunMap} {lives : List RunLife} (h : m.Holds lives)
include h

theorem mem_runs_iff {e : RunId × RunEntry} : e ∈ m.runs ↔ ∃ l ∈ lives, l.entry = e := by
  simp [h.runs]

theorem settled : m.Settled where
  distinct := by
    have hKeys : m.runs.map Prod.fst = (lives.map RunLife.run).reverse := by
      rw [h.runs, List.map_reverse, List.map_map]
      rfl
    rw [hKeys]
    exact List.nodup_reverse.2 h.distinct
  spanned := by
    intro e he
    obtain ⟨l, _, rfl⟩ := h.mem_runs_iff.1 he
    rfl

theorem find?_eq (run : RunId) :
    m.find? run = (lives.find? (·.run = run)).map fun l => l.entry.2 := by
  cases hFind : lives.find? (·.run = run) with
  | none =>
      refine find?_eq_none_iff.2 fun e he => ?_
      obtain ⟨l, hl, rfl⟩ := h.mem_runs_iff.1 he
      change l.run ≠ run
      simpa using List.find?_eq_none.1 hFind l hl
  | some l =>
      have hRun : l.run = run := by simpa using List.find?_some hFind
      refine h.settled.find?_eq_some_iff.2 (h.mem_runs_iff.2 ⟨l, ?_, ?_⟩)
      · exact List.mem_of_find?_eq_some hFind
      · rw [← hRun]
        rfl

theorem find?_of_mem {l : RunLife} (hl : l ∈ lives) : m.find? l.run = some l.entry.2 :=
  h.settled.find?_eq_some_iff.2 (h.mem_runs_iff.2 ⟨l, hl, rfl⟩)

theorem find?_eq_none_iff_forall {run : RunId} :
    m.find? run = none ↔ ∀ l ∈ lives, l.run ≠ run := by
  rw [h.find?_eq, Option.map_eq_none_iff, List.find?_eq_none]
  simp

theorem exists_of_find? {run : RunId} (hKnown : (m.find? run).isSome) :
    ∃ l ∈ lives, l.run = run := by
  obtain ⟨e, hFind⟩ := Option.isSome_iff_exists.1 hKnown
  obtain ⟨l, hl, hEntry⟩ := h.mem_runs_iff.1 (mem_of_find? hFind)
  exact ⟨l, hl, congrArg Prod.fst hEntry⟩

/-- An open run of the map is a life that was not ended. -/
theorem exists_of_open {run : RunId} {taken : ClosedRun} (hFind : m.find? run =
    some ⟨taken.traceId, some ⟨taken.spanId, taken.type, true⟩⟩) :
    ∃ l ∈ lives, l.run = run ∧ l.closure = none ∧
      taken = ⟨l.span.traceId, l.span.id, l.span.type⟩ := by
  obtain ⟨l, hl, hEntry⟩ := h.mem_runs_iff.1 (mem_of_find? hFind)
  simp only [RunLife.entry, Prod.mk.injEq, RunEntry.mk.injEq, Option.some.injEq,
    RunSpan.mk.injEq, Option.isNone_iff_eq_none] at hEntry
  obtain ⟨hRun, hTrace, hId, hType, hOpen⟩ := hEntry
  exact ⟨l, hl, hRun, hOpen, by rw [hTrace, hId, hType]⟩

theorem spanId?_eq_some_iff {run : RunId} {id : String} :
    m.spanId? run = some id ↔ ∃ l ∈ lives, l.run = run ∧ l.span.id = id := by
  constructor
  · intro hId
    rw [spanId?, span?, h.find?_eq] at hId
    cases hFind : lives.find? (·.run = run) with
    | none => simp [hFind] at hId
    | some l =>
        have hRun : l.run = run := by simpa using List.find?_some hFind
        rw [hFind] at hId
        exact ⟨l, List.mem_of_find?_eq_some hFind, hRun, Option.some.inj hId⟩
  · rintro ⟨l, hl, rfl, rfl⟩
    rw [spanId?, span?, h.find?_of_mem hl]
    rfl

theorem isOpen_of_mem {l : RunLife} (hl : l ∈ lives) : m.isOpen l.run = l.closure.isNone := by
  simp [isOpen, h.find?_of_mem hl, RunLife.entry, RunEntry.isOpen]

theorem size_eq : m.size = lives.length := by
  simp [size, h.runs]

theorem openCount_eq : m.openCount = lives.countP (·.closure.isNone) := by
  simp [openCount, h.runs, List.countP_reverse, List.countP_map, Function.comp_def,
    RunLife.entry, RunEntry.isOpen]

theorem bind_traceId? (x : RunStart) :
    x.parent.bind m.traceId? = (RunLife.parentAmong lives x).map (·.span.traceId) := by
  cases hParent : x.parent with
  | none => simp [RunLife.parentAmong, hParent]
  | some p =>
      simp only [RunLife.parentAmong, hParent, Option.bind_some, traceId?, h.find?_eq, Option.map_map]
      rfl

theorem bind_spanId? (x : RunStart) :
    x.parent.bind m.spanId? = (RunLife.parentAmong lives x).map (·.span.id) := by
  cases hParent : x.parent with
  | none => simp [RunLife.parentAmong, hParent]
  | some p =>
      simp only [RunLife.parentAmong, hParent, Option.bind_some, spanId?, span?, h.find?_eq]
      cases lives.find? (·.run = p) <;> rfl

/-- A new run is the latest one. -/
theorem enroll {x : RunStart} {span : Span} (hNew : ∀ l ∈ lives, l.run ≠ x.run)
    (hType : span.type = x.kind.spanType) :
    (m.enroll x.run span.traceId span.id x.kind.spanType).Holds (lives ++ [⟨x, span, none⟩]) where
  runs := by
    simp [h.runs, RunLife.entry, RunLife.run, hType]
  distinct := by
    rw [List.map_append, List.nodup_append]
    refine ⟨h.distinct, List.nodup_singleton _, ?_⟩
    intro run hRun other hOther
    obtain ⟨l, hl, rfl⟩ := List.mem_map.1 hRun
    obtain rfl := List.mem_singleton.1 hOther
    exact hNew l hl

theorem setOpen {l : RunLife} (c : Closure) :
    (m.setOpen l.run false).Holds (lives.map (RunLife.endedBy l.run c)) where
  runs := by
    simp only [RunMap.setOpen, update, h.runs, List.map_reverse, List.map_map]
    congr 1
    apply List.map_congr_left
    intro other _
    by_cases hRun : other.run = l.run
    · simp only [Function.comp_apply, RunLife.entry, RunLife.endedBy, hRun, if_true]
      simp only [RunLife.run, Option.map_some, Option.isNone_some]
      rw [show l.start.run = other.start.run from hRun.symm]
    · simp [RunLife.entry, RunLife.endedBy, hRun]
  distinct := by
    have hRuns : (lives.map (RunLife.endedBy l.run c)).map RunLife.run = lives.map RunLife.run := by
      rw [List.map_map]
      exact List.map_congr_left fun other _ => RunLife.run_endedBy l.run c other
    rw [hRuns]
    exact h.distinct

end RunMap.Holds

end StoryTrace

import Mathlib.Data.List.Induction
import Mathlib.Logic.Relation
import StoryTrace.Proofs.Run.Mirror

/-!
# Nesting of runs

A run is part of the run that its start names as its parent, if that one had begun by then. The
spans repeat this order: the span of a run names the span of the run that it is part of, and is in
the same trace.
-/

namespace StoryTrace

namespace RunLife

/-- The child is part of the parent, which had begun before it. -/
def PartOf (lives : List RunLife) (child parent : RunLife) : Prop :=
  ∃ before after, lives = before ++ child :: after ∧ parentAmong before child.start = some parent

/-- The run is not part of another one. -/
def TopLevel (lives : List RunLife) (l : RunLife) : Prop :=
  ∃ before after, lives = before ++ l :: after ∧ parentAmong before l.start = none

/-- The top-level run that a run is directly or indirectly part of. -/
def TopOf (lives : List RunLife) (l top : RunLife) : Prop :=
  Relation.ReflTransGen (PartOf lives) l top ∧ TopLevel lives top

/-- Every span names the span of the run that its own run is part of, and shares its trace. -/
def Nested (lives : List RunLife) : Prop :=
  ∀ before l after, lives = before ++ l :: after →
    l.span.parentId = (parentAmong before l.start).map (·.span.id) ∧
      ∀ p, parentAmong before l.start = some p → l.span.traceId = p.span.traceId

/-- The traces of the spans without a parent. -/
def rootTraces (lives : List RunLife) : List String :=
  ((lives.map (·.span)).filter (·.parentId.isNone)).map (·.traceId)

variable {lives : List RunLife}

theorem nested_nil : Nested [] := by
  intro before l after hSplit
  simp at hSplit

theorem Nested.append_singleton (h : Nested lives) {new : RunLife}
    (hParent : new.span.parentId = (parentAmong lives new.start).map (·.span.id))
    (hTrace : ∀ p, parentAmong lives new.start = some p → new.span.traceId = p.span.traceId) :
    Nested (lives ++ [new]) :=
  forall_split_append_singleton h ⟨hParent, hTrace⟩

/-- A new root keeps the traces of the roots distinct if no run is in its trace. -/
theorem nodup_rootTraces_append (hRoots : (rootTraces lives).Nodup) {new : RunLife}
    (hNew : new.span.parentId = none → ∀ l ∈ lives, l.span.traceId ≠ new.span.traceId) :
    (rootTraces (lives ++ [new])).Nodup := by
  cases hParent : new.span.parentId with
  | some parent =>
      have hSame : rootTraces (lives ++ [new]) = rootTraces lives := by
        simp [rootTraces, hParent]
      rw [hSame]
      exact hRoots
  | none =>
      have hMore : rootTraces (lives ++ [new]) = rootTraces lives ++ [new.span.traceId] := by
        simp [rootTraces, hParent]
      rw [hMore, List.nodup_append]
      refine ⟨hRoots, List.nodup_singleton _, ?_⟩
      intro t ht u hu
      obtain rfl := List.mem_singleton.1 hu
      obtain ⟨span, hSpan, rfl⟩ := List.mem_map.1 ht
      obtain ⟨l, hl, rfl⟩ := List.mem_map.1 (List.mem_filter.1 hSpan).1
      exact hNew hParent l hl

theorem parentAmong_map_endedBy (run : RunId) (c : Closure) (lives : List RunLife)
    (x : RunStart) :
    parentAmong (lives.map (endedBy run c)) x = (parentAmong lives x).map (endedBy run c) := by
  unfold parentAmong
  cases x.parent with
  | none => rfl
  | some parent =>
      simp only [Option.bind_some, List.find?_map, Function.comp_def, run_endedBy]

theorem Nested.map_endedBy (h : Nested lives) (run : RunId) (c : Closure) :
    Nested (lives.map (endedBy run c)) := by
  intro before l after hSplit
  obtain ⟨before, tail, rfl, rfl, hTail⟩ := List.map_eq_append_iff.1 hSplit
  obtain ⟨l, after, rfl, rfl, rfl⟩ := List.map_eq_cons_iff.1 hTail
  obtain ⟨hParent, hTrace⟩ := h before l after rfl
  rw [start_endedBy, span_endedBy, parentAmong_map_endedBy]
  constructor
  · rw [hParent, Option.map_map]
    exact congrArg (fun f => (parentAmong before l.start).map f)
      (funext fun q => congrArg Span.id (span_endedBy run c q).symm)
  · intro p hp
    obtain ⟨q, hq, rfl⟩ := Option.map_eq_some_iff.1 hp
    rw [span_endedBy]
    exact hTrace q hq

/-- A span names a parent exactly if the run that its start names had begun before. -/
theorem Nested.parentId_eq_some_iff (h : Nested lives) (distinct : (lives.map run).Nodup)
    {before after : List RunLife} {l : RunLife} (hSplit : lives = before ++ l :: after)
    {id : String} :
    l.span.parentId = some id ↔ ∃ p ∈ before, l.start.parent = some p.run ∧ p.span.id = id ∧
      p.span.traceId = l.span.traceId := by
  obtain ⟨hParent, hTrace⟩ := h before l after hSplit
  have hBefore : (before.map run).Nodup := by
    rw [hSplit, List.map_append] at distinct
    exact (List.nodup_append.1 distinct).1
  rw [hParent, Option.map_eq_some_iff]
  constructor
  · rintro ⟨p, hp, hId⟩
    obtain ⟨hMem, hNamed⟩ := parentAmong_mem hp
    exact ⟨p, hMem, hNamed, hId, (hTrace p hp).symm⟩
  · rintro ⟨p, hMem, hNamed, hId, -⟩
    exact ⟨p, (parentAmong_eq_some_iff hBefore).2 ⟨hMem, hNamed⟩, hId⟩

/-! ## Parts and tops by their spans -/

theorem PartOf.mem_child {child parent : RunLife} (h : PartOf lives child parent) :
    child ∈ lives := by
  obtain ⟨before, after, rfl, -⟩ := h
  exact List.mem_append_right _ (List.mem_cons_self ..)

theorem PartOf.mem_parent {child parent : RunLife} (h : PartOf lives child parent) :
    parent ∈ lives := by
  obtain ⟨before, after, rfl, hParent⟩ := h
  exact List.mem_append_left _ (parentAmong_mem hParent).1

theorem PartOf.id_ne (ids : (lives.map (·.span.id)).Nodup) {child parent : RunLife}
    (h : PartOf lives child parent) : parent.span.id ≠ child.span.id := by
  obtain ⟨before, after, rfl, hParent⟩ := h
  rw [List.map_append, List.nodup_append] at ids
  exact ids.2.2 _ (List.mem_map_of_mem (parentAmong_mem hParent).1) _ (List.mem_cons_self ..)

section Spans

variable (h : Nested lives) (ids : (lives.map (·.span.id)).Nodup)
include h

theorem Nested.trace_eq {child parent : RunLife} (hPart : PartOf lives child parent) :
    child.span.traceId = parent.span.traceId := by
  obtain ⟨before, after, hSplit, hParent⟩ := hPart
  exact (h before child after hSplit).2 parent hParent

theorem Nested.trace_eq_top {l top : RunLife} (hTop : TopOf lives l top) :
    l.span.traceId = top.span.traceId := by
  obtain ⟨hParts, -⟩ := hTop
  induction hParts with
  | refl => rfl
  | tail _ hLast ih => exact ih.trans (h.trace_eq hLast)

theorem Nested.topLevel_iff {l : RunLife} :
    TopLevel lives l ↔ l ∈ lives ∧ l.span.parentId = none := by
  constructor
  · rintro ⟨before, after, hSplit, hNone⟩
    refine ⟨by simp [hSplit], ?_⟩
    rw [(h before l after hSplit).1, hNone]
    rfl
  · rintro ⟨hl, hNone⟩
    obtain ⟨before, after, hSplit⟩ := List.append_of_mem hl
    refine ⟨before, after, hSplit, ?_⟩
    rw [(h before l after hSplit).1] at hNone
    exact Option.map_eq_none_iff.1 hNone

theorem Nested.exists_partOf {child : RunLife} (hChild : child ∈ lives) {parent : String}
    (hNamed : child.span.parentId = some parent) :
    ∃ p, PartOf lives child p ∧ p.span.id = parent := by
  obtain ⟨before, after, hSplit⟩ := List.append_of_mem hChild
  rw [(h before child after hSplit).1] at hNamed
  obtain ⟨p, hp, hId⟩ := Option.map_eq_some_iff.1 hNamed
  exact ⟨p, ⟨before, after, hSplit, hp⟩, hId⟩

include ids

theorem Nested.partOf_iff {child parent : RunLife} :
    PartOf lives child parent ↔
      child ∈ lives ∧ parent ∈ lives ∧ child.span.parentId = some parent.span.id := by
  constructor
  · intro hPart
    refine ⟨hPart.mem_child, hPart.mem_parent, ?_⟩
    obtain ⟨before, after, hSplit, hParent⟩ := hPart
    rw [(h before child after hSplit).1, hParent]
    rfl
  · rintro ⟨hChild, hMem, hNamed⟩
    obtain ⟨p, hPart, hId⟩ := h.exists_partOf hChild hNamed
    obtain rfl := List.inj_on_of_nodup_map ids hPart.mem_parent hMem hId
    exact hPart

/-- A run is part of one run at most. -/
theorem Nested.rightUnique : Relator.RightUnique (PartOf lives) := by
  intro child p q hp hq
  obtain ⟨-, hMem, hNamed⟩ := (h.partOf_iff ids).1 hp
  obtain ⟨-, hMem', hNamed'⟩ := (h.partOf_iff ids).1 hq
  rw [hNamed] at hNamed'
  exact List.inj_on_of_nodup_map ids hMem hMem' (Option.some.inj hNamed')

theorem Nested.not_partOf_of_topLevel {l parent : RunLife} (hTop : TopLevel lives l) :
    ¬ PartOf lives l parent := by
  intro hPart
  have hNone := (h.topLevel_iff.1 hTop).2
  have hNamed := ((h.partOf_iff ids).1 hPart).2.2
  simp [hNone] at hNamed

theorem Nested.topOf_unique {l a b : RunLife} (ha : TopOf lives l a) (hb : TopOf lives l b) :
    a = b := by
  have hStays {top other : RunLife} (hTop : TopLevel lives top)
      (hParts : Relation.ReflTransGen (PartOf lives) top other) : top = other := by
    rcases Relation.ReflTransGen.cases_head hParts with hEq | ⟨next, hNext, -⟩
    · exact hEq
    · exact absurd hNext (h.not_partOf_of_topLevel ids hTop)
  rcases Relation.ReflTransGen.total_of_right_unique (h.rightUnique ids) ha.1 hb.1 with hab | hba
  · exact hStays ha.2 hab
  · exact (hStays hb.2 hba).symm

omit h ids in
/-- Every run leads to a top-level one, since the run that it is part of had begun before. -/
theorem exists_topOf : ∀ l ∈ lives, ∃ top, TopOf lives l top := by
  suffices hPrefix : ∀ before after, lives = before ++ after →
      ∀ l ∈ before, ∃ top, TopOf lives l top from
    hPrefix lives [] (List.append_nil lives).symm
  intro before
  induction before using List.reverseRecOn with
  | nil => intro _ _ l hl; cases hl
  | append_singleton before last ih =>
      intro after hAll l hl
      have hSplit : lives = before ++ last :: after := by simpa using hAll
      rcases List.mem_append.1 hl with hEarlier | hLast
      · exact ih (last :: after) hSplit l hEarlier
      · obtain rfl := List.mem_singleton.1 hLast
        cases hParent : parentAmong before l.start with
        | none => exact ⟨l, .refl, before, after, hSplit, hParent⟩
        | some p =>
            obtain ⟨top, hParts, hTop⟩ :=
              ih (l :: after) hSplit p (parentAmong_mem hParent).1
            exact ⟨top, .head ⟨before, after, hSplit, hParent⟩ hParts, hTop⟩

/-- Every run has one top-level run above it. -/
theorem Nested.existsUnique_topOf {l : RunLife} (hl : l ∈ lives) : ∃! top, TopOf lives l top := by
  obtain ⟨top, hTop⟩ := exists_topOf l hl
  exact ⟨top, hTop, fun other hOther => h.topOf_unique ids hOther hTop⟩

omit h in
/-- Roots with a trace each are told apart by their traces. -/
theorem root_unique (hRoots : (rootTraces lives).Nodup) {a b : RunLife} (ha : a ∈ lives)
    (hb : b ∈ lives) (hRootA : a.span.parentId = none) (hRootB : b.span.parentId = none)
    (hTrace : a.span.traceId = b.span.traceId) : a = b := by
  have hMem {l : RunLife} (hl : l ∈ lives) (hRoot : l.span.parentId = none) :
      l.span ∈ (lives.map (·.span)).filter (·.parentId.isNone) :=
    List.mem_filter.2 ⟨List.mem_map_of_mem hl, by simp [hRoot]⟩
  have hSpans : a.span = b.span :=
    List.inj_on_of_nodup_map hRoots (hMem ha hRootA) (hMem hb hRootB) hTrace
  exact List.inj_on_of_nodup_map ids ha hb (congrArg Span.id hSpans)

/-- If every top-level run has a trace of its own, runs share a trace exactly below the same
top-level run. -/
theorem Nested.traceId_eq_iff (hRoots : (rootTraces lives).Nodup) {a b : RunLife}
    (ha : a ∈ lives) (hb : b ∈ lives) :
    a.span.traceId = b.span.traceId ↔ ∃ top, TopOf lives a top ∧ TopOf lives b top := by
  constructor
  · intro hTrace
    obtain ⟨topA, hTopA⟩ := exists_topOf a ha
    obtain ⟨topB, hTopB⟩ := exists_topOf b hb
    have hTops : topA.span.traceId = topB.span.traceId := by
      calc
        topA.span.traceId = a.span.traceId := (h.trace_eq_top hTopA).symm
        _ = b.span.traceId := hTrace
        _ = topB.span.traceId := h.trace_eq_top hTopB
    obtain ⟨hMemA, hRootA⟩ := h.topLevel_iff.1 hTopA.2
    obtain ⟨hMemB, hRootB⟩ := h.topLevel_iff.1 hTopB.2
    obtain rfl := root_unique ids hRoots hMemA hMemB hRootA hRootB hTops
    exact ⟨topA, hTopA, hTopB⟩
  · rintro ⟨top, hTopA, hTopB⟩
    exact (h.trace_eq_top hTopA).trans (h.trace_eq_top hTopB).symm

end Spans

end RunLife

/-! ## Nesting in a session -/

namespace Recorder

variable {σ : Type} {r : Recorder} {x : Exchange} {lives lives' : List RunLife}
  {s s' : Session RunMap (Watched σ)}

theorem Turn.nested (hTurn : Turn r lives s x lives' s') (h : RunLife.Nested lives) :
    RunLife.Nested lives' := by
  cases hTurn with
  | quiet _ _ _ _ => exact h
  | opened _ _ new hSpan hQuiet uses =>
      apply h.append_singleton (by rw [hSpan]; rfl)
      intro p hp
      rw [hSpan]
      simp only [hp]
      rfl
  | closed _ _ hl isOpen ends hClosure uses => exact h.map_endedBy _ _

/-- Every trace is one that was generated, and every root span has a trace of its own. -/
structure OwnTraces (lives : List RunLife) (s : Session RunMap (Watched σ)) : Prop where
  fresh : s.supply.Fresh
  gave : ∀ l ∈ lives, s.supply.Gave l.span.traceId
  roots : (RunLife.rootTraces lives).Nodup

theorem Turn.ownTraces (hTurn : Turn r lives s x lives' s') (hPolicy : r.policy = .perRun)
    (h : OwnTraces lives s) : OwnTraces lives' s' := by
  cases hTurn with
  | quiet _ _ hQuiet uses =>
      exact ⟨uses.fresh h.fresh, fun l hl => uses.gave (h.gave l hl), h.roots⟩
  | @opened start span now noted sink supply _ _ new hSpan hQuiet uses =>
      have hTrace : span.traceId = ((RunLife.parentAmong lives start).map (·.span.traceId)).getD
          (s.supply.ids s.supply.idsUsed) := by
        rw [hSpan, hPolicy]
        rfl
      have hParent : span.parentId = (RunLife.parentAmong lives start).map (·.span.id) := by
        rw [hSpan]
        rfl
      refine ⟨uses.fresh h.fresh, ?gave, RunLife.nodup_rootTraces_append h.roots ?own⟩
      case gave =>
        intro l hl
        rcases List.mem_append.1 hl with hOld | hLast
        · exact uses.gave (h.gave l hOld)
        · obtain rfl := List.mem_singleton.1 hLast
          rw [hTrace]
          cases hFound : RunLife.parentAmong lives start with
          | none => exact uses.gave_taken (k := 0) (by omega)
          | some p => exact uses.gave (h.gave p (RunLife.parentAmong_mem hFound).1)
      case own =>
        -- a root has begun without a parent, so its trace is one that was still to come
        intro hRoot l hl hEq
        have hNone : RunLife.parentAmong lives start = none :=
          Option.map_eq_none_iff.1 (hParent.symm.trans hRoot)
        rw [hNone] at hTrace
        apply h.fresh.not_gave 0
        have hGave := h.gave l hl
        rw [hEq, hTrace] at hGave
        exact hGave
  | @closed l closure now c sink supply _ _ hl isOpen ends hClosure uses =>
      have hFrom : ∀ k ∈ lives.map (RunLife.endedBy l.run c), supply.Gave k.span.traceId := by
        intro k hk
        obtain ⟨other, hOther, rfl⟩ := List.mem_map.1 hk
        rw [RunLife.span_endedBy]
        exact uses.gave (h.gave other hOther)
      refine ⟨uses.fresh h.fresh, hFrom, ?_⟩
      rw [RunLife.rootTraces, RunLife.map_span_map_endedBy]
      exact h.roots

end Recorder

end StoryTrace

import Mathlib.Data.List.Nodup
import StoryTrace.Store.Basic

/-!
# Spans of a store

The index of a store leads to the place of every span, so a span is found by its id, its id is its
own, and a write changes the one span that it names. What each write does to the spans of a store
and to its counts of closures.
-/

namespace StoryTrace

def Write.createdSpan? : Write → Option Span
  | .createSpan s => some s
  | _ => none

def Write.closure? : Write → Option Closure
  | .endSpan c => some c
  | _ => none

namespace Span

theorem close_of_ne {s : Span} {c : Closure} (h : c.spanId ≠ s.id) : s.close c = s := by
  simp [close, accepts, h]

theorem close_of_isOpen {s : Span} {c : Closure} (hOpen : s.isOpen = true)
    (h : c.spanId = s.id) : s.close c = s.closedBy c := by
  simp [close, accepts, hOpen, h]

end Span

namespace Store

variable {s : Store}

theorem insertSpan_of_known {span : Span} {place : Nat}
    (h : s.position? span.id = some place) :
    s.insertSpan span = { s with spans := s.spans.set place span } := by
  simp only [insertSpan, h]

theorem insertSpan_of_unknown {span : Span} (h : s.position? span.id = none) :
    s.insertSpan span =
      { s with spans := s.spans ++ [span], index := s.index.put span.id s.spans.length } := by
  simp only [insertSpan, h]

theorem position?_closeSpan (c : Closure) (id : String) :
    (s.closeSpan c).position? id = s.position? id := by
  unfold closeSpan
  split <;> rfl

/-- The index holds the place of every span and nothing else. -/
def Indexed (s : Store) : Prop :=
  ∀ id place, s.position? id = some place ↔ (s.spans[place]?).map (·.id) = some id

theorem indexed_empty : empty.Indexed := by
  intro id place
  simp [empty, position?]

namespace Indexed

variable (h : s.Indexed)
include h

theorem getElem?_of_position? {id : String} {place : Nat} (hPlace : s.position? id = some place) :
    ∃ span, s.spans[place]? = some span ∧ span.id = id :=
  Option.map_eq_some_iff.1 ((h id place).1 hPlace)

theorem position?_of_getElem? {span : Span} {place : Nat} (hSpan : s.spans[place]? = some span) :
    s.position? span.id = some place :=
  (h span.id place).2 (by rw [hSpan]; rfl)

theorem position?_of_mem {span : Span} (hSpan : span ∈ s.spans) :
    ∃ place, s.position? span.id = some place ∧ s.spans[place]? = some span := by
  obtain ⟨place, hPlace⟩ := List.mem_iff_getElem?.1 hSpan
  exact ⟨place, h.position?_of_getElem? hPlace, hPlace⟩

theorem position?_eq_none_iff {id : String} :
    s.position? id = none ↔ ∀ span ∈ s.spans, span.id ≠ id := by
  constructor
  · rintro hNone span hSpan rfl
    obtain ⟨place, hPlace, -⟩ := h.position?_of_mem hSpan
    rw [hNone] at hPlace
    cases hPlace
  · intro hOthers
    cases hPlace : s.position? id with
    | none => rfl
    | some place =>
        obtain ⟨span, hSpan, hId⟩ := h.getElem?_of_position? hPlace
        exact absurd hId (hOthers span (List.mem_of_getElem? hSpan))

/-- No look-up leads outside of the spans. -/
theorem lt_of_position? {id : String} {place : Nat} (hPlace : s.position? id = some place) :
    place < s.spans.length := by
  obtain ⟨span, hSpan, -⟩ := h.getElem?_of_position? hPlace
  exact (List.getElem?_eq_some_iff.1 hSpan).1

theorem eq_of_id_eq {a b : Span} {i j : Nat} (ha : s.spans[i]? = some a)
    (hb : s.spans[j]? = some b) (hId : a.id = b.id) : i = j := by
  have hPlace := h.position?_of_getElem? ha
  rw [hId, h.position?_of_getElem? hb] at hPlace
  exact (Option.some.inj hPlace).symm

theorem nodup_ids : (s.spans.map (·.id)).Nodup := by
  rw [List.nodup_iff_getElem?_ne_getElem?]
  intro i j hLess hBound hEq
  rw [List.length_map] at hBound
  have hj := List.getElem?_eq_getElem hBound
  have hi := List.getElem?_eq_getElem (Nat.lt_trans hLess hBound)
  rw [List.getElem?_map, List.getElem?_map, hi, hj] at hEq
  have := h.eq_of_id_eq hi hj (Option.some.inj hEq)
  omega

/-- A look-up finds the one span with the id. -/
theorem span?_eq_some_iff {id : String} {span : Span} :
    s.span? id = some span ↔ span ∈ s.spans ∧ span.id = id := by
  rw [span?, Option.bind_eq_some_iff]
  constructor
  · rintro ⟨place, hPlace, hSpan⟩
    obtain ⟨found, hFound, hId⟩ := h.getElem?_of_position? hPlace
    obtain rfl : found = span := Option.some.inj (hFound.symm.trans hSpan)
    exact ⟨List.mem_of_getElem? hSpan, hId⟩
  · rintro ⟨hSpan, rfl⟩
    exact h.position?_of_mem hSpan

theorem span?_eq_none_iff {id : String} :
    s.span? id = none ↔ ∀ span ∈ s.spans, span.id ≠ id := by
  constructor
  · rintro hNone span hSpan rfl
    rw [h.span?_eq_some_iff.2 ⟨hSpan, rfl⟩] at hNone
    cases hNone
  · intro hOthers
    rw [span?, h.position?_eq_none_iff.2 hOthers]
    rfl

theorem hasSpan_eq_isSome (id : String) : s.hasSpan id = (s.span? id).isSome := by
  cases hPlace : s.position? id with
  | none => simp [hasSpan, span?, hPlace]
  | some place =>
      obtain ⟨span, hSpan, -⟩ := h.getElem?_of_position? hPlace
      simp [hasSpan, span?, hPlace, hSpan]

theorem hasSpan_of_mem {span : Span} (hSpan : span ∈ s.spans) : s.hasSpan span.id = true := by
  obtain ⟨place, hPlace, -⟩ := h.position?_of_mem hSpan
  simp [hasSpan, hPlace]

/-! ## Creations -/

theorem spans_insertSpan_of_new {span : Span} (hNew : ∀ old ∈ s.spans, old.id ≠ span.id) :
    (s.insertSpan span).spans = s.spans ++ [span] := by
  rw [insertSpan_of_unknown (h.position?_eq_none_iff.2 hNew)]

/-- A span that is created again takes the place of the old one. -/
theorem spans_insertSpan_of_mem {span old : Span} (hOld : old ∈ s.spans) (hId : old.id = span.id) :
    (s.insertSpan span).spans = s.spans.map fun x => if x.id = span.id then span else x := by
  obtain ⟨here, hHere⟩ := List.mem_iff_getElem?.1 hOld
  rw [insertSpan_of_known (hId ▸ h.position?_of_getElem? hHere)]
  apply List.ext_getElem?
  intro place
  rw [List.getElem?_map]
  by_cases hSame : here = place
  · subst hSame
    rw [List.getElem?_set_self (List.getElem?_eq_some_iff.1 hHere).1, hHere, Option.map_some,
      if_pos hId]
  · rw [List.getElem?_set_ne hSame]
    cases hSpan : s.spans[place]? with
    | none => rfl
    | some x =>
        have hOther : x.id ≠ span.id := fun hEq =>
          hSame (h.eq_of_id_eq hHere hSpan (hId.trans hEq.symm))
        rw [Option.map_some, if_neg hOther]

theorem insertSpan (span : Span) : (s.insertSpan span).Indexed := by
  intro id place
  cases hPlace : s.position? span.id with
  | none =>
      have hNew := h.position?_eq_none_iff.1 hPlace
      have hIndex : (s.insertSpan span).position? id =
          if span.id = id then some s.spans.length else s.position? id := by
        rw [insertSpan_of_unknown hPlace]
        exact Table.get?_put ..
      rw [hIndex, h.spans_insertSpan_of_new hNew]
      rcases Nat.lt_trichotomy place s.spans.length with hLess | rfl | hMore
      · rw [List.getElem?_append_left hLess, ← h id place]
        by_cases hId : span.id = id
        · rw [if_pos hId, ← hId, hPlace]
          simp [Nat.ne_of_gt hLess]
        · rw [if_neg hId]
      · simp only [List.getElem?_concat_length, Option.map_some, Option.some.injEq]
        by_cases hId : span.id = id
        · simp [hId]
        · rw [if_neg hId]
          refine iff_of_false ?_ hId
          intro hOld
          exact Nat.lt_irrefl _ (h.lt_of_position? hOld)
      · have hOut : (s.spans ++ [span])[place]? = none := by
          rw [List.getElem?_eq_none_iff, List.length_append, List.length_singleton]
          exact hMore
        rw [hOut]
        refine iff_of_false ?_ (by simp)
        split
        · simp [Nat.ne_of_lt hMore]
        · intro hOld
          have := h.lt_of_position? hOld
          omega
  | some here =>
      obtain ⟨old, hOld, hId⟩ := h.getElem?_of_position? hPlace
      rw [insertSpan_of_known hPlace]
      refine (h id place).trans ?_
      by_cases hSame : here = place
      · subst hSame
        rw [List.getElem?_set_self (h.lt_of_position? hPlace), hOld, Option.map_some,
          Option.map_some, hId]
      · rw [List.getElem?_set_ne hSame]

theorem span?_insertSpan (span : Span) (id : String) :
    (s.insertSpan span).span? id = if span.id = id then some span else s.span? id := by
  have hAfter := h.insertSpan span
  by_cases hId : span.id = id
  · rw [if_pos hId, hAfter.span?_eq_some_iff]
    refine ⟨?_, hId⟩
    cases hPlace : s.position? span.id with
    | none => simp [insertSpan_of_unknown hPlace]
    | some here =>
        rw [insertSpan_of_known hPlace]
        exact List.mem_set (h.lt_of_position? hPlace) span
  · rw [if_neg hId]
    cases hPlace : s.position? span.id with
    | none =>
        have hIndex : (s.insertSpan span).position? id = s.position? id := by
          rw [insertSpan_of_unknown hPlace, position?, Table.get?_put, if_neg hId]
          rfl
        have hSpans := h.spans_insertSpan_of_new (h.position?_eq_none_iff.1 hPlace)
        rw [span?, span?, hIndex, hSpans]
        cases hOther : s.position? id with
        | none => rfl
        | some place => exact List.getElem?_append_left (h.lt_of_position? hOther)
    | some here =>
        have hIndex : (s.insertSpan span).position? id = s.position? id := by
          rw [insertSpan_of_known hPlace]
          rfl
        rw [span?, span?, hIndex, insertSpan_of_known hPlace]
        cases hOther : s.position? id with
        | none => rfl
        | some place =>
            have hApart : here ≠ place := by
              rintro rfl
              obtain ⟨a, ha, hIda⟩ := h.getElem?_of_position? hPlace
              obtain ⟨b, hb, hIdb⟩ := h.getElem?_of_position? hOther
              obtain rfl : a = b := Option.some.inj (ha.symm.trans hb)
              exact hId (hIda.symm.trans hIdb)
            exact List.getElem?_set_ne hApart

/-! ## Closures -/

/-- A closure is offered to every span, and at most one of them accepts it. -/
theorem spans_closeSpan (c : Closure) : (s.closeSpan c).spans = s.spans.map (·.close c) := by
  cases hPlace : s.position? c.spanId with
  | none =>
      have hOthers := h.position?_eq_none_iff.1 hPlace
      have hKeeps : s.spans.map (·.close c) = s.spans := by
        rw [List.map_congr_left (g := id), List.map_id]
        intro span hSpan
        exact Span.close_of_ne (hOthers span hSpan).symm
      simp only [closeSpan, hPlace, hKeeps]
  | some here =>
      obtain ⟨found, hFound, hId⟩ := h.getElem?_of_position? hPlace
      simp only [closeSpan, hPlace]
      apply List.ext_getElem?
      intro place
      rw [List.getElem?_modify, List.getElem?_map]
      by_cases hSame : here = place
      · simp [hSame]
      · cases hSpan : s.spans[place]? with
        | none => simp
        | some span =>
            have hOther : c.spanId ≠ span.id := by
              intro hEq
              exact hSame (h.eq_of_id_eq hFound hSpan (hId.trans hEq))
            simp [hSame, Span.close_of_ne hOther]

theorem closeSpan (c : Closure) : (s.closeSpan c).Indexed := by
  intro id place
  rw [position?_closeSpan, h.spans_closeSpan, h id place, List.getElem?_map, Option.map_map]
  simp [Function.comp_def]

theorem span?_closeSpan (c : Closure) (id : String) :
    (s.closeSpan c).span? id = (s.span? id).map (·.close c) := by
  rw [span?, span?, position?_closeSpan, h.spans_closeSpan]
  cases s.position? id with
  | none => rfl
  | some place => simp

theorem span?_closeSpan_of_ne {c : Closure} {id : String}
    (hOther : c.spanId ≠ id) : (s.closeSpan c).span? id = s.span? id := by
  rw [h.span?_closeSpan]
  cases hSpan : s.span? id with
  | none => rfl
  | some span =>
      obtain ⟨-, rfl⟩ := h.span?_eq_some_iff.1 hSpan
      exact congrArg some (Span.close_of_ne hOther)

theorem receive (w : Write) : (s.receive w).Indexed := by
  cases w with
  | createTrace t =>
      intro id place
      rw [show (s.receive (.createTrace t)).position? id = s.position? id by
        simp only [Store.receive, insertTrace, position?]; split <;> rfl]
      rw [h id place, show (s.receive (.createTrace t)).spans = s.spans from
        spans_insertTrace s t]
  | createSpan span => exact h.insertSpan span
  | endSpan c => exact h.closeSpan c
  | updateTrace u => exact h

theorem receiveAll (writes : List Write) : (s.receiveAll writes).Indexed := by
  induction writes generalizing s with
  | nil => exact h
  | cons w rest ih => exact ih (h.receive w)

end Indexed

theorem mem_spans_insertSpan {span x : Span} (h : x ∈ (s.insertSpan span).spans) :
    x ∈ s.spans ∨ x = span := by
  cases hPlace : s.position? span.id with
  | none =>
      rw [insertSpan_of_unknown hPlace] at h
      simpa using h
  | some place =>
      rw [insertSpan_of_known hPlace] at h
      exact List.mem_or_eq_of_mem_set h

@[simp] theorem orphans_insertSpan (span : Span) : (s.insertSpan span).orphans = s.orphans := by
  unfold insertSpan; split <;> rfl

theorem orphans_closeSpan_of_hasSpan {c : Closure} (h : s.hasSpan c.spanId = true) :
    (s.closeSpan c).orphans = s.orphans := by
  obtain ⟨place, hPlace⟩ := Option.isSome_iff_exists.1 h
  simp only [closeSpan, hPlace]

@[simp] theorem spans_receive_createTrace (t : Trace) :
    (s.receive (.createTrace t)).spans = s.spans :=
  spans_insertTrace s t

theorem span?_receive_createTrace (t : Trace) (id : String) :
    (s.receive (.createTrace t)).span? id = s.span? id := by
  simp only [receive, insertTrace]
  split <;> rfl

@[simp] theorem orphans_receive_createTrace (t : Trace) :
    (s.receive (.createTrace t)).orphans = s.orphans := by
  simp only [receive, insertTrace]
  split <;> rfl

@[simp] theorem receiveAll_nil : s.receiveAll [] = s := rfl

@[simp] theorem receiveAll_cons (w : Write) (rest : List Write) :
    s.receiveAll (w :: rest) = (s.receive w).receiveAll rest := rfl

end Store

end StoryTrace

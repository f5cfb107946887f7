import StoryTrace.Proofs.Forest

/-!
# Forests of parts and of renamed spans

A forest depends on its spans by their ids and parents only. Renaming the spans renames their
forest, as long as it keeps apart what names a parent from what does not. A part of the spans that
no parent leads out of or into has a forest of its own: the trees of the part, in their order.
-/

namespace StoryTrace

namespace SpanTree

mutual

/-- The tree with its spans changed. -/
def map (f : Span → Span) : SpanTree → SpanTree
  | .node s cs => .node (f s) (mapAll f cs)

def mapAll (f : Span → Span) : List SpanTree → List SpanTree
  | [] => []
  | t :: rest => t.map f :: mapAll f rest

end

theorem mapAll_eq_map (f : Span → Span) (forest : List SpanTree) :
    mapAll f forest = List.map (map f) forest := by
  induction forest with
  | nil => rfl
  | cons t rest ih => rw [mapAll, ih, List.map_cons]

end SpanTree

namespace SpanForest

open SpanTree (span mapAll mapAll_eq_map)

theorem nested_eq_any (all : List Span) (s : Span) :
    nested all s = (all.any (fun t => hangsBelow t.id s) && !hangsBelow s.id s) := by
  cases hParent : s.parentId with
  | none => simp [nested, hangsBelow, hParent]
  | some parent =>
      simp only [nested, hangsBelow, hParent, Option.some_beq_some]
      rw [bne, Bool.beq_comm (a := parent)]
      congr 2
      funext t
      exact Bool.beq_comm

theorem filter_filter_comm {α : Type} (p q : α → Bool) (items : List α) :
    (items.filter p).filter q = (items.filter q).filter p := by
  rw [List.filter_filter, List.filter_filter]
  exact List.filter_congr fun a _ => Bool.and_comm ..

/-- If nothing that passes the first test passes the second, only what fails the first is left. -/
theorem filter_filter_of_apart {α : Type} {p q : α → Bool} {items : List α}
    (h : ∀ a ∈ items, p a = true → q a = false) :
    (items.filter p).filter q = [] ∧ (items.filter fun a => !p a).filter q = items.filter q := by
  constructor
  · rw [List.filter_eq_nil_iff]
    intro a ha
    obtain ⟨hMem, hFirst⟩ := List.mem_filter.1 ha
    rw [h a hMem hFirst]
    exact Bool.false_ne_true
  · rw [filter_filter_comm, List.filter_eq_self]
    intro a ha
    obtain ⟨hMem, hSecond⟩ := List.mem_filter.1 ha
    cases hFirst : p a with
    | false => rfl
    | true => exact absurd hSecond (by simp [h a hMem hFirst])

namespace Grows

variable {tops pool left : List Span} {forest : SpanForest}

/-- Tops and pool determine what grows. -/
theorem unique {left' : List Span} {forest' : SpanForest} (h : Grows tops pool forest left)
    (h' : Grows tops pool forest' left') : forest = forest' ∧ left = left' := by
  induction h generalizing forest' left' with
  | nil pool =>
      cases h'
      exact ⟨rfl, rfl⟩
  | cons _ _ ihBelow ihBeside =>
      cases h' with
      | cons hBelow' hBeside' =>
          obtain ⟨rfl, rfl⟩ := ihBelow hBelow'
          obtain ⟨rfl, rfl⟩ := ihBeside hBeside'
          exact ⟨rfl, rfl⟩

/-- Renamed spans grow as the spans do. -/
theorem map {all : List Span} {f : Span → Span}
    (hKeeps : ∀ s ∈ all, ∀ t ∈ all, hangsBelow (f s).id (f t) = hangsBelow s.id t)
    (h : Grows tops pool forest left) (hTops : tops ⊆ all) (hPool : pool ⊆ all) :
    Grows (tops.map f) (pool.map f) (List.map (SpanTree.map f) forest) (left.map f) := by
  induction h with
  | nil pool => exact .nil _
  | @cons s rest pool between left below beside hBelow hBeside ihBelow ihBeside =>
      obtain ⟨hTop, hRest⟩ := List.cons_subset.1 hTops
      have hHangs : (pool.map f).filter (hangsBelow (f s).id) =
          (pool.filter (hangsBelow s.id)).map f := by
        rw [List.filter_map]
        exact congrArg (List.map f) (List.filter_congr fun t ht => hKeeps s hTop t (hPool ht))
      have hStays : (pool.map f).filter (fun t => !hangsBelow (f s).id t) =
          (pool.filter fun t => !hangsBelow s.id t).map f := by
        rw [List.filter_map]
        refine congrArg (List.map f) (List.filter_congr fun t ht => ?_)
        rw [Function.comp_apply, hKeeps s hTop t (hPool ht)]
      have hOut : between ⊆ all := fun t ht =>
        hPool (List.mem_filter.1 (hBelow.left_sublist.subset ht)).1
      rw [List.map_cons, List.map_cons, SpanTree.map, mapAll_eq_map]
      refine .cons ?_ (ihBeside hRest hOut)
      rw [hHangs, hStays]
      exact ihBelow (fun t ht => hPool (List.mem_filter.1 ht).1)
        fun t ht => hPool (List.mem_filter.1 ht).1

/-- A part that no parent leads out of or into grows on its own. -/
theorem filter {all : List Span} {part : Span → Bool}
    (hPart : ∀ s ∈ all, ∀ t ∈ all, hangsBelow s.id t = true → part t = part s)
    (h : Grows tops pool forest left) (hTops : tops ⊆ all) (hPool : pool ⊆ all) :
    Grows (tops.filter part) (pool.filter part) (forest.filter fun t => part t.span)
      (left.filter part) := by
  induction h with
  | nil pool => exact .nil _
  | @cons s rest pool between left below beside hBelow hBeside ihBelow ihBeside =>
      obtain ⟨hTop, hRest⟩ := List.cons_subset.1 hTops
      have hKids (t : Span) (ht : t ∈ pool) : hangsBelow s.id t = true → part t = part s :=
        hPart s hTop t (hPool ht)
      have hTrees : ∀ t ∈ below, part t.span = part s := by
        intro t ht
        have hSpan : t.span ∈ pool.filter (hangsBelow s.id) := by
          rw [← hBelow.map_span]
          exact List.mem_map_of_mem ht
        obtain ⟨hMem, hHangs⟩ := List.mem_filter.1 hSpan
        exact hKids _ hMem hHangs
      have hBelow' := ihBelow (fun t ht => hPool (List.mem_filter.1 ht).1)
        fun t ht => hPool (List.mem_filter.1 ht).1
      have hBeside' := ihBeside hRest fun t ht =>
        hPool (List.mem_filter.1 (hBelow.left_sublist.subset ht)).1
      cases hIn : part s with
      | true =>
          have hTree : (SpanTree.node s below :: beside).filter (fun t => part t.span) =
              .node s below :: beside.filter fun t => part t.span := by
            rw [List.filter_cons, if_pos (show part (SpanTree.node s below).span = true from hIn)]
          have hAll : below.filter (fun t => part t.span) = below :=
            List.filter_eq_self.2 fun t ht => (hTrees t ht).trans hIn
          rw [List.filter_cons_of_pos hIn, hTree]
          rw [hAll, filter_filter_comm, filter_filter_comm (fun t => !hangsBelow s.id t)] at hBelow'
          exact .cons hBelow' hBeside'
      | false =>
          have hTree : (SpanTree.node s below :: beside).filter (fun t => part t.span) =
              beside.filter fun t => part t.span := by
            rw [List.filter_cons, if_neg (show ¬ part (SpanTree.node s below).span = true from by
              simp [SpanTree.span, hIn])]
          obtain ⟨hNoKids, hStay⟩ := filter_filter_of_apart fun t ht hHangs =>
            (hKids t ht hHangs).trans hIn
          rw [hNoKids, hStay] at hBelow'
          rw [List.filter_cons_of_neg (by simp [hIn]), hTree, ((Grows.nil _).unique hBelow').2]
          exact hBeside'

end Grows

/-- The forest of renamed spans is the renamed forest. -/
theorem build_map {all : List Span} {f : Span → Span}
    (hKeeps : ∀ s ∈ all, ∀ t ∈ all, hangsBelow (f s).id (f t) = hangsBelow s.id t) :
    build (all.map f) = List.map (SpanTree.map f) (build all) := by
  have hNested (s : Span) (hs : s ∈ all) : nested (all.map f) (f s) = nested all s := by
    rw [nested_eq_any, nested_eq_any, hKeeps s hs s hs, List.any_map]
    congr 1
    rw [Bool.eq_iff_iff, List.any_eq_true, List.any_eq_true]
    exact exists_congr fun t => and_congr_right fun ht => by
      rw [Function.comp_apply, hKeeps t ht s hs]
  have hTops : (all.map f).filter (fun s => !nested (all.map f) s) =
      (all.filter fun s => !nested all s).map f := by
    rw [List.filter_map]
    refine congrArg (List.map f) (List.filter_congr fun s hs => ?_)
    rw [Function.comp_apply, hNested s hs]
  have hPool : (all.map f).filter (nested (all.map f)) = (all.filter (nested all)).map f := by
    rw [List.filter_map]
    exact congrArg (List.map f) (List.filter_congr fun s hs => hNested s hs)
  have hAll := grows_build (all.map f)
  rw [hTops, hPool] at hAll
  exact (hAll.unique ((grows_build all).map hKeeps (List.filter_subset_self _)
    (List.filter_subset_self _))).1

/-- The trees of a part that no parent leads out of or into are the forest of the part. -/
theorem build_filter {all : List Span} {part : Span → Bool}
    (hPart : ∀ s ∈ all, ∀ t ∈ all, hangsBelow s.id t = true → part t = part s) :
    build (all.filter part) = (build all).filter fun t => part t.span := by
  have hNested : ∀ s ∈ all.filter part, nested (all.filter part) s = nested all s := by
    intro s hs
    obtain ⟨hMem, hIn⟩ := List.mem_filter.1 hs
    rw [nested_eq_any, nested_eq_any, List.any_filter]
    congr 1
    rw [Bool.eq_iff_iff, List.any_eq_true, List.any_eq_true]
    refine exists_congr fun t => and_congr_right fun ht => ?_
    rw [Bool.and_eq_true, and_iff_right_of_imp]
    intro hHangs
    rw [← hPart t ht s hMem hHangs, hIn]
  have hTops : (all.filter part).filter (fun s => !nested (all.filter part) s) =
      (all.filter fun s => !nested all s).filter part := by
    rw [filter_filter_comm (fun s => !nested all s) part]
    exact List.filter_congr fun s hs => congrArg not (hNested s hs)
  have hPool : (all.filter part).filter (nested (all.filter part)) =
      (all.filter (nested all)).filter part := by
    rw [filter_filter_comm (nested all) part]
    exact List.filter_congr hNested
  have hAll := grows_build (all.filter part)
  rw [hTops, hPool] at hAll
  exact (hAll.unique ((grows_build all).filter hPart (List.filter_subset_self _)
    (List.filter_subset_self _))).1

end SpanForest

end StoryTrace

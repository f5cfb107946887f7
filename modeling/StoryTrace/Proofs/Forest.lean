import Mathlib.Data.List.Induction
import Mathlib.Data.List.Nodup
import Mathlib.Data.List.Perm.Basic
import StoryTrace.Forest

/-!
# Growth of span forests

Every span that grows into a forest was a top or was taken out of the pool, and what stays in the
pool hangs below no span of the forest. A span therefore stands in the forest of a list exactly
when its parents lead to a root, and below the spans that it names as parents.
-/

namespace StoryTrace

namespace SpanTree

mutual

/-- The trees that a tree is made of, each before those below it. -/
def nodes : SpanTree → List SpanTree
  | .node s cs => .node s cs :: nodesAll cs

def nodesAll : List SpanTree → List SpanTree
  | [] => []
  | t :: rest => t.nodes ++ nodesAll rest

end

mutual

theorem spans_eq_map_nodes (t : SpanTree) : t.spans = t.nodes.map span := by
  cases t with
  | node s cs => simp [spans, nodes, span, spansAll_eq_map_nodesAll cs]

theorem spansAll_eq_map_nodesAll (forest : List SpanTree) :
    spansAll forest = (nodesAll forest).map span := by
  cases forest with
  | nil => rfl
  | cons t rest =>
      simp [spansAll, nodesAll, spans_eq_map_nodes t, spansAll_eq_map_nodesAll rest]

end

mutual

theorem count_eq_length (t : SpanTree) : t.count = t.spans.length := by
  cases t with
  | node s cs =>
      rw [count, spans, List.length_cons, countAll_eq_length cs, Nat.add_comm]

theorem countAll_eq_length (forest : List SpanTree) :
    countAll forest = (spansAll forest).length := by
  cases forest with
  | nil => rfl
  | cons t rest =>
      rw [countAll, spansAll, List.length_append, count_eq_length t, countAll_eq_length rest]

end

theorem self_mem_nodes (t : SpanTree) : t ∈ t.nodes := by
  cases t with
  | node s cs => simp [nodes]

theorem mem_nodesAll_of_mem {t : SpanTree} {forest : List SpanTree} (h : t ∈ forest) :
    t ∈ nodesAll forest := by
  induction forest with
  | nil => cases h
  | cons other rest ih =>
      rcases List.mem_cons.1 h with rfl | hRest
      · exact List.mem_append_left _ (self_mem_nodes t)
      · exact List.mem_append_right _ (ih hRest)

mutual

/-- A span of a tree is its top or stands right below one of its nodes. -/
theorem mem_spans_cases {t : SpanTree} {u : Span} (h : u ∈ t.spans) :
    u = t.span ∨ ∃ n ∈ t.nodes, u ∈ n.children.map span := by
  cases t with
  | node s cs =>
      rcases List.mem_cons.1 h with rfl | hBelow
      · exact Or.inl rfl
      · right
        rcases mem_spansAll_cases hBelow with hTop | ⟨n, hn, hu⟩
        · exact ⟨.node s cs, self_mem_nodes _, hTop⟩
        · exact ⟨n, List.mem_cons_of_mem _ hn, hu⟩

theorem mem_spansAll_cases {forest : List SpanTree} {u : Span} (h : u ∈ spansAll forest) :
    u ∈ forest.map span ∨ ∃ n ∈ nodesAll forest, u ∈ n.children.map span := by
  cases forest with
  | nil => cases h
  | cons t rest =>
      rcases List.mem_append.1 h with hHere | hRest
      · rcases mem_spans_cases hHere with rfl | ⟨n, hn, hu⟩
        · exact Or.inl (List.mem_cons_self ..)
        · exact Or.inr ⟨n, List.mem_append_left _ hn, hu⟩
      · rcases mem_spansAll_cases hRest with hTop | ⟨n, hn, hu⟩
        · exact Or.inl (List.mem_cons_of_mem _ hTop)
        · exact Or.inr ⟨n, List.mem_append_right _ hn, hu⟩

end

end SpanTree

namespace SpanForest

open SpanTree

/-- How tops grow into a forest, with the pool before and after it. -/
inductive Grows : List Span → List Span → SpanForest → List Span → Prop where
  | nil (pool : List Span) : Grows [] pool [] pool
  | cons {s : Span} {rest pool between left : List Span} {below beside : SpanForest}
      (hBelow : Grows (pool.filter (hangsBelow s.id)) (pool.filter fun t => !hangsBelow s.id t)
        below between)
      (hBeside : Grows rest between beside left) :
      Grows (s :: rest) pool (.node s below :: beside) left

theorem grow_nil (pool : List Span) : (grow [] pool).val = ([], pool) := by
  rw [grow]

theorem grow_cons (s : Span) (rest pool : List Span) :
    (grow (s :: rest) pool).val =
      let below := (grow (pool.filter (hangsBelow s.id))
        (pool.filter fun t => !hangsBelow s.id t)).val
      let beside := (grow rest below.2).val
      (.node s below.1 :: beside.1, beside.2) := by
  rw [grow]

theorem grows_grow (tops pool : List Span) :
    Grows tops pool (grow tops pool).val.1 (grow tops pool).val.2 := by
  induction tops, pool using grow.induct with
  | case1 pool =>
      rw [grow_nil]
      exact .nil pool
  | case2 pool s rest below between _ hBelow beside left _ hBeside ihBelow ihBeside =>
      rw [hBelow] at ihBelow
      rw [hBeside] at ihBeside
      have hGrow : (grow (s :: rest) pool).val = (.node s below :: beside, left) := by
        rw [grow_cons, hBelow]
        simp only [hBeside]
      rw [hGrow]
      exact .cons ihBelow ihBeside

namespace Grows

variable {tops pool left : List Span} {forest : SpanForest}

/-- Nothing is lost and nothing is doubled. -/
theorem perm (h : Grows tops pool forest left) :
    (spansAll forest ++ left).Perm (tops ++ pool) := by
  induction h with
  | nil pool => exact List.Perm.refl _
  | @cons s rest pool between left below beside _ _ ihBelow ihBeside =>
      have hPool : (spansAll below ++ between).Perm pool :=
        ihBelow.trans (List.filter_append_perm _ pool)
      have hAll : (spansAll below ++ (spansAll beside ++ left)).Perm (rest ++ pool) := by
        calc
          List.Perm _ (spansAll below ++ (rest ++ between)) := ihBeside.append_left _
          List.Perm _ (rest ++ (spansAll below ++ between)) := List.perm_append_comm_assoc _ _ _
          List.Perm _ (rest ++ pool) := hPool.append_left rest
      simpa [spansAll, spans] using hAll

theorem map_span (h : Grows tops pool forest left) : forest.map span = tops := by
  induction h with
  | nil => rfl
  | cons _ _ _ ihBeside => simp [span, ihBeside]

theorem left_sublist (h : Grows tops pool forest left) : left.Sublist pool := by
  induction h with
  | nil => exact List.Sublist.refl _
  | cons _ _ ihBelow ihBeside => exact ihBeside.trans (ihBelow.trans List.filter_sublist)

/-- What stays in the pool hangs below no span of the forest. -/
theorem not_hangsBelow (h : Grows tops pool forest left) :
    ∀ u ∈ spansAll forest, ∀ t ∈ left, hangsBelow u.id t = false := by
  induction h with
  | nil => intro u hu; cases hu
  | @cons s rest pool between left below beside hBelow hBeside ihBelow ihBeside =>
      intro u hu t ht
      have hBetween : t ∈ between := hBeside.left_sublist.subset ht
      rcases List.mem_append.1 hu with hHere | hRest
      · rcases List.mem_cons.1 hHere with rfl | hKids
        · have := (List.mem_filter.1 (hBelow.left_sublist.subset hBetween)).2
          simpa using this
        · exact ihBelow u hKids t hBetween
      · exact ihBeside u hRest t ht

/-- The spans right below a node come out of the pool in order, and name the node as parent. -/
theorem children (h : Grows tops pool forest left) :
    ∀ n ∈ nodesAll forest, (n.children.map span).Sublist pool ∧
      ∀ u ∈ n.children.map span, u.parentId = some n.span.id := by
  induction h with
  | nil => intro n hn; cases hn
  | @cons s rest pool between left below beside hBelow hBeside ihBelow ihBeside =>
      intro n hn
      have hOut : between.Sublist pool := hBelow.left_sublist.trans List.filter_sublist
      rcases List.mem_append.1 hn with hHere | hRest
      · rcases List.mem_cons.1 hHere with rfl | hKids
        · rw [show (SpanTree.node s below).children = below from rfl, hBelow.map_span]
          refine ⟨List.filter_sublist, ?_⟩
          intro u hu
          have hHangs := (List.mem_filter.1 hu).2
          simpa [hangsBelow, span] using hHangs
        · exact ⟨(ihBelow n hKids).1.trans List.filter_sublist, (ihBelow n hKids).2⟩
      · exact ⟨(ihBeside n hRest).1.trans hOut, (ihBeside n hRest).2⟩

/-- What holds of the tops, and of every span below a span that it holds of, holds of the whole
forest. -/
theorem forall_mem {p : Span → Prop} (h : Grows tops pool forest left)
    (hTops : ∀ s ∈ tops, p s)
    (hStep : ∀ s, p s → ∀ t ∈ pool, hangsBelow s.id t = true → p t) :
    ∀ u ∈ spansAll forest, p u := by
  induction h with
  | nil => intro u hu; cases hu
  | @cons s rest pool between left below beside hBelow hBeside ihBelow ihBeside =>
      have hTop : p s := hTops s (List.mem_cons_self ..)
      have hOut : between.Sublist pool := hBelow.left_sublist.trans List.filter_sublist
      intro u hu
      rcases List.mem_append.1 hu with hHere | hRest
      · rcases List.mem_cons.1 hHere with rfl | hKids
        · exact hTop
        · refine ihBelow ?_ ?_ u hKids
          · intro t ht
            exact hStep s hTop t (List.mem_filter.1 ht).1 (List.mem_filter.1 ht).2
          · intro v hv t ht
            exact hStep v hv t (List.mem_filter.1 ht).1
      · refine ihBeside ?_ ?_ u hRest
        · intro t ht
          exact hTops t (List.mem_cons_of_mem _ ht)
        · intro v hv t ht
          exact hStep v hv t (hOut.subset ht)

end Grows

/-- The parents of a span lead to a root among the given spans. -/
inductive ReachesRoot (all : List Span) : Span → Prop where
  | root {s : Span} (hs : s ∈ all) (h : nested all s = false) : ReachesRoot all s
  | step {s parent : Span} (hs : s ∈ all) (h : s.parentId = some parent.id)
      (hParent : ReachesRoot all parent) : ReachesRoot all s

/-- The spans that a list of spans leaves out of its forest. -/
def lost (all : List Span) : List Span :=
  (grow (all.filter fun s => !nested all s) (all.filter (nested all))).val.2

theorem grows_build (all : List Span) :
    Grows (all.filter fun s => !nested all s) (all.filter (nested all)) (build all) (lost all) :=
  grows_grow _ _

/-- The forest and what it leaves out are the given spans. -/
theorem spansAll_build_append_lost_perm (all : List Span) :
    (spansAll (build all) ++ lost all).Perm all := by
  have hSplit : (all.filter (fun s => !nested all s) ++ all.filter (nested all)).Perm all := by
    have := List.filter_append_perm (fun s => !nested all s) all
    simpa using this
  exact (grows_build all).perm.trans hSplit

theorem map_span_build (all : List Span) :
    (build all).map span = all.filter fun s => !nested all s :=
  (grows_build all).map_span

/-- A span stands in the forest exactly when its parents lead to a root. -/
theorem mem_spansAll_build_iff {all : List Span} {s : Span} :
    s ∈ spansAll (build all) ↔ ReachesRoot all s := by
  constructor
  · intro hs
    refine (grows_build all).forall_mem ?_ ?_ s hs
    · intro t ht
      have hRoot := (List.mem_filter.1 ht).2
      exact .root (List.mem_filter.1 ht).1 (by simpa using hRoot)
    · intro parent hParent t ht hHangs
      exact .step (List.mem_filter.1 ht).1 (by simpa [hangsBelow] using hHangs) hParent
  · intro hs
    induction hs with
    | @root s hs hRoot =>
        have hTop : s ∈ (build all).map span := by
          rw [map_span_build]
          exact List.mem_filter.2 ⟨hs, by simp [hRoot]⟩
        obtain ⟨n, hn, rfl⟩ := List.mem_map.1 hTop
        rw [spansAll_eq_map_nodesAll]
        exact List.mem_map_of_mem (mem_nodesAll_of_mem hn)
    | @step s parent hs hNamed _ ih =>
        have hEither : s ∈ spansAll (build all) ++ lost all :=
          (spansAll_build_append_lost_perm all).mem_iff.2 hs
        rcases List.mem_append.1 hEither with hIn | hLost
        · exact hIn
        · have hNot := (grows_build all).not_hangsBelow parent ih s hLost
          simp [hangsBelow, hNamed] at hNot

theorem not_reachesRoot_of_mem_lost {all : List Span} {s : Span} (hs : s ∈ lost all) :
    ¬ ReachesRoot all s := by
  have hPool := List.mem_filter.1 ((grows_build all).left_sublist.subset hs)
  intro hReaches
  cases hReaches with
  | root _ hRoot => simp [hRoot] at hPool
  | @step _ parent _ hNamed hParent =>
      have hNot := (grows_build all).not_hangsBelow parent (mem_spansAll_build_iff.2 hParent) s hs
      simp [hangsBelow, hNamed] at hNot

/-- Spans whose parents all lead to a root stand in the forest, each as often as it is given. -/
theorem spansAll_build_perm_of_reachesRoot {all : List Span} (h : ∀ s ∈ all, ReachesRoot all s) :
    (spansAll (build all)).Perm all := by
  have hPerm := spansAll_build_append_lost_perm all
  have hLost : lost all = [] := by
    rw [List.eq_nil_iff_forall_not_mem]
    intro s hs
    exact not_reachesRoot_of_mem_lost hs (h s (hPerm.subset (List.mem_append_right _ hs)))
  rwa [hLost, List.append_nil] at hPerm

theorem nested_eq_false_iff {all : List Span} {s : Span} :
    nested all s = false ↔ s.parentId = none ∨ s.parentId = some s.id ∨
      ∃ parent, s.parentId = some parent ∧ ∀ t ∈ all, t.id ≠ parent := by
  cases hNamed : s.parentId with
  | none => simp [nested, hNamed]
  | some parent =>
      by_cases hSelf : parent = s.id <;> simp [nested, hNamed, hSelf]

section DistinctIds

variable {all : List Span}

theorem nodup_spansAll_build (hIds : (all.map (·.id)).Nodup) : (spansAll (build all)).Nodup := by
  have hAll : (spansAll (build all) ++ lost all).Nodup :=
    (spansAll_build_append_lost_perm all).nodup_iff.2 (hIds.of_map _)
  exact (List.nodup_append.1 hAll).1

/-- Right below a node stand exactly the nested spans that name it as their parent. -/
theorem mem_children_build_iff (hIds : (all.map (·.id)).Nodup) {n : SpanTree}
    (hn : n ∈ nodesAll (build all)) {u : Span} :
    u ∈ n.children.map span ↔ u ∈ all ∧ nested all u = true ∧ u.parentId = some n.span.id := by
  have hGrows := grows_build all
  constructor
  · intro hu
    have hPool := List.mem_filter.1 ((hGrows.children n hn).1.subset hu)
    exact ⟨hPool.1, hPool.2, (hGrows.children n hn).2 u hu⟩
  · rintro ⟨hu, hNested, hNamed⟩
    have hIn (m : SpanTree) (hm : m ∈ nodesAll (build all)) : m.span ∈ spansAll (build all) := by
      rw [spansAll_eq_map_nodesAll]
      exact List.mem_map_of_mem hm
    have hReaches : ReachesRoot all u :=
      .step hu hNamed (mem_spansAll_build_iff.1 (hIn n hn))
    rcases mem_spansAll_cases (mem_spansAll_build_iff.2 hReaches) with hTop | ⟨m, hm, hBelow⟩
    · rw [map_span_build] at hTop
      have := (List.mem_filter.1 hTop).2
      simp [hNested] at this
    · have hSame : m.span.id = n.span.id := by
        have := (hGrows.children m hm).2 u hBelow
        rw [hNamed] at this
        exact (Option.some.inj this).symm
      have hMem (k : SpanTree) (hk : k ∈ nodesAll (build all)) : k.span ∈ all :=
        (spansAll_build_append_lost_perm all).mem_iff.1 (List.mem_append_left _ (hIn k hk))
      have hSpan : m.span = n.span :=
        List.inj_on_of_nodup_map hIds (hMem m hm) (hMem n hn) hSame
      have hNodes : ((nodesAll (build all)).map span).Nodup := by
        rw [← spansAll_eq_map_nodesAll]
        exact nodup_spansAll_build hIds
      rw [← List.inj_on_of_nodup_map hNodes hm hn hSpan]
      exact hBelow

/-- The first span stands right below the second one. -/
def Under (forest : SpanForest) (child parent : Span) : Prop :=
  ∃ n ∈ nodesAll forest, n.span = parent ∧ child ∈ n.children.map span

theorem under_build_iff (hIds : (all.map (·.id)).Nodup) {child parent : Span} :
    Under (build all) child parent ↔
      parent ∈ spansAll (build all) ∧ child ∈ all ∧ nested all child = true ∧
        child.parentId = some parent.id := by
  constructor
  · rintro ⟨n, hn, rfl, hChild⟩
    rw [spansAll_eq_map_nodesAll]
    exact ⟨List.mem_map_of_mem hn, (mem_children_build_iff hIds hn).1 hChild⟩
  · rintro ⟨hParent, hChild⟩
    rw [spansAll_eq_map_nodesAll] at hParent
    obtain ⟨n, hn, rfl⟩ := List.mem_map.1 hParent
    exact ⟨n, hn, rfl, (mem_children_build_iff hIds hn).2 hChild⟩

end DistinctIds

/-- Every parent that is named stands earlier in the list. -/
def ParentsFirst (all : List Span) : Prop :=
  ∀ before s after, all = before ++ s :: after → ∀ parent, s.parentId = some parent →
    ∃ p ∈ before, p.id = parent

theorem ParentsFirst.reachesRoot {all : List Span} (h : ParentsFirst all) :
    ∀ s ∈ all, ReachesRoot all s := by
  suffices hPrefix : ∀ before after, all = before ++ after → ∀ s ∈ before, ReachesRoot all s from
    hPrefix all [] (List.append_nil all).symm
  intro before
  induction before using List.reverseRecOn with
  | nil => intro _ _ s hs; cases hs
  | append_singleton before last ih =>
      intro after hAll s hs
      have hSplit : all = before ++ last :: after := by simpa using hAll
      rcases List.mem_append.1 hs with hEarlier | hLast
      · exact ih (last :: after) hSplit s hEarlier
      · obtain rfl := List.mem_singleton.1 hLast
        have hMem : s ∈ all := by simp [hSplit]
        cases hNested : nested all s with
        | false => exact .root hMem hNested
        | true =>
            cases hNamed : s.parentId with
            | none => simp [nested, hNamed] at hNested
            | some parent =>
                obtain ⟨p, hp, rfl⟩ := h before s after hSplit parent hNamed
                exact .step hMem hNamed (ih (s :: after) hSplit p hp)

/-- Spans that follow their parents all stand in the forest, each as often as it is given. -/
theorem spansAll_build_perm {all : List Span} (h : ParentsFirst all) :
    (spansAll (build all)).Perm all :=
  spansAll_build_perm_of_reachesRoot h.reachesRoot

end SpanForest

end StoryTrace

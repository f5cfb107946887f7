import Mathlib.Data.Fintype.Card
import Mathlib.Data.Set.Finite.List
import Mathlib.Logic.Relation
import Mathlib.Order.WellFounded
import StoryTrace.Proofs.Forest

/-!
# Forests of acyclic spans

Parent links between distinct spans lead to a root unless they form a cycle. Spans with distinct
ids and acyclic links therefore all stand in their forest, once each, and right below a span stand
all the others that name it.
-/

namespace StoryTrace

namespace SpanForest

open SpanTree
open Relation (TransGen)

variable {all : List Span}

/-- The first span names the second one, another one of the given spans, as its parent. -/
structure Links (all : List Span) (child parent : Span) : Prop where
  child_mem : child ∈ all
  parent_mem : parent ∈ all
  named : child.parentId = some parent.id
  id_ne : parent.id ≠ child.id

/-- No span is reached from itself. A span that names itself is a root, so it makes no cycle. -/
def Acyclic (all : List Span) : Prop := ∀ s, ¬ TransGen (Links all) s s

theorem acyclic_of_rank (rank : Span → Nat)
    (h : ∀ child parent, Links all child parent → rank parent < rank child) : Acyclic all := by
  have hLess {child top : Span} (hPath : TransGen (Links all) child top) :
      rank top < rank child := by
    induction hPath with
    | single hLink => exact h _ _ hLink
    | tail _ hLink ih => exact Nat.lt_trans (h _ _ hLink) ih
  intro s hCycle
  exact Nat.lt_irrefl _ (hLess hCycle)

/-- A nested span has a link. -/
theorem exists_links {s : Span} (hs : s ∈ all) (hNested : nested all s = true) :
    ∃ parent, Links all s parent := by
  cases hNamed : s.parentId with
  | none => simp [nested, hNamed] at hNested
  | some id =>
      simp only [nested, hNamed, Bool.and_eq_true, List.any_eq_true, beq_iff_eq, bne_iff_ne]
        at hNested
      obtain ⟨⟨parent, hParent, rfl⟩, hOther⟩ := hNested
      exact ⟨parent, hs, hParent, hNamed, hOther⟩

namespace Acyclic

/-- Links that end can be followed by induction. -/
theorem wellFounded (h : Acyclic all) :
    WellFounded fun parent child : { s // s ∈ all } => TransGen (Links all) child parent := by
  have hFinite : Finite { s // s ∈ all } := (List.finite_toSet all).to_subtype
  have hTrans : IsTrans { s // s ∈ all } fun parent child => TransGen (Links all) child parent :=
    ⟨fun _ _ _ hUpper hLower => hLower.trans hUpper⟩
  have hIrrefl : Std.Irrefl fun parent child : { s // s ∈ all } =>
      TransGen (Links all) child.val parent.val := ⟨fun s => h s⟩
  exact Finite.wellFounded_of_trans_of_irrefl _

theorem reachesRoot (h : Acyclic all) : ∀ s ∈ all, ReachesRoot all s := by
  suffices hEach : ∀ s : { s // s ∈ all }, ReachesRoot all s from fun s hs => hEach ⟨s, hs⟩
  intro s
  induction s using h.wellFounded.induction with
  | _ s ih =>
      cases hNested : nested all s with
      | false => exact .root s.property hNested
      | true =>
          obtain ⟨parent, hLink⟩ := exists_links s.property hNested
          exact .step s.property hLink.named (ih ⟨parent, hLink.parent_mem⟩ (.single hLink))

end Acyclic

/-- Right below a node stand the nested spans that name it, in the order in which they are
given. -/
theorem map_span_children_build (hIds : (all.map (·.id)).Nodup) {n : SpanTree}
    (hn : n ∈ nodesAll (build all)) :
    n.children.map span =
      all.filter fun u => u.parentId = some n.span.id ∧ u.id ≠ n.span.id := by
  have hMember : n.span ∈ all := by
    refine (spansAll_build_append_lost_perm all).subset (List.mem_append_left _ ?_)
    rw [spansAll_eq_map_nodesAll]
    exact List.mem_map_of_mem hn
  have hOrder : (n.children.map span).Sublist all :=
    ((grows_build all).children n hn).1.trans List.filter_sublist
  have hNodup : all.Nodup := hIds.of_map _
  have hSame : (n.children.map span).Perm
      (all.filter fun u => u.parentId = some n.span.id ∧ u.id ≠ n.span.id) := by
    rw [List.perm_ext_iff_of_nodup (hNodup.sublist hOrder) (hNodup.filter _)]
    intro u
    rw [mem_children_build_iff hIds hn, List.mem_filter, decide_eq_true_iff]
    refine and_congr_right fun _ => ?_
    constructor
    · rintro ⟨hNested, hNamed⟩
      refine ⟨hNamed, ?_⟩
      rintro hId
      simp [nested, hNamed, hId] at hNested
    · rintro ⟨hNamed, hId⟩
      refine ⟨?_, hNamed⟩
      simp only [nested, hNamed, Bool.and_eq_true, List.any_eq_true, beq_iff_eq, bne_iff_ne]
      exact ⟨⟨n.span, hMember, rfl⟩, hId.symm⟩
  have hFiltered : ((n.children.map span).filter fun u =>
      u.parentId = some n.span.id ∧ u.id ≠ n.span.id) = n.children.map span :=
    List.filter_eq_self.2 fun u hu => (List.mem_filter.1 (hSame.subset hu)).2
  have hInner := hOrder.filter fun u => u.parentId = some n.span.id ∧ u.id ≠ n.span.id
  rw [hFiltered] at hInner
  exact hInner.eq_of_length hSame.length_eq

/-- Whatever spans are given, the forest and the spans that it leaves out are the given ones, and a
span stands in the forest exactly when its parents lead to a root: a span that names no parent,
none of the given spans, or itself. Roots and siblings keep the order of the given spans, and a
child names the span that it stands below. Spans with distinct ids and acyclic links are all in the
forest, which has as many nodes as spans are given, and right below a span stand all the others that
name it. -/
theorem build_holds_rooted_spans (all : List Span) :
    (∃ out, (spansAll (build all) ++ out).Perm all ∧ ∀ s ∈ out, ¬ ReachesRoot all s) ∧
    (∀ s, s ∈ spansAll (build all) ↔ ReachesRoot all s) ∧
    (∀ s, nested all s = false ↔ s.parentId = none ∨ s.parentId = some s.id ∨
      ∃ parent, s.parentId = some parent ∧ ∀ t ∈ all, t.id ≠ parent) ∧
    (build all).map span = (all.filter fun s => !nested all s) ∧
    (∀ n ∈ nodesAll (build all), (n.children.map span).Sublist all ∧
      ∀ u ∈ n.children.map span, u.parentId = some n.span.id) ∧
    ((all.map (·.id)).Nodup → Acyclic all →
      (spansAll (build all)).Perm all ∧
      (∀ n ∈ nodesAll (build all), n.children.map span =
        all.filter fun u => u.parentId = some n.span.id ∧ u.id ≠ n.span.id) ∧
      countAll (build all) = all.length) := by
  refine ⟨⟨lost all, spansAll_build_append_lost_perm all, fun s => not_reachesRoot_of_mem_lost⟩,
    fun s => mem_spansAll_build_iff, fun s => nested_eq_false_iff, map_span_build all, ?siblings,
    ?acyclic⟩
  case siblings =>
    intro n hn
    have hChildren := (grows_build all).children n hn
    exact ⟨hChildren.1.trans List.filter_sublist, hChildren.2⟩
  case acyclic =>
    intro hIds hAcyclic
    have hPerm := spansAll_build_perm_of_reachesRoot hAcyclic.reachesRoot
    refine ⟨hPerm, fun n => map_span_children_build hIds, ?_⟩
    rw [countAll_eq_length]
    exact hPerm.length_eq

/-- A child before its parent, a span that names itself, and one whose parent is not given. -/
def outOfOrder : List Span :=
  let child (id parent : String) := { Span.new id "t1" "step" ⟨0, 0⟩ with parentId := some parent }
  [child "a/b/c" "a/b", child "a/b" "a", child "a" "a", child "d/e" "d", child "a/f" "a"]

theorem build_holds_rooted_spans_outOfOrder :
    (spansAll (build outOfOrder)).Perm outOfOrder ∧ countAll (build outOfOrder) = 5 := by
  have hIds : (outOfOrder.map (·.id)).Nodup := by decide
  have hAcyclic : Acyclic outOfOrder := by
    apply acyclic_of_rank (·.id.length)
    have hShorter : ∀ child ∈ outOfOrder, ∀ parent ∈ child.parentId,
        parent ≠ child.id → parent.length < child.id.length := by decide
    intro child parent hLink
    exact hShorter child hLink.child_mem parent.id hLink.named hLink.id_ne
  have hShape := (build_holds_rooted_spans outOfOrder).2.2.2.2.2 hIds hAcyclic
  exact ⟨hShape.1, hShape.2.2⟩

end SpanForest

end StoryTrace

import StoryTrace.Store.Basic

/-!
# Span forests

Spans are nested below the spans that they name as parents. A span without a parent among the given
spans is a root, and so is one that names itself. The children of a span are taken out of the pool
of spans that are not nested yet, so no span is nested twice and the nesting ends.
-/

namespace StoryTrace

inductive SpanTree where
  | node (span : Span) (children : List SpanTree)

/-- The trees of spans, in order. -/
abbrev SpanForest := List SpanTree

namespace SpanTree

def span : SpanTree → Span
  | .node s _ => s

def children : SpanTree → List SpanTree
  | .node _ cs => cs

mutual

/-- The number of spans in a tree. -/
def count : SpanTree → Nat
  | .node _ cs => 1 + countAll cs

def countAll : List SpanTree → Nat
  | [] => 0
  | t :: rest => t.count + countAll rest

end

mutual

/-- The spans of a tree, each before its children. -/
def spans : SpanTree → List Span
  | .node s cs => s :: spansAll cs

def spansAll : List SpanTree → List Span
  | [] => []
  | t :: rest => t.spans ++ spansAll rest

end

end SpanTree

namespace SpanForest

/-- Whether a span hangs below another one of the given spans. -/
def nested (all : List Span) (s : Span) : Bool :=
  match s.parentId with
  | some parent => all.any (·.id == parent) && parent != s.id
  | none => false

/-- Whether a span names the given id as its parent. -/
def hangsBelow (id : String) (s : Span) : Bool := s.parentId == some id

theorem length_filter_hangsBelow_add (id : String) (pool : List Span) :
    (pool.filter (hangsBelow id)).length + (pool.filter fun t => !hangsBelow id t).length =
      pool.length := by
  induction pool with
  | nil => rfl
  | cons s rest ih => cases h : hangsBelow id s <;> simp [h] <;> omega

/-- The trees of the given spans with the spans of a pool below them, and what stays in the pool. -/
def grow (tops pool : List Span) : { r : SpanForest × List Span // r.2.length ≤ pool.length } :=
  match tops with
  | [] => ⟨([], pool), Nat.le_refl _⟩
  | s :: rest =>
    match grow (pool.filter (hangsBelow s.id)) (pool.filter fun t => !hangsBelow s.id t) with
    | ⟨(below, pool'), hBelow⟩ =>
      match grow rest pool' with
      | ⟨(beside, pool''), hBeside⟩ =>
        ⟨(.node s below :: beside, pool''),
          Nat.le_trans hBeside (Nat.le_trans hBelow (List.length_filter_le _ _))⟩
termination_by tops.length + pool.length
decreasing_by
  · have := length_filter_hangsBelow_add s.id pool
    simp only [List.length_cons]; omega
  · have := List.length_filter_le (fun t => !hangsBelow s.id t) pool
    simp only [List.length_cons]; simp only at hBelow; omega

/-- The forest of the given spans. -/
def build (spans : List Span) : SpanForest :=
  (grow (spans.filter fun s => !nested spans s) (spans.filter (nested spans))).val.1

end SpanForest

/-- The forest of one trace. -/
def Store.forest (s : Store) (traceId : String) : SpanForest := .build (s.spansOf traceId)

end StoryTrace

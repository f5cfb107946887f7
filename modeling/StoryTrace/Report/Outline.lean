import StoryTrace.Forest

/-!
# Outlines

A title with details and nested outlines below it, drawn with connectors. Every title and detail is
a line, and what stands before it tells how deep it is nested and whether something follows beside
it.
-/

namespace StoryTrace

inductive Outline where
  | node (title : String) (details : List String) (children : List Outline)

instance : Inhabited Outline := ⟨.node "" [] []⟩

namespace Outline

/-- The connectors before a part that others follow: before its first line and before the rest. -/
def followed : List Char × List Char := (['├', '─', ' '], ['│', ' ', ' '])

/-- The connectors before a last part. -/
def last : List Char × List Char := (['└', '─', ' '], [' ', ' ', ' '])

/-- The lines of a part behind its connectors. -/
def hang (connectors : List Char × List Char) : List (List Char) → List (List Char)
  | [] => []
  | l :: rest => (connectors.1 ++ l) :: rest.map (connectors.2 ++ ·)

/-- The lines of parts that hang side by side. -/
def attach : List (List (List Char)) → List (List Char)
  | [] => []
  | [part] => hang last part
  | part :: next :: rest => hang followed part ++ attach (next :: rest)

mutual

/-- The lines of an outline. -/
def lines : Outline → List (List Char)
  | .node title details children =>
    title.toList :: attach (details.map (fun d => [d.toList]) ++ parts children)

/-- The lines of each of the outlines. -/
def parts : List Outline → List (List (List Char))
  | [] => []
  | o :: rest => o.lines :: parts rest

end

def render (o : Outline) : String := String.ofList (List.intercalate ['\n'] o.lines)

/-- What an outline tells of a span: how long it took or that it is open, its error and the number
of its tokens. -/
def spanDetails (s : Span) : List String :=
  (if s.isOpen then ["open"] else (s.duration?.map fun ms => toString ms ++ "ms").toList) ++
    (s.status.message?.map ("error: " ++ ·)).toList ++
    ((s.usage.bind (·.total)).map fun n => "tokens: " ++ toString n).toList

mutual

/-- The outline of a tree of spans. -/
def ofTree : SpanTree → Outline
  | .node s children => .node s.name (spanDetails s) (ofTrees children)

def ofTrees : List SpanTree → List Outline
  | [] => []
  | t :: rest => ofTree t :: ofTrees rest

end

/-- The outlines of trees, one under the other. -/
def renderForest (f : SpanForest) : String :=
  String.intercalate "\n" ((ofTrees f).map render)

end Outline

end StoryTrace

import StoryTrace.Json.Layout
import StoryTrace.Text.Blank

/-!
# Correlation headers

The ids of a story travel to other systems as headers. Writing a context into headers and reading
it back loses nothing; a field that is absent leaves the header as it was.
-/

namespace StoryTrace

abbrev Headers := Table String

/-- The ids that a request carries. -/
structure CorrelationContext where
  traceId : Option String
  storyId : Option String
  sessionId : Option String
  parentSpanId : Option String
  deriving DecidableEq, Repr

namespace Headers

def traceHeader : String := "X-Narrative-Trace-Id"

def storyHeader : String := "X-Story-Id"

def sessionHeader : String := "X-Session-Id"

def parentSpanHeader : String := "X-Parent-Span-Id"

/-- Sets a header to a value that is present. -/
def give (h : Headers) (name : String) (value : Option String) : Headers :=
  match value with
  | some v => h.put name v
  | none => h

/-- The header as a line. -/
def line (name value : String) : String := name ++ ": " ++ value

/-- The lines of headers, in the order of their names. -/
def lines (h : Headers) : List String := h.map fun e => line e.1 e.2

/-- What stands before and after the first colon of a line, without the white space around it. -/
def ofLine? (l : List Char) : Option (String × String) :=
  match l.dropWhile (· != ':') with
  | [] => none
  | _ :: value =>
    some (Text.trim (String.ofList (l.takeWhile (· != ':'))), Text.trim (String.ofList value))

/-- The headers that a text gives, one a line. Lines without a colon are passed over, and the last
line with a name counts. -/
def ofText (s : String) : Headers := Table.ofList ((Text.linesOf s.toList).filterMap ofLine?)

/-- The headers that an object of texts gives. -/
def ofJson? (v : Json) : Option Headers :=
  v.object?.bind fun members =>
    (members.mapM fun (e : String × Json) => e.2.string?.map fun x => (e.1, x)).map Table.ofList

def toJson (h : Headers) : Json := .object (h.map fun e => (e.1, .string e.2))

end Headers

namespace CorrelationContext

def ofHeaders (h : Headers) : CorrelationContext :=
  ⟨h.get? Headers.traceHeader, h.get? Headers.storyHeader, h.get? Headers.sessionHeader,
    h.get? Headers.parentSpanHeader⟩

/-- Writes the present fields into headers. -/
def writeTo (c : CorrelationContext) (h : Headers) : Headers :=
  (((h.give Headers.traceHeader c.traceId).give Headers.storyHeader c.storyId).give
    Headers.sessionHeader c.sessionId).give Headers.parentSpanHeader c.parentSpanId

def toHeaders (c : CorrelationContext) : Headers := c.writeTo []

def isEmpty (c : CorrelationContext) : Bool :=
  c.traceId.isNone && c.storyId.isNone && c.sessionId.isNone && c.parentSpanId.isNone

def toJson (c : CorrelationContext) : Json :=
  .object [("trace_id", .ofOption .string c.traceId), ("story_id", .ofOption .string c.storyId),
    ("session_id", .ofOption .string c.sessionId),
    ("parent_span_id", .ofOption .string c.parentSpanId)]

def ofJson? (v : Json) : Option CorrelationContext := do
  let l ← Json.Layout.of? 4 4 v
  let traceId ← l.optional 0 "trace_id" Json.string?
  let storyId ← l.optional 1 "story_id" Json.string?
  let sessionId ← l.optional 2 "session_id" Json.string?
  let parentSpanId ← l.optional 3 "parent_span_id" Json.string?
  return { traceId, storyId, sessionId, parentSpanId }

end CorrelationContext

@[simp] theorem Headers.get?_give (h : Headers) (name other : String) (value : Option String) :
    (h.give name value).get? other =
      if name = other then value.orElse fun _ => h.get? other else h.get? other := by
  cases value with
  | none => simp [give]
  | some v => by_cases e : name = other <;> simp [give, e]

end StoryTrace

import StoryTrace.Proofs.Story.Requests

/-!
# Dealings with an orchestrator

The calls of a host program with the responses to them, and what they tell: the stories that were
begun, the spans that were opened for them, and what became of a story afterwards.
-/

namespace StoryTrace.Orchestrator

/-- The calls that open a span. -/
inductive SpanCall where
  | beat (b : BeatCreation)
  | analysis (analysisType : String) (beatId parentId : Option String) (input : Option Json)
  | flow (flowId backend : String) (intent parentId : Option String) (input : Option Json)
  | enrichment (beatId enrichmentType : String) (flows : List String) (parentId : Option String)

namespace SpanCall

def plan : SpanCall → SpanPlan
  | .beat b => .beat b
  | .analysis analysisType beatId parentId input => .analysis analysisType beatId parentId input
  | .flow flowId backend intent parentId input => .flow flowId backend intent parentId input
  | .enrichment beatId enrichmentType flows parentId =>
    .enrichment beatId enrichmentType flows parentId

def isBeat : SpanCall → Bool
  | .beat _ => true
  | _ => false

theorem kind_plan_beq_beatCreated (c : SpanCall) : (c.plan.kind == .beatCreated) = c.isBeat := by
  cases c <;> rfl

end SpanCall

/-- What a host program can call. Spans are opened by the four calls for it only. -/
inductive Call where
  | createRoot (storyId : String) (sessionId traceId : Option String) (metadata : Metadata)
  | openSpan (traceId : String) (span : SpanCall)
  | setOutput (spanId : String) (output : Json)
  | setError (spanId message : String)
  | link (traceId externalId system : String)
  | finalize (traceId : String) (content : Option String) (metrics : Option StoryMetrics)

namespace Call

def request : Call → Request
  | .createRoot storyId sessionId traceId metadata =>
    .createRoot storyId sessionId traceId metadata
  | .openSpan traceId span => .openSpan traceId span.plan
  | .setOutput spanId output => .setOutput spanId output
  | .setError spanId message => .setError spanId message
  | .link traceId externalId system => .link traceId externalId system
  | .finalize traceId content metrics => .finalize traceId content metrics

theorem eq_createRoot_of_request {c : Call} {storyId : String} {sessionId traceId : Option String}
    {metadata : Metadata} (h : c.request = .createRoot storyId sessionId traceId metadata) :
    c = .createRoot storyId sessionId traceId metadata := by
  cases c <;> cases h
  rfl

theorem exists_of_request_openSpan {c : Call} {traceId : String} {plan : SpanPlan}
    (h : c.request = .openSpan traceId plan) :
    ∃ span : SpanCall, c = .openSpan traceId span ∧ span.plan = plan := by
  cases c <;> cases h
  exact ⟨_, rfl, rfl⟩

theorem eq_finalize_of_request {c : Call} {traceId : String} {content : Option String}
    {metrics : Option StoryMetrics} (h : c.request = .finalize traceId content metrics) :
    c = .finalize traceId content metrics := by
  cases c <;> cases h
  rfl

end Call

/-- A call and the response to it. -/
structure Dealing where
  call : Call
  response : Response

/-- A span that was opened. -/
structure Opened where
  traceId : String
  id : String
  call : SpanCall

/-- What becomes of a story: it is finalized, or a new one takes its place. -/
inductive Fate where
  | finalized
  | replaced
  deriving DecidableEq

namespace Dealing

/-- The story that was begun, if one was. -/
def begun? (d : Dealing) : Option ActiveStory :=
  match d.response with
  | .root (.ok story) => some story
  | _ => none

/-- The span that was opened, if one was. -/
def opened? (d : Dealing) : Option Opened :=
  match d.response, d.call with
  | .span (.ok id), .openSpan traceId call => some ⟨traceId, id, call⟩
  | _, _ => none

/-- The trace whose story was finalized, if one was. -/
def finalized? (d : Dealing) : Option String :=
  match d.response, d.call with
  | .completed (.ok _), .finalize traceId _ _ => some traceId
  | _, _ => none

/-- What becomes of the story of the trace that was being made. -/
def ends? (traceId : String) (d : Dealing) : Option Fate :=
  if d.begun?.map (·.traceId) = some traceId then some .replaced
  else if d.finalized? = some traceId then some .finalized
  else none

variable {d : Dealing} {traceId : String}

theorem ends?_eq_none_iff :
    d.ends? traceId = none ↔
      (∀ story, d.begun? = some story → story.traceId ≠ traceId) ∧
        d.finalized? ≠ some traceId := by
  unfold ends?
  cases d.begun? with
  | none => simp
  | some story => by_cases h : story.traceId = traceId <;> simp [h]

theorem ends?_of_quiet (hBegun : d.begun? = none) (hFinalized : d.finalized? = none) :
    d.ends? traceId = none := by
  simp [ends?_eq_none_iff, hBegun, hFinalized]

theorem ends?_of_begun {story : ActiveStory} (hBegun : d.begun? = some story)
    (h : d.finalized? = none) :
    d.ends? traceId = if story.traceId = traceId then some .replaced else none := by
  simp [ends?, hBegun, h]

theorem ends?_of_finalized {other : String} (hFinalized : d.finalized? = some other)
    (h : d.begun? = none) :
    d.ends? traceId = if other = traceId then some .finalized else none := by
  simp [ends?, hFinalized, h]

end Dealing

/-- A span that was opened, with what became of its story afterwards. -/
structure Opening extends Opened where
  fate : Option Fate

namespace Opening

/-- The opening after one more dealing. The first fate of a story counts. -/
def after (d : Dealing) (e : Opening) : Opening := { e with fate := e.fate.or (d.ends? e.traceId) }

theorem after_of_ends?_eq_none {d : Dealing} {e : Opening} (h : d.ends? e.traceId = none) :
    e.after d = e := by
  simp [after, h]

/-- A story that takes the place of another one finalizes none. -/
theorem fate_after_of_begun {d : Dealing} {story : ActiveStory} (hBegun : d.begun? = some story)
    (h : d.finalized? = none) (e : Opening) :
    (e.after d).fate = some .finalized ↔ e.fate = some .finalized := by
  rw [after, Dealing.ends?_of_begun hBegun h]
  cases e.fate with
  | some fate => rfl
  | none => split <;> simp

theorem fate_after_of_finalized {d : Dealing} {traceId : String}
    (hFinalized : d.finalized? = some traceId) (h : d.begun? = none) (e : Opening) :
    (e.after d).fate = some .finalized ↔
      e.fate = some .finalized ∨ e.fate = none ∧ e.traceId = traceId := by
  rw [after, Dealing.ends?_of_finalized hFinalized h]
  cases e.fate with
  | some fate => simp
  | none => simp [eq_comm]

end Opening

/-- The spans that were opened, in the order of their creation. -/
def openings : List Dealing → List Opening
  | [] => []
  | d :: rest =>
    (d.opened?.map fun x => ⟨x, rest.findSome? (·.ends? x.traceId)⟩).toList ++ openings rest

/-- The spans that were opened for the trace. -/
def openedFor (traceId : String) (dealings : List Dealing) : List Opened :=
  (dealings.filterMap Dealing.opened?).filter (·.traceId = traceId)

section

variable {dealings before rest : List Dealing} {d : Dealing} {x : Opened} {traceId : String}

theorem openings_append_singleton (dealings : List Dealing) (d : Dealing) :
    openings (dealings ++ [d]) =
      (openings dealings).map (Opening.after d) ++ (d.opened?.map fun x => ⟨x, none⟩).toList := by
  induction dealings with
  | nil => simp [openings]
  | cons first rest ih =>
      rw [List.cons_append, openings, openings, ih, List.map_append, List.append_assoc]
      congr 1
      cases first.opened? with
      | none => rfl
      | some x => simp [Opening.after]

theorem openings_append_singleton_of_opened (hOpened : d.opened? = some x)
    (hEnds : ∀ t, d.ends? t = none) (dealings : List Dealing) :
    openings (dealings ++ [d]) = openings dealings ++ [⟨x, none⟩] := by
  have hSame : (openings dealings).map (Opening.after d) = openings dealings :=
    List.map_id'' (fun e => Opening.after_of_ends?_eq_none (hEnds _)) _
  rw [openings_append_singleton, hSame, hOpened]
  rfl

theorem map_toOpened_openings (dealings : List Dealing) :
    (openings dealings).map (·.toOpened) = dealings.filterMap Dealing.opened? := by
  induction dealings with
  | nil => rfl
  | cons d rest ih =>
      rw [openings, List.map_append, ih]
      cases hOpened : d.opened? with
      | none => simp [hOpened]
      | some x => simp [hOpened]

/-- The fate of a span is what the dealings after its opening tell first. -/
theorem mem_openings_of_split (hOpened : d.opened? = some x) :
    ⟨x, rest.findSome? (·.ends? x.traceId)⟩ ∈ openings (before ++ d :: rest) := by
  induction before with
  | nil => simp [openings, hOpened]
  | cons first before ih => exact List.mem_append_right _ ih

/-- Once its story has come to an end an opening does not change any more. -/
theorem mem_openings_append {e : Opening} (he : e ∈ openings dealings) (hFate : e.fate ≠ none)
    (later : List Dealing) : e ∈ openings (dealings ++ later) := by
  induction dealings with
  | nil => cases he
  | cons d rest ih =>
      rcases List.mem_append.1 he with hHere | hRest
      · obtain ⟨x, hOpened, rfl⟩ := Option.map_eq_some_iff.1 (Option.mem_toList.1 hHere)
        have hSame : (rest ++ later).findSome? (·.ends? x.traceId) =
            rest.findSome? (·.ends? x.traceId) := by
          rw [List.findSome?_append]
          exact Option.or_of_isSome (Option.isSome_iff_ne_none.2 hFate)
        have hMem : ⟨x, (rest ++ later).findSome? (·.ends? x.traceId)⟩ ∈
            openings ([] ++ d :: (rest ++ later)) := mem_openings_of_split hOpened
        rwa [hSame] at hMem
      · exact List.mem_append_right _ (ih hRest)

theorem mem_openedFor_iff :
    x ∈ openedFor traceId dealings ↔
      (∃ d ∈ dealings, d.opened? = some x) ∧ x.traceId = traceId := by
  simp [openedFor]

@[simp] theorem openedFor_nil (traceId : String) : openedFor traceId [] = [] := rfl

theorem openedFor_append_singleton_of_opened (hOpened : d.opened? = some x)
    (dealings : List Dealing) :
    openedFor x.traceId (dealings ++ [d]) = openedFor x.traceId dealings ++ [x] := by
  simp [openedFor, hOpened]

theorem openedFor_append_singleton_of_forall_ne
    (h : ∀ x, d.opened? = some x → x.traceId ≠ traceId) (dealings : List Dealing) :
    openedFor traceId (dealings ++ [d]) = openedFor traceId dealings := by
  unfold openedFor
  cases hOpened : d.opened? with
  | none => simp [hOpened]
  | some x => simp [hOpened, h x hOpened]

end

variable {σ : Type}

/-- Calls in the given order, with what they were answered. -/
def dealAll [Sink σ] (o : Orchestrator) (calls : List Call) :
    Work StoryBoard (Watched σ) (List Dealing) :=
  calls.mapM fun c => do return ⟨c, ← o.respond c.request⟩

theorem dealAll_nil [Sink σ] (o : Orchestrator) (s : Session StoryBoard (Watched σ)) :
    o.dealAll [] s = ([], s) := rfl

theorem dealAll_cons [Sink σ] (o : Orchestrator) (c : Call) (rest : List Call)
    (s : Session StoryBoard (Watched σ)) :
    o.dealAll (c :: rest) s =
      (⟨c, (o.respond c.request s).1⟩ :: (o.dealAll rest (o.respond c.request s).2).1,
        (o.dealAll rest (o.respond c.request s).2).2) := by
  simp only [dealAll, List.mapM_cons, Work.run_bind, Work.run_pure]

/-- What every call keeps holds after any calls, whatever was dealt before. -/
theorem dealAll_induction_respond [Sink σ] {o : Orchestrator}
    {motive : List Dealing → Session StoryBoard (Watched σ) → Prop}
    (hStep : ∀ {dealings s} (c : Call), motive dealings s →
      motive (dealings ++ [⟨c, (o.respond c.request s).1⟩]) (o.respond c.request s).2)
    {dealings : List Dealing} {s : Session StoryBoard (Watched σ)} (h : motive dealings s)
    (calls : List Call) :
    motive (dealings ++ (o.dealAll calls s).1) (o.dealAll calls s).2 := by
  induction calls generalizing dealings s with
  | nil => simpa [dealAll_nil] using h
  | cons c rest ih =>
      rw [dealAll_cons]
      simpa using ih (hStep c h)

/-- The same for what is kept whatever a request can do. -/
theorem dealAll_induction [Sink σ] {o : Orchestrator}
    {motive : List Dealing → Session StoryBoard (Watched σ) → Prop}
    (hStep : ∀ {dealings s c response s'}, motive dealings s →
      Served o s (Call.request c) response s' → motive (dealings ++ [⟨c, response⟩]) s')
    {dealings : List Dealing} {s : Session StoryBoard (Watched σ)} (h : motive dealings s)
    (calls : List Call) :
    motive (dealings ++ (o.dealAll calls s).1) (o.dealAll calls s).2 :=
  dealAll_induction_respond (fun c h => hStep h (served_respond o c.request _)) h calls

end StoryTrace.Orchestrator

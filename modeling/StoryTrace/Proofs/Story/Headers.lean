import StoryTrace.Command.Perform
import StoryTrace.Proofs.Story.Failing
import StoryTrace.Proofs.Table
import StoryTrace.Proofs.Text.Lines

/-!
# Headers read back

What a context writes into headers is read from them, also after the headers were printed as lines
and the lines were read. What was in the headers before stays where the context has nothing to say.
-/

namespace StoryTrace

open Text (OnLine)

/-! ## Fields under their headers -/

theorem Headers.get?_foldl_give {fields : List (String × Option String)}
    (hNames : (fields.map (·.1)).Nodup) (h : Headers) (name : String) :
    (fields.foldl (fun h f => h.give f.1 f.2) h).get? name =
      (fields.lookup name).join.or (h.get? name) := by
  induction fields generalizing h with
  | nil => rfl
  | cons f rest ih =>
      obtain ⟨first, value⟩ := f
      obtain ⟨hNew, hRest⟩ := List.nodup_cons.1 hNames
      rw [List.foldl_cons, ih hRest, Headers.get?_give, Option.orElse_eq_or]
      by_cases hHere : first = name
      · subst hHere
        have hLater : rest.lookup first = none := by
          apply List.lookup_eq_none_iff.2
          intro other hOther
          apply bne_iff_ne.2
          exact fun hSame => hNew (List.mem_map.2 ⟨other, hOther, hSame.symm⟩)
        rw [hLater, List.lookup_cons_self, if_pos rfl]
        rfl
      · have hOther : (name == first) = false := beq_false_of_ne (Ne.symm hHere)
        rw [if_neg hHere, List.lookup_cons, hOther]

namespace CorrelationContext

/-- The headers of a context with the values that it gives them. -/
def fields (c : CorrelationContext) : List (String × Option String) :=
  [(Headers.traceHeader, c.traceId), (Headers.storyHeader, c.storyId),
    (Headers.sessionHeader, c.sessionId), (Headers.parentSpanHeader, c.parentSpanId)]

/-- The value that a context gives a header. -/
def header? (c : CorrelationContext) (name : String) : Option String :=
  (c.fields.lookup name).join

/-- The values that are present. -/
def values (c : CorrelationContext) : List String := c.fields.filterMap (·.2)

/-- The first context with what it leaves open taken from the second. -/
def completedBy (c d : CorrelationContext) : CorrelationContext :=
  ⟨c.traceId.or d.traceId, c.storyId.or d.storyId, c.sessionId.or d.sessionId,
    c.parentSpanId.or d.parentSpanId⟩

variable {c : CorrelationContext}

theorem nodup_map_fields (c : CorrelationContext) : (c.fields.map (·.1)).Nodup := by
  change [Headers.traceHeader, Headers.storyHeader, Headers.sessionHeader,
    Headers.parentSpanHeader].Nodup
  decide

theorem get?_writeTo (c : CorrelationContext) (h : Headers) (name : String) :
    (c.writeTo h).get? name = (c.header? name).or (h.get? name) :=
  Headers.get?_foldl_give c.nodup_map_fields h name

theorem ofHeaders_writeTo (c : CorrelationContext) (h : Headers) :
    ofHeaders (c.writeTo h) = c.completedBy (ofHeaders h) := by
  simp only [ofHeaders, get?_writeTo, completedBy]
  rfl

theorem ofHeaders_toHeaders (c : CorrelationContext) : ofHeaders c.toHeaders = c := by
  have hNothing : ofHeaders [] = ⟨none, none, none, none⟩ := rfl
  rw [toHeaders, ofHeaders_writeTo, hNothing, completedBy]
  simp only [Option.or_none]

theorem sorted_toHeaders (c : CorrelationContext) : c.toHeaders.Sorted := by
  have hGive {h : Headers} (hSorted : h.Sorted) (name : String) (value : Option String) :
      (h.give name value).Sorted := by
    cases value with
    | none => exact hSorted
    | some v => exact hSorted.put name v
  exact hGive (hGive (hGive (hGive List.Pairwise.nil _ _) _ _) _ _) _ _

theorem mem_fields_of_mem_toHeaders {e : String × String} (he : e ∈ c.toHeaders) :
    (e.1, some e.2) ∈ c.fields := by
  have hFound : c.header? e.1 = some e.2 := by
    have hGiven := c.sorted_toHeaders.get?_eq_some_iff.2 he
    rw [toHeaders, get?_writeTo, Table.get?_nil, Option.or_none] at hGiven
    exact hGiven
  obtain ⟨before, after, hFields, -⟩ := List.lookup_eq_some_iff.1 (Option.join_eq_some_iff.1 hFound)
  rw [hFields]
  exact List.mem_append_right before (List.mem_cons_self ..)

end CorrelationContext

/-! ## Headers as lines -/

namespace Headers

/-- The headers can be told from their lines. -/
structure Printable (h : Headers) : Prop where
  sorted : h.Sorted
  names : ∀ e ∈ h, OnLine e.1 ∧ ':' ∉ e.1.toList
  values : ∀ e ∈ h, OnLine e.2

/-- The lines of headers as a text. -/
def text (h : Headers) : String := String.join (h.lines.map Command.line)

variable {name value : String}

theorem toList_line (name value : String) :
    (line name value).toList = name.toList ++ ':' :: ' ' :: value.toList := by
  simp [line]

/-- The name ends at the first colon, so the value may hold more of them. -/
theorem ofLine?_line (hName : OnLine name) (hColon : ':' ∉ name.toList) (hValue : OnLine value) :
    ofLine? (line name value).toList = some (name, value) := by
  have hBefore : ∀ c ∈ name.toList, (c != ':') = true := by
    intro c hc
    apply bne_iff_ne.2
    exact fun h => hColon (h ▸ hc)
  rw [toList_line, ofLine?, List.dropWhile_append_of_pos hBefore,
    List.dropWhile_cons_of_neg (by simp), List.takeWhile_append_of_pos hBefore,
    List.takeWhile_cons_of_neg (by simp), List.append_nil, String.ofList_toList]
  simp only [hName.trim_eq, hValue.trim_space_eq]

theorem linesOf_line (hName : OnLine name) (hValue : OnLine value) (rest : List Char) :
    Text.linesOf ((line name value).toList ++ '\n' :: rest) =
      (line name value).toList :: Text.linesOf rest := by
  apply Text.linesOf_append_newline
  · rw [toList_line]
    simp [hName.newline, hValue.newline]
  · rw [toList_line]
    have hLast := hValue.getLast?_ne_return
    cases hChars : value.toList with
    | nil => simp
    | cons c rest =>
        rw [hChars] at hLast
        simpa using hLast

theorem toList_text_cons (e : String × String) (rest : Headers) :
    (text (e :: rest)).toList = (line e.1 e.2).toList ++ '\n' :: rest.text.toList := by
  simp [text, lines, Command.line, String.toList_join]

/-- Headers are the same again once they were printed as lines and the lines were read. -/
theorem Printable.ofText_text {h : Headers} (hPrintable : h.Printable) : ofText h.text = h := by
  have hRead : (Text.linesOf h.text.toList).filterMap ofLine? = h := by
    obtain ⟨-, hNames, hValues⟩ := hPrintable
    induction h with
    | nil => rfl
    | cons e rest ih =>
        obtain ⟨⟨hName, hColon⟩, hNames⟩ := List.forall_mem_cons.1 hNames
        obtain ⟨hValue, hValues⟩ := List.forall_mem_cons.1 hValues
        rw [toList_text_cons, linesOf_line hName hValue,
          List.filterMap_cons_some (ofLine?_line hName hColon hValue), ih hNames hValues]
  rw [ofText, hRead, Table.ofList_of_sorted hPrintable.sorted]

end Headers

namespace CorrelationContext

variable {c : CorrelationContext}

theorem printable_toHeaders (h : ∀ v ∈ c.values, OnLine v) : c.toHeaders.Printable := by
  have hNames : ∀ f ∈ c.fields, OnLine f.1 ∧ ':' ∉ f.1.toList := by
    have hAll : ∀ name ∈ c.fields.map (·.1), OnLine name ∧ ':' ∉ name.toList := by
      change ∀ name ∈ [Headers.traceHeader, Headers.storyHeader, Headers.sessionHeader,
        Headers.parentSpanHeader], OnLine name ∧ ':' ∉ name.toList
      decide
    exact List.forall_mem_map.1 hAll
  refine ⟨c.sorted_toHeaders, fun e he => ?names, fun e he => ?values⟩
  case names => exact hNames _ (mem_fields_of_mem_toHeaders he)
  case values =>
    apply h
    exact List.mem_filterMap.2 ⟨_, mem_fields_of_mem_toHeaders he, rfl⟩

/-- A context whose values stay whole on their lines is read from the lines of its headers. -/
theorem ofHeaders_ofText (h : ∀ v ∈ c.values, OnLine v) :
    ofHeaders (.ofText c.toHeaders.text) = c := by
  rw [(printable_toHeaders h).ofText_text, ofHeaders_toHeaders]

end CorrelationContext

/-! ## Headers between programs -/

/-- The ids that a program prints headers for. -/
def Command.Context.ids (p : Command.Context) (traceId parentSpanId : Option String) :
    CorrelationContext :=
  ⟨traceId.or p.tracing.traceId, p.tracing.storyId, p.tracing.sessionId, parentSpanId⟩

theorem Command.performHeaders_eq_ok (p : Command.Context) (traceId parentSpanId : Option String)
    (h : (p.ids traceId parentSpanId).traceId.isSome = true) :
    performHeaders p traceId parentSpanId false =
      .ok ((p.ids traceId parentSpanId).toHeaders.text, p.around.files) := by
  have hPresent : (traceId.or p.tracing.traceId).isNone = false := Option.isNone_eq_false_iff.2 h
  simp only [performHeaders, Option.orElse_eq_or, hPresent]
  rfl

theorem Orchestrator.inject_eq_some_iff {b : StoryBoard} (hNamed : b.Named) {h sent : Headers}
    {requested parentId : Option String} :
    inject b h requested parentId = some sent ↔
      ∃ traceId story, requested = some traceId ∧ b.active.get? traceId = some story ∧
        sent = CorrelationContext.writeTo
          ⟨some traceId, some story.storyId, some story.sessionId, parentId⟩ h := by
  rw [inject, Option.map_eq_some_iff]
  constructor
  · rintro ⟨story, hStory, rfl⟩
    obtain ⟨traceId, hRequested, hActive⟩ := Option.bind_eq_some_iff.1 hStory
    refine ⟨traceId, story, hRequested, hActive, ?_⟩
    rw [hNamed traceId story hActive]
  · rintro ⟨traceId, story, rfl, hActive, rfl⟩
    refine ⟨story, hActive, ?_⟩
    rw [hNamed traceId story hActive]

open CorrelationContext Orchestrator in
/-- What a context writes into headers is read from them, and every header that it has no value for
is as it was. Printed as lines and read again, by themselves or from one program to another, the
headers tell the same context if its values stay whole on their lines. Headers are written for a
story exactly if its trace is active, with the ids of that story. -/
theorem ids_survive_headers {σ : Type} [Sink σ] (c : CorrelationContext) (h : Headers)
    (o : Orchestrator) (calls : List Call) (sink : σ) (supply : Supply) :
    (ofHeaders (c.writeTo h) = c.completedBy (ofHeaders h) ∧
        ∀ name, (c.writeTo h).get? name = (c.header? name).or (h.get? name)) ∧
      ofHeaders c.toHeaders = c ∧
      ((∀ v ∈ c.values, OnLine v) →
        ofHeaders (.ofText c.toHeaders.text) = c ∧
        ∀ (sender receiver : Command.Context) (traceId parentSpanId : Option String),
          sender.ids traceId parentSpanId = c → c.traceId.isSome = true →
          receiver.around.input = c.toHeaders.text →
          Command.performHeaders sender traceId parentSpanId false =
              .ok (c.toHeaders.text, sender.around.files) ∧
            Command.performHeaders receiver none none true =
              .ok (c.toJson.pretty ++ "\n", receiver.around.files)) ∧
      ∀ (requested parentId : Option String) (sent : Headers),
        inject (o.dealAll calls (session sink supply)).2.state h requested parentId = some sent ↔
          ∃ traceId story, requested = some traceId ∧
            (o.dealAll calls (session sink supply)).2.state.active.get? traceId = some story ∧
            sent =
              writeTo ⟨some traceId, some story.storyId, some story.sessionId, parentId⟩ h := by
  refine ⟨⟨ofHeaders_writeTo c h, get?_writeTo c h⟩, ofHeaders_toHeaders c, fun hLines => ?printed,
    fun requested parentId sent => ?injected⟩
  case printed =>
    have hRead := ofHeaders_ofText hLines
    refine ⟨hRead, fun sender receiver traceId parentSpanId hIds hTrace hInput => ⟨?_, ?_⟩⟩
    · subst hIds
      exact Command.performHeaders_eq_ok sender traceId parentSpanId hTrace
    · rw [Command.performHeaders, if_pos rfl, hInput, hRead, Command.printed, Command.line]
  case injected =>
    apply inject_eq_some_iff
    exact named_of_dealAll (Prod.eta (o.dealAll calls (session sink supply))).symm

/-- Ids with a colon and a blank inside, one of them empty and one absent. -/
def oddIds : CorrelationContext := ⟨some "t:1", some "", none, some "span a"⟩

/-- The lines of these ids. -/
def oddLines : String := "X-Narrative-Trace-Id: t:1\nX-Parent-Span-Id: span a\nX-Story-Id: \n"

/-- A program with tracing settings and an input, in an empty tree. -/
def programWith (tracing : TracingConfig) (input : String) : Command.Context where
  around :=
    { environment := fun _ => none
      input
      files := .ofCurrent []
      records := .counting ⟨0, 0⟩
      events := .counting ⟨0, 0⟩
      replies := fun _ => .unreachable }
  config := .default
  directory := none
  tracing

/-- Headers of an older request. -/
def staleHeaders : Headers := [("Accept", "text"), ("X-Session-Id", "s0"), ("X-Story-Id", "old")]

open Orchestrator in
/-- A story begins, and another one begins and ends. -/
def duskAndDawn : List Call :=
  [.createRoot "dusk" (some "s1") (some "t1") [], .createRoot "dawn" none (some "t2") [],
    .finalize "t2" none none]

open Orchestrator in
def boardAfterDawn : StoryBoard :=
  (dealAll ⟨none, "story"⟩ duskAndDawn (session Store.empty (.counting ⟨0, 0⟩))).2.state

open CorrelationContext Orchestrator in
theorem ids_survive_headers_oddIds :
    (oddIds.writeTo staleHeaders).get? "X-Session-Id" = some "s0" ∧
      (∀ v ∈ oddIds.values, OnLine v) ∧
      ofHeaders (.ofText oddLines) = oddIds ∧
      Command.performHeaders (programWith { TracingConfig.default with storyId := some "" } "")
        (some "t:1") (some "span a") false = .ok (oddLines, .ofCurrent []) ∧
      Command.performHeaders (programWith .default oddLines) none none true =
        .ok ("\x7b\n  \"trace_id\": \"t:1\",\n  \"story_id\": \"\",\n  \"session_id\": null,\n" ++
          "  \"parent_span_id\": \"span a\"\n\x7d\n", .ofCurrent []) ∧
      inject boardAfterDawn staleHeaders (some "t1") none =
        some (writeTo ⟨some "t1", some "dusk", some "s1", none⟩ staleHeaders) ∧
      inject boardAfterDawn staleHeaders (some "t2") none = none := by
  have hLines : ∀ v ∈ oddIds.values, OnLine v := by decide
  have hBegun : (boardAfterDawn.active.get? "t1").map (fun a => (a.storyId, a.sessionId)) =
      some ("dusk", "s1") := by
    decide +kernel
  have hEnded : (boardAfterDawn.active.get? "t2").isNone = true := by decide +kernel
  obtain ⟨⟨-, hWritten⟩, -, hPrinted, hSent⟩ := ids_survive_headers oddIds staleHeaders
    ⟨none, "story"⟩ duskAndDawn Store.empty (.counting ⟨0, 0⟩)
  unfold boardAfterDawn at hBegun hEnded ⊢
  have hText : oddIds.toHeaders.text = oddLines := by decide +kernel
  have hContext : oddIds.toJson.pretty ++ "\n" =
      "\x7b\n  \"trace_id\": \"t:1\",\n  \"story_id\": \"\",\n  \"session_id\": null,\n" ++
        "  \"parent_span_id\": \"span a\"\n\x7d\n" := by
    decide +kernel
  obtain ⟨hRead, hPassed⟩ := hPrinted hLines
  rw [hText] at hRead hPassed
  rw [hContext] at hPassed
  obtain ⟨hSender, hReceiver⟩ :=
    hPassed (programWith { TracingConfig.default with storyId := some "" } "")
      (programWith .default oddLines) (some "t:1") (some "span a") rfl rfl rfl
  refine ⟨(hWritten _).trans (by decide), hLines, hRead, hSender, hReceiver, ?begun, ?ended⟩
  case begun =>
    obtain ⟨story, hActive, hIds⟩ := Option.map_eq_some_iff.1 hBegun
    obtain ⟨hStory, hSession⟩ := Prod.mk.inj hIds
    apply (hSent (some "t1") none _).2
    exact ⟨"t1", story, rfl, hActive, by rw [hStory, hSession]⟩
  case ended =>
    apply Option.eq_none_iff_forall_ne_some.2
    intro sent hInjected
    obtain ⟨traceId, story, hSame, hActive, -⟩ := (hSent (some "t2") none sent).1 hInjected
    obtain rfl := Option.some.inj hSame
    rw [Option.isNone_iff_eq_none.1 hEnded] at hActive
    cases hActive

end StoryTrace

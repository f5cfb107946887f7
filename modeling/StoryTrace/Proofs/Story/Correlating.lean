import StoryTrace.Proofs.Store.Arrivals
import StoryTrace.Proofs.Story.Deeds
import StoryTrace.Proofs.Story.Failing
import StoryTrace.Proofs.Story.Rooting

/-!
# What correlations list

The path of a correlation lists every system that the story has come to, once and in the order of
the first visits. The traces that other systems record for the story are listed as often as they
are noted.
-/

namespace StoryTrace

theorem filterMap_append_singleton {α β : Type} (f : α → Option β) (items : List α) (last : α) :
    (items ++ [last]).filterMap f = items.filterMap f ++ (f last).toList := by
  rw [List.filterMap_append]
  cases h : f last <;> simp [h]

namespace Correlation

/-- The story has come to these systems, and these traces were noted for it. -/
structure Lists (c : Correlation) (systems traces : List String) : Prop where
  path : c.path = systems.eraseDups
  children : c.childTraceIds = traces

variable {c : Correlation} {systems traces : List String}

theorem lists_start (rootTraceId storyId sessionId system : String) (now : Instant) :
    (start rootTraceId storyId sessionId system now).Lists [system] [] :=
  ⟨rfl, rfl⟩

theorem Lists.nodup_path (h : c.Lists systems traces) : c.path.Nodup := by
  rw [h.path]
  exact nodup_eraseDups systems

theorem Lists.visit (h : c.Lists systems traces) (system : String) :
    (c.visit system).Lists (systems ++ [system]) traces where
  path := by
    have hNext := eraseDups_append_toList systems (some system)
    rw [Option.toList_some] at hNext
    rw [path_visit, h.path, hNext]
    by_cases hKnown : system ∈ systems <;> simp [hKnown]
  children := by rw [childTraceIds_visit, h.children]

theorem Lists.addChild (h : c.Lists systems traces) (traceId system : String) :
    (c.addChild traceId system).Lists (systems ++ [system]) (traces ++ [traceId]) := by
  have hNoted : Lists { c with childTraceIds := c.childTraceIds ++ [traceId] } systems
      (traces ++ [traceId]) := ⟨h.path, by rw [h.children]⟩
  exact hNoted.visit system

/-- The same if there may be no system that the story comes to. -/
theorem Lists.visits (h : c.Lists systems traces) (visits : Option String) :
    (match visits with
      | some system => c.visit system
      | none => c).Lists (systems ++ visits.toList) traces := by
  cases visits with
  | none => simpa using h
  | some system => exact h.visit system

end Correlation

/-! ## Stories of an orchestrator -/

namespace Orchestrator

namespace Dealing

/-- The system that the story of the trace has come to: the backend of a flow whose span was opened,
or the system of a trace that was noted. -/
def visited? (traceId : String) (d : Dealing) : Option String :=
  match d.response, d.call with
  | .span (.ok _), .openSpan t (.flow _ backend _ _ _) => if t = traceId then some backend else none
  | .linked true, .link t _ system => if t = traceId then some system else none
  | _, _ => none

/-- The trace that was noted for the story of the trace. -/
def linked? (traceId : String) (d : Dealing) : Option String :=
  match d.response, d.call with
  | .linked true, .link t externalId _ => if t = traceId then some externalId else none
  | _, _ => none

theorem visited?_opened (t id : String) (span : SpanCall) (traceId : String) :
    visited? traceId ⟨.openSpan t span, .span (.ok id)⟩ =
      if t = traceId then span.plan.visits else none := by
  cases span with
  | flow => rfl
  | _ => exact (ite_self _).symm

end Dealing

variable {σ : Type}

/-- Every story on the board has its own trace, and its correlation lists what the dealings since
its root tell. -/
structure Correlates (o : Orchestrator) (dealings : List Dealing)
    (s : Session StoryBoard (Watched σ)) : Prop where
  named : s.state.Named
  lists : ∀ t story, s.state.active.get? t = some story → ∃ root rest,
    BegunLast dealings t root rest ∧ story.correlation.Lists
      (o.system :: rest.filterMap (Dealing.visited? t)) (rest.filterMap (Dealing.linked? t))

theorem correlates_session (o : Orchestrator) (sink : σ) (supply : Supply) :
    Correlates o [] (session sink supply) where
  named _ _ h := by cases h
  lists _ _ h := by cases h

namespace Correlates

variable {o : Orchestrator} {dealings : List Dealing} {d : Dealing}
  {s s' : Session StoryBoard (Watched σ)}

/-- A dealing that ends no story adds what it tells to every story. -/
theorem append_singleton (h : Correlates o dealings s) (hNamed : s'.state.Named)
    (hLists : ∀ t story, s'.state.active.get? t = some story → d.ends? t = none →
      ∃ old, s.state.active.get? t = some old ∧ ∀ {systems traces},
        old.correlation.Lists systems traces → story.correlation.Lists
          (systems ++ (d.visited? t).toList) (traces ++ (d.linked? t).toList))
    (hBegun : ∀ t story fate, s'.state.active.get? t = some story → d.ends? t = some fate →
      ∃ root, BegunLast (dealings ++ [d]) t root [] ∧ story.correlation.Lists [o.system] []) :
    Correlates o (dealings ++ [d]) s' where
  named := hNamed
  lists t story hThere := by
    -- a root that ends a story of its trace starts the list anew
    cases hEnds : d.ends? t with
    | some fate =>
        obtain ⟨root, hLast, hStart⟩ := hBegun t story fate hThere hEnds
        exact ⟨root, [], hLast, hStart⟩
    | none =>
        obtain ⟨old, hOld, hNext⟩ := hLists t story hThere hEnds
        obtain ⟨root, rest, hLast, hTold⟩ := h.lists t old hOld
        refine ⟨root, rest ++ [d], hLast.append_singleton hEnds, ?_⟩
        rw [filterMap_append_singleton, filterMap_append_singleton]
        exact hNext hTold

/-- A dealing that leaves the stories as they are. -/
theorem quiet (h : Correlates o dealings s) (hActive : s'.state.active = s.state.active)
    (hEnds : ∀ t, d.ends? t = none) (hVisited : ∀ t, d.visited? t = none)
    (hLinked : ∀ t, d.linked? t = none) : Correlates o (dealings ++ [d]) s' := by
  refine h.append_singleton (fun t story hThere => h.named t story (hActive ▸ hThere)) ?lists ?begun
  case lists =>
    intro t story hThere _
    refine ⟨story, hActive ▸ hThere, fun hOld => ?_⟩
    rw [hVisited, hLinked]
    simpa using hOld
  case begun =>
    intro t story fate _ hEnd
    rw [hEnds] at hEnd
    cases hEnd

/-- A dealing that adds to one story. -/
theorem added (h : Correlates o dealings s) {t : String} {old : ActiveStory}
    {spanIds : List String} {correlation : Correlation}
    (known : s.state.active.get? t = some old)
    (hActive : s'.state.active = s.state.active.put old.traceId { old with spanIds, correlation })
    (hEnds : ∀ u, d.ends? u = none)
    (hOthers : ∀ u, t ≠ u → d.visited? u = none ∧ d.linked? u = none)
    (hHere : ∀ {systems traces}, old.correlation.Lists systems traces → correlation.Lists
      (systems ++ (d.visited? t).toList) (traces ++ (d.linked? t).toList)) :
    Correlates o (dealings ++ [d]) s' := by
  refine h.append_singleton (h.named.put { old with spanIds, correlation } hActive) ?lists ?begun
  case lists =>
    intro u story hThere _
    rw [hActive, Table.get?_put, h.named t old known] at hThere
    split at hThere
    case isTrue hSame =>
      subst hSame
      obtain rfl := Option.some.inj hThere
      exact ⟨old, known, hHere⟩
    case isFalse hOther =>
      obtain ⟨hVisited, hLinked⟩ := hOthers u hOther
      refine ⟨story, hThere, fun hOld => ?_⟩
      rw [hVisited, hLinked]
      simpa using hOld
  case begun =>
    intro u story fate _ hEnd
    rw [hEnds] at hEnd
    cases hEnd

/-- A story that is begun has come to the first system only. -/
theorem begun (h : Correlates o dealings s) {story : ActiveStory}
    {sessionId given : Option String} {metadata : Metadata}
    (hDealing : d = ⟨.createRoot story.storyId sessionId given metadata, .root (.ok story)⟩)
    (hStart : story.correlation.Lists [o.system] [])
    (hState : s'.state = s.state.setStory story) : Correlates o (dealings ++ [d]) s' := by
  have hEnds (t : String) : d.ends? t = if story.traceId = t then some .replaced else none :=
    Dealing.ends?_of_begun (hDealing ▸ rfl) (hDealing ▸ rfl)
  have hThere (t : String) : s'.state.active.get? t =
      if story.traceId = t then some story else s.state.active.get? t := by
    rw [hState]
    exact Table.get?_put ..
  refine h.append_singleton (h.named.put story (hState ▸ rfl)) ?lists ?begun
  case lists =>
    intro t other hOther hNone
    rw [hEnds] at hNone
    rw [hThere, if_neg fun hHere => by simp [hHere] at hNone] at hOther
    refine ⟨other, hOther, fun hOld => ?_⟩
    have hTold : d.visited? t = none ∧ d.linked? t = none := hDealing ▸ ⟨rfl, rfl⟩
    rw [hTold.1, hTold.2]
    simpa using hOld
  case begun =>
    intro t other fate hOther hEnd
    rw [hEnds] at hEnd
    split at hEnd
    case isTrue hHere =>
      rw [hThere, if_pos hHere] at hOther
      obtain rfl := Option.some.inj hOther
      exact ⟨story, ⟨⟨dealings, sessionId, given, metadata, by rw [hDealing]⟩, hHere,
        List.forall_mem_nil _⟩, hStart⟩
    case isFalse => cases hEnd

/-- The stories that are not finalized stay as they are. -/
theorem finalized (h : Correlates o dealings s) {t : String} {story : ActiveStory}
    (hBegun : d.begun? = none) (hFinalized : d.finalized? = some t)
    (known : s.state.active.get? t = some story) (hState : s'.state = s.state.remove story)
    (hTold : ∀ u, d.visited? u = none ∧ d.linked? u = none) :
    Correlates o (dealings ++ [d]) s' := by
  have hEnds (u : String) : d.ends? u = if t = u then some .finalized else none :=
    Dealing.ends?_of_finalized hFinalized hBegun
  have hThere (u : String) : s'.state.active.get? u =
      if u = t then none else s.state.active.get? u := by
    rw [hState, StoryBoard.remove, h.named t story known]
    exact Table.get?_erase ..
  refine h.append_singleton (hState ▸ h.named.remove story) ?lists ?begun
  case lists =>
    intro u other hOther hNone
    rw [hThere] at hOther
    split at hOther
    case isTrue => cases hOther
    case isFalse =>
      refine ⟨other, hOther, fun hOld => ?_⟩
      rw [(hTold u).1, (hTold u).2]
      simpa using hOld
  case begun =>
    intro u other fate hOther hEnd
    rw [hEnds] at hEnd
    split at hEnd
    case isTrue hHere =>
      rw [hThere, if_pos hHere.symm] at hOther
      cases hOther
    case isFalse => cases hEnd

end Correlates

theorem Served.correlates {o : Orchestrator} {c : Call} {response : Response}
    {dealings : List Dealing} {s s' : Session StoryBoard (Watched σ)}
    (hServed : Served o s c.request response s')
    (hStart : ∀ story, response = .root (.ok story) → story.correlation.Lists [o.system] [])
    (h : Correlates o dealings s) : Correlates o (dealings ++ [⟨c, response⟩]) s' := by
  generalize hCall : c.request = q at hServed
  cases hServed with
  | rootCreated isRoot _ _ =>
      rw [Call.eq_createRoot_of_request hCall, ← isRoot.storyId]
      exact h.begun rfl (hStart _ rfl) rfl
  | @spanOpened t plan story _ _ _ _ _ _ known _ =>
      obtain ⟨span, rfl, rfl⟩ := Call.exists_of_request_openSpan hCall
      refine h.added known rfl (fun _ => rfl)
        (fun u hOther => ⟨?_, rfl⟩) fun hOld => ?_
      · rw [Dealing.visited?_opened, if_neg hOther]
      · have hLinked : Dealing.linked? t ⟨.openSpan t span,
            .span (.ok (s.supply.ids s.supply.idsUsed))⟩ = none := rfl
        rw [Dealing.visited?_opened, if_pos rfl, hLinked, Option.toList_none, List.append_nil]
        exact hOld.visits span.plan.visits
  | @linked t externalId system story known =>
      obtain rfl : c = .link t externalId system := by
        cases c <;> cases hCall
        rfl
      refine h.added known rfl (fun _ => rfl)
        (fun u hOther => ⟨if_neg hOther, if_neg hOther⟩) fun hOld => ?_
      have hVisited : Dealing.visited? t ⟨.link t externalId system, .linked true⟩ = some system :=
        if_pos rfl
      have hLinked : Dealing.linked? t ⟨.link t externalId system, .linked true⟩ =
          some externalId := if_pos rfl
      rw [hVisited, hLinked]
      exact hOld.addChild externalId system
  | finalized known _ _ =>
      rw [Call.eq_finalize_of_request hCall]
      exact h.finalized rfl rfl known rfl fun _ => ⟨rfl, rfl⟩
  | _ => exact h.quiet rfl (fun _ => rfl) (fun _ => rfl) fun _ => rfl

section

variable [Sink σ]

open Work

theorem lists_createRoot {s : Session StoryBoard (Watched σ)} (o : Orchestrator) (storyId : String)
    (sessionId traceId : Option String) (metadata : Metadata) :
    (o.createRoot storyId sessionId traceId metadata).Yields s fun answer _ =>
      ∀ story, answer = .ok story → story.correlation.Lists [o.system] [] := by
  refine .bind (yields_newId (.bind (yields_newId (.bind (yields_now (.bind (yields_now
    (.bind (yields_now (.bind (yields_send ?accepted ?refused)))))))))))
  case accepted =>
    intro sink
    refine .bind (yields_change (yields_pure ?_))
    rintro _ ⟨⟩
    exact Correlation.lists_start ..
  case refused => exact fun e sink => yields_pure nofun

theorem lists_respond (o : Orchestrator) (q : Request) (s : Session StoryBoard (Watched σ))
    {story : ActiveStory} (h : (o.respond q s).1 = .root (.ok story)) :
    story.correlation.Lists [o.system] [] := by
  cases q with
  | createRoot storyId sessionId traceId metadata =>
      exact lists_createRoot o storyId sessionId traceId metadata story (Response.root.inj h)
  | _ => cases h

theorem Correlates.dealAll {o : Orchestrator} {dealings : List Dealing}
    {s : Session StoryBoard (Watched σ)} (h : Correlates o dealings s) (calls : List Call) :
    Correlates o (dealings ++ (o.dealAll calls s).1) (o.dealAll calls s).2 :=
  dealAll_induction_respond (fun c h =>
    (served_respond o c.request _).correlates (fun _ hRoot => lists_respond o _ _ hRoot) h) h calls

end

end Orchestrator

/-! ## The story of a narrator -/

namespace Narrator

variable {σ : Type}

/-- The traces that were noted with these deeds. -/
def takenBy (n : Narrator) (deeds : List Deed) : List String :=
  deeds.filterMap (Deed.taken? n.header)

/-- The correlation lists the traces that were noted. Without a root trace none was. -/
structure Correlates (n : Narrator) (deeds : List Deed) (s : Session Narration (Watched σ)) :
    Prop where
  bare : s.state.correlation = none → n.takenBy deeds = []
  lists : ∀ c, s.state.correlation = some c →
    c.Lists (localSystem :: (n.takenBy deeds).map fun _ => externalSystem) (n.takenBy deeds)

namespace Correlates

variable {n : Narrator} {deeds : List Deed} {s t : Session Narration (Watched σ)}

theorem of_same (h : n.Correlates deeds s) (hSame : t.state.correlation = s.state.correlation)
    {more : List Deed} (hMore : n.takenBy more = []) : n.Correlates (deeds ++ more) t := by
  have hTaken : n.takenBy (deeds ++ more) = n.takenBy deeds := by
    rw [takenBy, List.filterMap_append]
    exact (congrArg _ hMore).trans (List.append_nil _)
  exact ⟨hTaken ▸ hSame ▸ h.bare, hTaken ▸ hSame ▸ h.lists⟩

theorem ensured {answer : Except SinkError String} (h : n.Correlates deeds s)
    (hEnsured : Ensured n s answer t) : n.Correlates deeds t := by
  cases hEnsured with
  | there => exact h
  | created unknown =>
      refine ⟨nofun, ?_⟩
      rintro _ ⟨⟩
      rw [h.bare unknown]
      exact Correlation.lists_start ..
  | refused => exact ⟨h.bare, h.lists⟩

theorem received (h : n.Correlates deeds s) (headers : Headers) :
    n.Correlates (deeds ++ [.received headers (n.receive headers s).1])
      (n.receive headers s).2 := by
  suffices hYields : (n.receive headers).Yields s fun taken t =>
      n.Correlates (deeds ++ [.received headers taken]) t from hYields
  refine .bind (Work.yields_state ?_)
  split
  case h_1 incoming c hHeader hRoot =>
    refine .bind (Work.yields_put (Work.yields_pure ⟨nofun, ?_⟩))
    rintro _ ⟨⟩
    have hTaken :
        n.takenBy (deeds ++ [.received headers true]) = n.takenBy deeds ++ [incoming] := by
      rw [takenBy, filterMap_append_singleton, Deed.taken?, hHeader]
      rfl
    rw [hTaken, List.map_append]
    exact (h.lists c hRoot).addChild incoming externalSystem
  case h_2 => exact Work.yields_pure (h.of_same rfl rfl)

end Correlates

theorem follows_correlates (n : Narrator) : Follows (σ := σ) n n.Correlates where
  recorded e h := h.of_same rfl rfl
  received headers h := h.received headers
  opened storyId supply h := h.of_same (by rfl) rfl
  ensured h hEnsured := h.ensured hEnsured
  sent _ _ _ _ _ _ h _ _ := ⟨h.bare, h.lists⟩
  measured _ _ h := ⟨h.bare, h.lists⟩
  flushed _ h := ⟨h.bare, h.lists⟩

end Narrator

/-- The correlation of an active story lists what the calls since its root tell: the systems, each
once and in the order of the first visits, and every trace that was noted. Calls that are refused,
or that are about a trace that is not active, tell nothing. The correlation of a narrator lists in
the same way what was received since its root. -/
theorem correlation_lists_visits {σ : Type} [Sink σ] {o : Orchestrator} {n : Narrator}
    {sink sink' : σ} {supply supply' : Supply} {calls : List Orchestrator.Call}
    {dealings : List Orchestrator.Dealing} {s : Session StoryBoard (Watched σ)}
    {config : TracingConfig} {α : Type}
    {work : Work Narration (Watched σ) α} {t : Session Narration (Watched σ)}
    (hCalls : o.dealAll calls (Orchestrator.session sink supply) = (dealings, s))
    (hHandles : n.Handles work) (hWork : (work ⟨.start config, .start sink', supply'⟩).2 = t) :
    (∀ traceId story, s.state.active.get? traceId = some story → ∃ root rest,
      Orchestrator.BegunLast dealings traceId root rest ∧
      story.correlation.path.Nodup ∧
      story.correlation.path =
        (o.system :: rest.filterMap (Orchestrator.Dealing.visited? traceId)).eraseDups ∧
      story.correlation.childTraceIds =
        rest.filterMap (Orchestrator.Dealing.linked? traceId)) ∧
    (∃ deeds, n.Performs work ⟨.start config, .start sink', supply'⟩ deeds) ∧
    ∀ deeds, n.Performs work ⟨.start config, .start sink', supply'⟩ deeds →
      ∀ c, t.state.correlation = some c →
        c.path.Nodup ∧
        c.path = (localSystem :: (n.takenBy deeds).map fun _ => externalSystem).eraseDups ∧
        c.childTraceIds = n.takenBy deeds := by
  refine ⟨?stories, hHandles.exists_performs _, ?story⟩
  case stories =>
    intro traceId story known
    have hAll := (Orchestrator.correlates_session o sink supply).dealAll calls
    rw [hCalls] at hAll
    obtain ⟨root, rest, hLast, hLists⟩ := hAll.lists traceId story known
    exact ⟨root, rest, hLast, hLists.nodup_path, hLists.path, hLists.children⟩
  case story =>
    intro deeds hPerforms c hc
    have hStart : n.Correlates [] ⟨Narration.start config, Watched.start sink', supply'⟩ :=
      ⟨fun _ => rfl, nofun⟩
    have hLists := ((n.follows_correlates.performs hStart hPerforms).lists c (hWork ▸ hc))
    exact ⟨hLists.nodup_path, hLists.path, hLists.children⟩

section

/-- A flow is refused at first, systems come again, and one trace is not active. -/
def toured : List Orchestrator.Dealing × Session StoryBoard (Watched Gate) :=
  Orchestrator.dealAll ⟨none, "desk"⟩
    [.createRoot "dusk" none (some "t1") [], .openSpan "t1" (.flow "f1" "loom" none none none),
      .openSpan "t1" (.flow "f1" "loom" none none none), .link "t1" "x1" "press",
      .link "t9" "x9" "mill", .link "t1" "x2" "loom", .link "t1" "x1" "press"]
    (Orchestrator.session (Gate.start.refuse .createSpan 1) (.counting ⟨0, 0⟩))

/-- A trace comes from outside before there is a root trace, and twice afterwards. -/
def visitedFromOutside : Work Narration (Watched Gate) Bool := do
  discard (Narrator.patient.receive Narrator.outside)
  discard Narrator.patient.ensureRoot
  discard (Narrator.patient.receive Narrator.outside)
  Narrator.patient.receive Narrator.outside

def undisturbed : Session Narration (Watched Gate) :=
  ⟨.start .default, .start Gate.start, .counting ⟨0, 0⟩⟩

theorem correlation_lists_visits_toured :
    Narrator.patient.Handles visitedFromOutside ∧
    (∃ story root rest, toured.2.state.active.get? "t1" = some story ∧
      Orchestrator.BegunLast toured.1 "t1" root rest ∧
      ("desk" :: rest.filterMap (Orchestrator.Dealing.visited? "t1")).eraseDups =
        ["desk", "loom", "press"] ∧
      rest.filterMap (Orchestrator.Dealing.linked? "t1") = ["x1", "x2", "x1"]) ∧
    ∃ deeds c, Narrator.patient.Performs visitedFromOutside undisturbed deeds ∧
      (visitedFromOutside undisturbed).2.state.correlation = some c ∧
      c.path = ["fabula", "external"] ∧ Narrator.patient.takenBy deeds = ["t9", "t9"] := by
  have hHandles : Narrator.patient.Handles visitedFromOutside :=
    .bind (.bind (.receive _) fun _ => .pure _) fun _ =>
      .bind (.bind .ensureRoot fun _ => .pure _) fun _ =>
        .bind (.bind (.receive _) fun _ => .pure _) fun _ => .receive _
  have hStory : (toured.2.state.active.get? "t1").map (fun story =>
      (story.correlation.path, story.correlation.childTraceIds)) =
        some (["desk", "loom", "press"], ["x1", "x2", "x1"]) := by
    decide +kernel
  have hRoot : (visitedFromOutside undisturbed).2.state.correlation.map
      (fun c => (c.path, c.childTraceIds)) = some (["fabula", "external"], ["t9", "t9"]) := by
    decide +kernel
  obtain ⟨story, known, hLists⟩ := Option.map_eq_some_iff.1 hStory
  obtain ⟨c, hc, hTold⟩ := Option.map_eq_some_iff.1 hRoot
  obtain ⟨hStories, ⟨deeds, hDeeds⟩, hNarrator⟩ :=
    correlation_lists_visits (Prod.eta toured).symm hHandles
      (rfl : (visitedFromOutside undisturbed).2 = _)
  obtain ⟨root, rest, hLast, -, hPath, hChildren⟩ := hStories "t1" story known
  obtain ⟨-, -, hTaken⟩ := hNarrator deeds hDeeds c hc
  refine ⟨hHandles, ⟨story, root, rest, known, hLast, ?_, ?_⟩, deeds, c, hDeeds, hc,
    congrArg Prod.fst hTold, ?_⟩
  · exact hPath.symm.trans (congrArg Prod.fst hLists)
  · exact hChildren.symm.trans (congrArg Prod.snd hLists)
  · exact hTaken.symm.trans (congrArg Prod.snd hTold)

end

end StoryTrace

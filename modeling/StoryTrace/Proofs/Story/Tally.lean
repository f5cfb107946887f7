import StoryTrace.Proofs.Session
import StoryTrace.Proofs.Story.Board
import StoryTrace.Proofs.Story.Dealings

/-!
# The board as the dealings tell it

A story on the board lists what was opened for it since its root was created. A span is tracked from
its opening until its story is finalized. If a new story takes the place of its story it is tracked
for good, and no story lists it.
-/

namespace StoryTrace

namespace Orchestrator

variable {σ : Type}

theorem label_storySpan (p : SpanPlan) (a : ActiveStory) (id : String)
    (started ended : Instant) :
    (p.storySpan a id started ended).label = ⟨id, a.traceId, p.kind⟩ := by
  unfold SpanPlan.storySpan
  cases p.output <;> rfl

def Opened.label (x : Opened) : SpanLabel := ⟨x.id, x.traceId, x.call.plan.kind⟩

/-- The root of the story was the last one to be created for the trace, and the story was not
finalized in the rest of the dealings. -/
structure BegunLast (dealings : List Dealing) (traceId : String) (story : ActiveStory)
    (rest : List Dealing) : Prop where
  split : ∃ before sessionId given metadata, dealings = before ++
    ⟨.createRoot story.storyId sessionId given metadata, .root (.ok story)⟩ :: rest
  named : story.traceId = traceId
  latest : ∀ d ∈ rest, d.ends? traceId = none

namespace BegunLast

variable {dealings rest : List Dealing} {traceId : String} {story : ActiveStory}
  (h : BegunLast dealings traceId story rest)
include h

theorem append_singleton {d : Dealing} (hEnds : d.ends? traceId = none) :
    BegunLast (dealings ++ [d]) traceId story (rest ++ [d]) := by
  obtain ⟨before, sessionId, given, metadata, hSplit⟩ := h.split
  refine ⟨⟨before, sessionId, given, metadata, ?_⟩, h.named, ?_⟩
  · rw [hSplit, List.append_assoc, List.cons_append]
  · exact List.forall_mem_append.2 ⟨h.latest, List.forall_mem_singleton.2 hEnds⟩

/-- The fate of what was opened for the story is still to come. -/
theorem mem_openings {x : Opened} (hx : x ∈ openedFor traceId rest) (later : List Dealing) :
    ⟨x, later.findSome? (·.ends? traceId)⟩ ∈ openings (dealings ++ later) ∧
      x.traceId = traceId := by
  obtain ⟨⟨d, hd, hOpened⟩, rfl⟩ := mem_openedFor_iff.1 hx
  obtain ⟨first, last, rfl⟩ := List.append_of_mem hd
  obtain ⟨before, sessionId, given, metadata, rfl⟩ := h.split
  have hNone : last.findSome? (·.ends? x.traceId) = none := by
    apply List.findSome?_eq_none_iff.2
    exact fun d hLast => h.latest d (List.mem_append_right _ (List.mem_cons_of_mem _ hLast))
  have hFate : (last ++ later).findSome? (·.ends? x.traceId) =
      later.findSome? (·.ends? x.traceId) := by
    rw [List.findSome?_append, hNone, Option.none_or]
  refine ⟨?_, rfl⟩
  rw [← hFate, List.append_assoc, List.cons_append, List.append_assoc, List.cons_append,
    ← List.cons_append, ← List.append_assoc]
  exact mem_openings_of_split hOpened

theorem sublist_openings : ((openedFor traceId rest).map (·.id)).Sublist
    ((openings dealings).map (·.id)) := by
  obtain ⟨before, sessionId, given, metadata, rfl⟩ := h.split
  have hMap (ds : List Dealing) :
      (openings ds).map (·.id) = (ds.filterMap Dealing.opened?).map (·.id) := by
    rw [← map_toOpened_openings, List.map_map]
    rfl
  rw [hMap]
  apply List.Sublist.map
  apply List.filter_sublist.trans
  apply List.Sublist.filterMap
  exact (List.sublist_cons_self _ _).trans (List.sublist_append_right _ _)

omit h in
/-- If the story of the trace has come to an end, the last root was created after that. -/
theorem exists_mem_of_ends {before later : List Dealing} {d : Dealing}
    (h : BegunLast (before ++ d :: later) traceId story rest) (hBegun : d.begun? = none)
    (hEnds : d.ends? traceId ≠ none) : ∃ root ∈ later, root.begun? = some story := by
  obtain ⟨first, sessionId, given, metadata, hSplit⟩ := h.split
  have hNotRoot (tail more : List Dealing) (hEq : d :: tail =
      ⟨.createRoot story.storyId sessionId given metadata, .root (.ok story)⟩ :: more) : False := by
    rw [(List.cons.inj hEq).1] at hBegun
    cases hBegun
  rcases List.append_eq_append_iff.1 hSplit with ⟨between, -, hLater⟩ | ⟨between, -, hRest⟩
  · cases between with
    | nil => exact (hNotRoot _ _ hLater).elim
    | cons _ between =>
        obtain ⟨-, rfl⟩ := List.cons.inj hLater
        exact ⟨_, List.mem_append_right _ (List.mem_cons_self ..), rfl⟩
  · cases between with
    | nil => exact (hNotRoot _ _ hRest.symm).elim
    | cons _ between =>
        obtain ⟨-, rfl⟩ := List.cons.inj hRest
        exact absurd (h.latest d (List.mem_append_right _ (List.mem_cons_self ..))) hEnds

end BegunLast

/-- The board is as the dealings tell. -/
structure Tallies (dealings : List Dealing) (s : Session StoryBoard (Watched σ)) : Prop where
  fresh : s.supply.Fresh
  gave : ∀ e ∈ openings dealings, s.supply.Gave e.id
  distinct : ((openings dealings).map (·.id)).Nodup
  made : ∀ t a, s.state.outline? t = some a → ∃ story rest, BegunLast dealings t story rest ∧
    a = { story.outline with spanIds := (openedFor t rest).map (·.id) }
  listed : ∀ e ∈ openings dealings, e.fate = none → s.state.Lists e.traceId e.id
  labels : ∀ id l, s.state.label? id = some l ↔
    ∃ e ∈ openings dealings, e.fate ≠ some .finalized ∧ e.label = l ∧ e.id = id

theorem tallies_session (sink : σ) {supply : Supply} (hFresh : supply.Fresh) :
    Tallies [] (session sink supply) where
  fresh := hFresh
  gave := List.forall_mem_nil _
  distinct := List.nodup_nil
  made _ _ h := by cases h
  listed := List.forall_mem_nil _
  labels _ _ := by simp [session, StoryBoard.empty, StoryBoard.label?, openings]

namespace Tallies

variable {dealings : List Dealing} {d : Dealing} {s s' : Session StoryBoard (Watched σ)}
  (h : Tallies dealings s)
include h

theorem eq_of_id_eq {e f : Opening} (he : e ∈ openings dealings) (hf : f ∈ openings dealings)
    (hId : e.id = f.id) : e = f := List.inj_on_of_nodup_map h.distinct he hf hId

theorem traceId_eq {t : String} {a : StoryOutline} (hMade : s.state.outline? t = some a) :
    a.traceId = t := by
  obtain ⟨story, rest, hBegun, rfl⟩ := h.made t a hMade
  exact hBegun.named

theorem traceId_of_known {t : String} {story : ActiveStory}
    (known : s.state.active.get? t = some story) : story.traceId = t :=
  h.traceId_eq (StoryBoard.outline?_of_get? known)

theorem nodup_spanIds {t : String} {story : ActiveStory}
    (known : s.state.active.get? t = some story) : story.spanIds.Nodup := by
  obtain ⟨root, rest, hBegun, hOutline⟩ := h.made t _ (StoryBoard.outline?_of_get? known)
  have hIds : story.spanIds = (openedFor t rest).map (·.id) :=
    congrArg StoryOutline.spanIds hOutline
  rw [hIds]
  exact hBegun.sublist_openings.nodup h.distinct

theorem id_of_tracked {id : String} {span : StorySpan}
    (hSpan : s.state.spans.get? id = some span) : span.id = id := by
  obtain ⟨e, -, -, hLabel, rfl⟩ := (h.labels _ _).1 (StoryBoard.label?_of_get? hSpan)
  exact congrArg SpanLabel.id hLabel.symm

/-- The id that is generated next is that of no span. -/
theorem id_ne_next {e : Opening} (he : e ∈ openings dealings) :
    e.id ≠ s.supply.ids s.supply.idsUsed := by
  intro hSame
  exact h.fresh.not_gave 0 (hSame ▸ h.gave e he)

/-- A span is listed for its trace as long as its story is being made. -/
theorem lists_iff {t id : String} :
    s.state.Lists t id ↔ ∃ e ∈ openings dealings, e.id = id ∧ e.traceId = t ∧ e.fate = none := by
  constructor
  · intro hLists
    obtain ⟨a, hMade, hId⟩ := StoryBoard.lists_iff.1 hLists
    obtain ⟨story, rest, hBegun, rfl⟩ := h.made t a hMade
    obtain ⟨x, hx, rfl⟩ := List.mem_map.1 hId
    obtain ⟨hMem, hTrace⟩ := hBegun.mem_openings hx []
    rw [List.append_nil] at hMem
    exact ⟨_, hMem, rfl, hTrace, rfl⟩
  · rintro ⟨e, he, rfl, rfl, hFate⟩
    exact h.listed e he hFate

/-- A dealing that opens no span leaves the board as told if it changes only the stories that it
ends or replaces, and if the spans that are tracked afterwards are those of the stories that were
not finalized. -/
theorem append_singleton {n : Nat} (hOpened : d.opened? = none)
    (uses : s.supply.Uses n s'.supply)
    (hSame : ∀ t, d.ends? t = none → s'.state.outline? t = s.state.outline? t)
    (hMade : ∀ t fate a, d.ends? t = some fate → s'.state.outline? t = some a →
      ∃ story rest, BegunLast (dealings ++ [d]) t story rest ∧
        a = { story.outline with spanIds := (openedFor t rest).map (·.id) })
    (hLabels : ∀ id l, s'.state.label? id = some l ↔
      ∃ e ∈ openings dealings, (e.after d).fate ≠ some .finalized ∧ e.label = l ∧ e.id = id) :
    Tallies (dealings ++ [d]) s' := by
  have hOpenings : openings (dealings ++ [d]) = (openings dealings).map (Opening.after d) := by
    simp [openings_append_singleton, hOpened]
  refine ⟨uses.fresh h.fresh, ?gave, ?distinct, ?made, ?listed, ?labels⟩
  case gave =>
    rw [hOpenings]
    exact List.forall_mem_map.2 fun e he => uses.gave (h.gave e he)
  case distinct =>
    rw [hOpenings, List.map_map]
    exact h.distinct
  case made =>
    intro t a hNow
    cases hEnds : d.ends? t with
    | some fate => exact hMade t fate a hEnds hNow
    | none =>
        obtain ⟨story, rest, hBegun, rfl⟩ := h.made t a (hSame t hEnds ▸ hNow)
        refine ⟨story, rest ++ [d], hBegun.append_singleton hEnds, ?_⟩
        rw [openedFor_append_singleton_of_forall_ne (by simp [hOpened])]
  case listed =>
    rw [hOpenings]
    refine List.forall_mem_map.2 fun e he hFate => ?_
    obtain ⟨hOpen, hEnds⟩ := Option.or_eq_none_iff.1 hFate
    obtain ⟨a, hNow, hId⟩ := StoryBoard.lists_iff.1 (h.listed e he hOpen)
    exact StoryBoard.lists_iff.2 ⟨a, (hSame _ hEnds).trans hNow, hId⟩
  case labels =>
    intro id l
    rw [hLabels, hOpenings]
    constructor
    · rintro ⟨e, he, hIs⟩
      exact ⟨e.after d, List.mem_map_of_mem he, hIs⟩
    · rintro ⟨f, hf, hIs⟩
      obtain ⟨e, he, rfl⟩ := List.mem_map.1 hf
      exact ⟨e, he, hIs⟩

/-- A dealing that only revises what is there changes nothing that the dealings tell. -/
theorem quiet {n : Nat} (hBegun : d.begun? = none) (hOpened : d.opened? = none)
    (hFinalized : d.finalized? = none) (uses : s.supply.Uses n s'.supply)
    (hOutline : ∀ t, s'.state.outline? t = s.state.outline? t)
    (hLabel : ∀ id, s'.state.label? id = s.state.label? id) : Tallies (dealings ++ [d]) s' := by
  have hEnds (t : String) : d.ends? t = none := Dealing.ends?_of_quiet hBegun hFinalized
  refine h.append_singleton hOpened uses (fun t _ => hOutline t) ?made ?labels
  case made =>
    intro t fate a hEnd
    rw [hEnds] at hEnd
    cases hEnd
  case labels =>
    intro id l
    rw [hLabel, h.labels]
    simp only [Opening.after_of_ends?_eq_none (hEnds _)]

/-- A story that is begun has no spans, and those of the story that it replaces stay tracked. -/
theorem begun {n : Nat} {story : ActiveStory} {sessionId given : Option String}
    {metadata : Metadata}
    (hDealing : d = ⟨.createRoot story.storyId sessionId given metadata, .root (.ok story)⟩)
    (hNew : story.spanIds = []) (uses : s.supply.Uses n s'.supply)
    (hState : s'.state = s.state.setStory story) : Tallies (dealings ++ [d]) s' := by
  have hBegun : d.begun? = some story := hDealing ▸ rfl
  have hFinalized : d.finalized? = none := hDealing ▸ rfl
  have hEnds (t : String) : d.ends? t = if story.traceId = t then some .replaced else none :=
    Dealing.ends?_of_begun hBegun hFinalized
  refine h.append_singleton (hDealing ▸ rfl) uses ?same ?made ?labels
  case same =>
    intro t hNone
    rw [hEnds] at hNone
    rw [hState, StoryBoard.outline?_setStory, if_neg fun hHere => by simp [hHere] at hNone]
  case made =>
    intro t fate a hEnd hNow
    rw [hEnds] at hEnd
    split at hEnd
    case isTrue hHere =>
      rw [hState, StoryBoard.outline?_setStory, if_pos hHere] at hNow
      have hLast : BegunLast (dealings ++ [d]) t story [] :=
        ⟨⟨dealings, sessionId, given, metadata, by rw [hDealing]⟩, hHere, List.forall_mem_nil _⟩
      refine ⟨story, [], hLast, ?_⟩
      rw [← Option.some.inj hNow, openedFor_nil, List.map_nil, ← hNew]
      rfl
    case isFalse => cases hEnd
  case labels =>
    intro id l
    have hLabel : s'.state.label? id = s.state.label? id := by
      rw [hState]
      rfl
    rw [hLabel, h.labels]
    refine exists_congr fun e => and_congr_right fun _ => and_congr_left' (not_congr ?_)
    exact (Opening.fate_after_of_begun hBegun hFinalized e).symm

/-- With a finalized story its spans are gone. -/
theorem finalized {n : Nat} {t : String} {story : ActiveStory} (hBegun : d.begun? = none)
    (hOpened : d.opened? = none) (hFinalized : d.finalized? = some t)
    (known : s.state.active.get? t = some story) (uses : s.supply.Uses n s'.supply)
    (hState : s'.state = s.state.remove story) : Tallies (dealings ++ [d]) s' := by
  have hTrace : story.traceId = t := h.traceId_of_known known
  have hEnds (u : String) : d.ends? u = if t = u then some .finalized else none :=
    Dealing.ends?_of_finalized hFinalized hBegun
  refine h.append_singleton hOpened uses ?same ?made ?labels
  case same =>
    intro u hNone
    rw [hEnds] at hNone
    rw [hState, StoryBoard.outline?_remove, hTrace, if_neg fun hHere => by simp [hHere] at hNone]
  case made =>
    intro u fate a hEnd hNow
    rw [hEnds] at hEnd
    split at hEnd
    case isTrue hHere =>
      rw [hState, StoryBoard.outline?_remove, hTrace, if_pos hHere.symm] at hNow
      cases hNow
    case isFalse => cases hEnd
  case labels =>
    intro id l
    have hLists : id ∈ story.spanIds ↔
        ∃ e ∈ openings dealings, e.id = id ∧ e.traceId = t ∧ e.fate = none := by
      rw [← h.lists_iff, StoryBoard.Lists, known]
      simp
    have hAfter := Opening.fate_after_of_finalized hFinalized hBegun
    rw [hState, StoryBoard.label?_remove]
    split
    case isTrue hMem =>
      obtain ⟨f, hf, hId, hTold, hFate⟩ := hLists.1 hMem
      refine iff_of_false (Option.some_ne_none l).symm ?_
      rintro ⟨e, he, hNot, -, hIs⟩
      obtain rfl := h.eq_of_id_eq he hf (hIs.trans hId.symm)
      exact hNot ((hAfter e).2 (.inr ⟨hFate, hTold⟩))
    case isFalse hNone =>
      rw [h.labels]
      refine exists_congr fun e => and_congr_right fun he => ?_
      rw [Ne, Ne, hAfter]
      constructor
      · rintro ⟨hNot, hLabel, hId⟩
        refine ⟨?_, hLabel, hId⟩
        rintro (hFate | ⟨hFate, hTold⟩)
        · exact hNot hFate
        · exact hNone (hLists.2 ⟨e, he, hId, hTold, hFate⟩)
      · rintro ⟨hNot, hLabel, hId⟩
        exact ⟨fun hFate => hNot (.inl hFate), hLabel, hId⟩

/-- A span that is opened is tracked, and listed last by the story of its trace. -/
theorem opened {x : Opened} {story : ActiveStory} {kept : StorySpan} {visits : Option String}
    (hBegun : d.begun? = none) (hOpened : d.opened? = some x) (hFinalized : d.finalized? = none)
    (known : s.state.active.get? x.traceId = some story)
    (new : x.id = s.supply.ids s.supply.idsUsed) (hKept : kept.label = x.label)
    (uses : s.supply.Uses 1 s'.supply) (hState : s'.state = s.state.addSpan story kept visits) :
    Tallies (dealings ++ [d]) s' := by
  have hKnown := StoryBoard.outline?_of_get? known
  have hTrace : story.traceId = x.traceId := h.traceId_of_known known
  have hId : kept.id = x.id := congrArg SpanLabel.id hKept
  have hEnds (t : String) : d.ends? t = none := Dealing.ends?_of_quiet hBegun hFinalized
  have hOpenings := openings_append_singleton_of_opened hOpened hEnds dealings
  have hNew : ∀ e ∈ openings dealings, e.id ≠ x.id := fun e he => new ▸ h.id_ne_next he
  have hOutline (t : String) : s'.state.outline? t =
      if x.traceId = t then some { story.outline with spanIds := story.outline.spanIds ++ [x.id] }
      else s.state.outline? t := by
    rw [hState, StoryBoard.outline?_addSpan, hTrace, hId]
    rfl
  refine ⟨uses.fresh h.fresh, ?gave, ?distinct, ?made, ?listed, ?labels⟩
  case gave =>
    rw [hOpenings]
    refine List.forall_mem_append.2 ⟨fun e he => uses.gave (h.gave e he), ?_⟩
    rw [List.forall_mem_singleton, new]
    exact uses.gave_taken Nat.one_pos
  case distinct =>
    rw [hOpenings, List.map_append, List.nodup_append]
    refine ⟨h.distinct, List.nodup_singleton _, ?_⟩
    rintro id hMem other hLast rfl
    obtain ⟨e, he, rfl⟩ := List.mem_map.1 hMem
    exact hNew e he (List.mem_singleton.1 hLast)
  case made =>
    intro t a hNow
    rw [hOutline] at hNow
    split at hNow
    case isTrue hHere =>
      subst hHere
      obtain ⟨root, rest, hRoot, hOld⟩ := h.made _ _ hKnown
      refine ⟨root, rest ++ [d], hRoot.append_singleton (hEnds _), ?_⟩
      rw [← Option.some.inj hNow, openedFor_append_singleton_of_opened hOpened, List.map_append,
        hOld]
      rfl
    case isFalse hOther =>
      obtain ⟨root, rest, hRoot, rfl⟩ := h.made t a hNow
      refine ⟨root, rest ++ [d], hRoot.append_singleton (hEnds _), ?_⟩
      rw [openedFor_append_singleton_of_forall_ne]
      rintro y hy
      obtain rfl := Option.some.inj (hOpened.symm.trans hy)
      exact hOther
  case listed =>
    rw [hOpenings]
    refine List.forall_mem_append.2 ⟨?_, ?_⟩
    · intro e he hFate
      obtain ⟨a, hMade, hMem⟩ := StoryBoard.lists_iff.1 (h.listed e he hFate)
      rw [StoryBoard.lists_iff, hOutline]
      split
      case isTrue hHere =>
        obtain rfl := Option.some.inj (hKnown.symm.trans (hHere ▸ hMade))
        exact ⟨_, rfl, List.mem_append_left _ hMem⟩
      case isFalse => exact ⟨a, hMade, hMem⟩
    · rw [List.forall_mem_singleton, StoryBoard.lists_iff, hOutline, if_pos rfl]
      exact fun _ => ⟨_, rfl, List.mem_append_right _ (List.mem_singleton_self _)⟩
  case labels =>
    intro id l
    rw [hState, StoryBoard.label?_addSpan, hKept, hId, hOpenings]
    simp only [List.mem_append, List.mem_singleton, or_and_right, exists_or, exists_eq_left]
    split
    case isTrue hHere =>
      rw [Option.some_inj, iff_comm]
      refine ⟨?_, fun hLabel => .inr ⟨(Option.some_ne_none _).symm, hLabel, hHere⟩⟩
      rintro (⟨e, he, -, -, hOld⟩ | ⟨-, hLabel, -⟩)
      · exact absurd (hOld.trans hHere.symm) (hNew e he)
      · exact hLabel
    case isFalse hOther =>
      rw [h.labels, iff_comm]
      exact or_iff_left fun hIs => hOther hIs.2.2

theorem label?_setSpan_of_revises {id : String} {known changed : StorySpan}
    (hKnown : s.state.spans.get? id = some known) (same : Revises changed known) (other : String) :
    (s.state.setSpan changed).label? other = s.state.label? other := by
  have hLabel : changed.label = known.label := by
    rw [StorySpan.label, same.id, same.traceId, same.kind]
    rfl
  have hId : changed.id = id := same.id.trans (h.id_of_tracked hKnown)
  rw [StoryBoard.label?_setSpan, hId, hLabel]
  split
  case isTrue hSame => rw [← hSame, StoryBoard.label?_of_get? hKnown]
  case isFalse => rfl

theorem outline?_setStory_of_known {t : String} {story changed : ActiveStory}
    (known : s.state.active.get? t = some story) (same : changed.outline = story.outline)
    (other : String) : (s.state.setStory changed).outline? other = s.state.outline? other := by
  have hTrace : changed.traceId = t :=
    (congrArg StoryOutline.traceId same).trans (h.traceId_of_known known)
  rw [StoryBoard.outline?_setStory, hTrace, same]
  split
  case isTrue hSame => rw [← hSame, StoryBoard.outline?_of_get? known]
  case isFalse => rfl

end Tallies

theorem Served.tallies {o : Orchestrator} {c : Call} {response : Response}
    {dealings : List Dealing} {s s' : Session StoryBoard (Watched σ)}
    (hServed : Served o s c.request response s') (h : Tallies dealings s) :
    Tallies (dealings ++ [⟨c, response⟩]) s' := by
  generalize hCall : c.request = q at hServed
  have hRead (answer : Response) (hBegun : (Dealing.mk c answer).begun? = none)
      (hOpened : (Dealing.mk c answer).opened? = none)
      (hFinalized : (Dealing.mk c answer).finalized? = none) :
      Tallies (dealings ++ [⟨c, answer⟩]) s :=
    h.quiet (n := 0) hBegun hOpened hFinalized ⟨rfl, rfl⟩ (fun _ => rfl) fun _ => rfl
  cases hServed with
  | rootCreated isRoot _ uses =>
      rw [Call.eq_createRoot_of_request hCall, ← isRoot.storyId]
      exact h.begun rfl isRoot.spanIds uses rfl
  | rootRefused uses => exact h.quiet rfl rfl rfl uses (fun _ => rfl) fun _ => rfl
  | openUnknown _ => exact hRead _ rfl rfl rfl
  | @spanOpened t _ story _ _ _ _ _ _ known uses =>
      obtain ⟨span, rfl, rfl⟩ := Call.exists_of_request_openSpan hCall
      have hTrace : story.traceId = t := h.traceId_of_known known
      refine h.opened rfl rfl rfl known rfl ?_ uses rfl
      rw [label_storySpan, hTrace]
      rfl
  | spanRefused uses => exact h.quiet rfl rfl rfl uses (fun _ => rfl) fun _ => rfl
  | spanUnknown _ _ => exact hRead _ rfl rfl rfl
  | revised _ hKnown same _ _ uses =>
      exact h.quiet rfl rfl rfl uses (fun _ => rfl) (h.label?_setSpan_of_revises hKnown same)
  | closed _ hKnown same _ _ _ _ uses =>
      exact h.quiet rfl rfl rfl uses (fun _ => rfl) (h.label?_setSpan_of_revises hKnown same)
  | linkUnknown _ => exact hRead _ rfl rfl rfl
  | linked known =>
      exact h.quiet (n := 0) rfl rfl rfl ⟨rfl, rfl⟩ (h.outline?_setStory_of_known known rfl)
        fun _ => rfl
  | finalizeUnknown _ => exact hRead _ rfl rfl rfl
  | finalizeRefused uses => exact h.quiet rfl rfl rfl uses (fun _ => rfl) fun _ => rfl
  | finalized known _ uses =>
      rw [Call.eq_finalize_of_request hCall]
      exact h.finalized rfl rfl rfl known uses rfl

/-- Whatever is called and refused, the board is as the dealings tell. -/
theorem Tallies.dealAll [Sink σ] {dealings : List Dealing} {s : Session StoryBoard (Watched σ)}
    (h : Tallies dealings s) (o : Orchestrator) (calls : List Call) :
    Tallies (dealings ++ (o.dealAll calls s).1) (o.dealAll calls s).2 :=
  dealAll_induction (fun h hServed => hServed.tallies h) h calls

theorem tallies_of_dealAll [Sink σ] {o : Orchestrator} {sink : σ} {supply : Supply}
    (hFresh : supply.Fresh) {calls : List Call} {dealings : List Dealing}
    {s : Session StoryBoard (Watched σ)}
    (hRun : o.dealAll calls (session sink supply) = (dealings, s)) : Tallies dealings s := by
  have hAll := (tallies_session sink hFresh).dealAll o calls
  rwa [hRun] at hAll

end Orchestrator

end StoryTrace

import StoryTrace.Proofs.Story.Storing
import StoryTrace.Proofs.Story.Tally

/-!
# Stores that mirror a board

An orchestrator whose store accepts everything and receives nothing else: the store holds the spans
that were opened, in the order of their creation, a record for every tracked span that tells it, and
for every trace the first root that was begun for it.
-/

namespace StoryTrace

namespace Orchestrator

open StorySpan

/-! ## The order of the records -/

/-- What of a record never changes and says where it belongs. -/
structure SpanStamp where
  id : String
  traceId : String
  startedAt : Instant

def stamp (record : Span) : SpanStamp := ⟨record.id, record.traceId, record.startedAt⟩

def stamps (store : Store) : List SpanStamp := store.spans.map stamp

theorem stamp_close (record : Span) (c : Closure) : stamp (record.close c) = stamp record := by
  unfold Span.close
  split <;> rfl

theorem stamps_closeSpan {store : Store} (h : store.Indexed) (c : Closure) :
    stamps (store.closeSpan c) = stamps store := by
  rw [stamps, h.spans_closeSpan, List.map_map]
  exact List.map_congr_left fun record _ => stamp_close record c

theorem stamp_span (p : SpanPlan) (a : ActiveStory) (id : String) (started ended : Instant) :
    stamp (p.span a id started ended) = ⟨id, a.traceId, started⟩ := by
  unfold SpanPlan.span
  cases p.output <;> rfl

/-- The store holds a record for every span that was opened, in the order of their creation, and
none of them has started later than the next reading of the clock. -/
structure Orderly (dealings : List Dealing) (s : Session StoryBoard (Watched Store)) : Prop where
  steady : ∀ i j, i ≤ j → (s.supply.clock i).ble (s.supply.clock j) = true
  indexed : s.sink.sink.Indexed
  opened : (stamps s.sink.sink).map (fun x => (x.id, x.traceId)) =
    (dealings.filterMap Dealing.opened?).map fun x => (x.id, x.traceId)
  sorted : (stamps s.sink.sink).Pairwise fun x y => x.startedAt.ble y.startedAt = true
  past : ∀ x ∈ stamps s.sink.sink, x.startedAt.ble (s.supply.clock s.supply.readings) = true

section

variable {dealings : List Dealing} {d : Dealing} {s s' : Session StoryBoard (Watched Store)}

theorem orderly_session {supply : Supply}
    (hClock : ∀ i j, i ≤ j → (supply.clock i).ble (supply.clock j) = true) :
    Orderly [] (session Store.empty supply) where
  steady := hClock
  indexed := Store.indexed_empty
  opened := rfl
  sorted := List.Pairwise.nil
  past := List.forall_mem_nil _

theorem Tallies.id_ne_next_of_opened (h : Tallies dealings s) {x : Opened}
    (hx : x ∈ dealings.filterMap Dealing.opened?) : x.id ≠ s.supply.ids s.supply.idsUsed := by
  rw [← map_toOpened_openings] at hx
  obtain ⟨e, he, rfl⟩ := List.mem_map.1 hx
  exact h.id_ne_next he

namespace Orderly

variable (h : Orderly dealings s)
include h

theorem append_singleton (hOpened : d.opened? = none) (indexed : s'.sink.sink.Indexed)
    (same : stamps s'.sink.sink = stamps s.sink.sink) (ticks : s.supply.Ticks s'.supply) :
    Orderly (dealings ++ [d]) s' where
  steady := ticks.clock ▸ h.steady
  indexed := indexed
  opened := by rw [same, h.opened, List.filterMap_append]; simp [hOpened]
  sorted := same ▸ h.sorted
  past := by
    rw [same, ticks.clock]
    exact fun x hx => Instant.ble_trans (h.past x hx) (h.steady _ _ ticks.readings)

theorem ne_next (hTallies : Tallies dealings s) :
    ∀ record ∈ s.sink.sink.spans, record.id ≠ s.supply.ids s.supply.idsUsed := by
  intro record hRecord
  have hMem := List.mem_map_of_mem (f := fun x : SpanStamp => (x.id, x.traceId))
    (List.mem_map_of_mem (f := stamp) hRecord)
  rw [← stamps, h.opened] at hMem
  obtain ⟨x, hx, hPair⟩ := List.mem_map.1 hMem
  have hId : x.id = record.id := congrArg Prod.fst hPair
  exact hId ▸ hTallies.id_ne_next_of_opened hx

theorem append_opened (hTallies : Tallies dealings s) {x : Opened} (hOpened : d.opened? = some x)
    {record : Span} (hStamp : stamp record =
      ⟨x.id, x.traceId, s.supply.clock s.supply.readings⟩)
    (new : x.id = s.supply.ids s.supply.idsUsed)
    (store : s'.sink.sink = s.sink.sink.insertSpan record) (ticks : s.supply.Ticks s'.supply) :
    Orderly (dealings ++ [d]) s' := by
  have hId : record.id = x.id := congrArg SpanStamp.id hStamp
  have hStamps : stamps s'.sink.sink =
      stamps s.sink.sink ++ [⟨x.id, x.traceId, s.supply.clock s.supply.readings⟩] := by
    rw [store, stamps, h.indexed.spans_insertSpan_of_new, List.map_append, ← hStamp]
    · rfl
    · exact hId ▸ new ▸ h.ne_next hTallies
  refine ⟨ticks.clock ▸ h.steady, store ▸ h.indexed.insertSpan record, ?opened, ?sorted, ?past⟩
  case opened => rw [hStamps, List.map_append, h.opened]; simp [hOpened]
  case sorted =>
    rw [hStamps, List.pairwise_append]
    refine ⟨h.sorted, List.pairwise_singleton .., fun y hy z hz => ?_⟩
    rw [List.mem_singleton.1 hz]
    exact h.past y hy
  case past =>
    rw [hStamps, ticks.clock]
    refine List.forall_mem_append.2 ⟨fun y hy => ?_, List.forall_mem_singleton.2 ?_⟩
    · exact Instant.ble_trans (h.past y hy) (h.steady _ _ ticks.readings)
    · exact h.steady _ _ ticks.readings

end Orderly

theorem Stored.orderly (hStored : Stored s d s') (hTallies : Tallies dealings s)
    (h : Orderly dealings s) : Orderly (dealings ++ [d]) s' := by
  cases hStored with
  | quiet _ hOpened _ _ store supply =>
      exact h.append_singleton hOpened (store ▸ h.indexed) (congrArg stamps store)
        ⟨congrArg _ supply, Nat.le_of_eq (congrArg _ supply.symm)⟩
  | begun _ _ store ticks =>
      refine h.append_singleton rfl (store ▸ h.indexed.receive _) ?_ ticks
      rw [store, stamps, Store.spans_receive_createTrace, stamps]
  | @opened traceId call story id _ started ended _ _ _ known new now _ _ store ticks =>
      refine h.append_opened hTallies (x := ⟨traceId, id, call⟩) rfl ?_ new store ticks
      rw [stamp_span, hTallies.traceId_of_known known, now]
  | ended _ _ _ _ _ _ store ticks =>
      exact h.append_singleton rfl (store ▸ h.indexed.closeSpan _)
        (store ▸ stamps_closeSpan h.indexed _) ticks
  | revised _ _ _ _ _ _ store ticks =>
      exact h.append_singleton rfl (store ▸ h.indexed) (congrArg stamps store) ticks
  | finalized _ store ticks =>
      exact h.append_singleton rfl (store ▸ h.indexed) (store ▸ rfl) ticks

/-! ## The records of tracked spans -/

theorem revisions_append_of_ne {id : String} (h : d.call.request.revises? ≠ some id)
    (dealings : List Dealing) : revisions id (dealings ++ [d]) = revisions id dealings := by
  simp [revisions, h]

theorem revisions_append_of_eq {id : String} (h : d.call.request.revises? = some id)
    (dealings : List Dealing) :
    revisions id (dealings ++ [d]) = revisions id dealings ++ [d.call] := by
  simp [revisions, h]

/-- Every tracked span has a record that tells it after the calls for it. -/
def Mirrored (dealings : List Dealing) (s : Session StoryBoard (Watched Store)) : Prop :=
  ∀ id live, s.state.spans.get? id = some live →
    ∃ record, s.sink.sink.span? id = some record ∧ Tells (revisions id dealings) live record

theorem mirrored_session (supply : Supply) : Mirrored [] (session Store.empty supply) :=
  fun _ _ h => nomatch h

namespace Mirrored

variable (h : Mirrored dealings s)
include h

/-- A span that the call does not name is told as before if its record stays. -/
theorem kept {id : String} {live : StorySpan} (hLive : s.state.spans.get? id = some live)
    (hNot : d.call.request.revises? ≠ some id)
    (same : s'.sink.sink.span? id = s.sink.sink.span? id) :
    ∃ record, s'.sink.sink.span? id = some record ∧
      Tells (revisions id (dealings ++ [d])) live record := by
  rw [revisions_append_of_ne hNot, same]
  exact h id live hLive

theorem opened (hOrderly : Orderly dealings s) (noCall : d.call.request.revises? = none)
    {call : SpanCall} {story : ActiveStory} {id : String} {kept : StorySpan}
    {started ended first last : Instant}
    (hKept : kept = call.plan.storySpan story id first last)
    (spans : s'.state.spans = s.state.spans.put kept.id kept)
    (store : s'.sink.sink = s.sink.sink.insertSpan (call.plan.span story id started ended)) :
    Mirrored (dealings ++ [d]) s' := by
  intro other live hLive
  have hId : kept.id = id := hKept ▸ id_storySpan ..
  have hSpan : s'.sink.sink.span? other =
      if id = other then some (call.plan.span story id started ended)
      else s.sink.sink.span? other := by
    rw [store, hOrderly.indexed.span?_insertSpan, id_span]
  rw [spans, hId, Table.get?_put] at hLive
  split at hLive
  case isTrue hHere =>
    obtain rfl := Option.some.inj hLive
    exact ⟨_, hSpan.trans (if_pos hHere), hKept ▸ Tells.opened ..⟩
  case isFalse hOther =>
    exact h.kept hLive (noCall ▸ (Option.some_ne_none _).symm) (hSpan.trans (if_neg hOther))

/-- The span that the call names is told by what has become of its record. -/
theorem changed {id : String} {known changed : StorySpan} (hId : changed.id = id)
    (spans : s'.state.spans = s.state.spans.put changed.id changed)
    (hRevises : d.call.request.revises? = some id)
    (hKnown : s.state.spans.get? id = some known)
    (here : ∀ record, s.sink.sink.span? id = some record →
      Tells (revisions id dealings) known record →
        ∃ after, s'.sink.sink.span? id = some after ∧
          Tells (revisions id dealings ++ [d.call]) changed after)
    (others : ∀ other, id ≠ other → s'.sink.sink.span? other = s.sink.sink.span? other) :
    Mirrored (dealings ++ [d]) s' := by
  intro other live hLive
  rw [spans, hId, Table.get?_put] at hLive
  split at hLive
  case isTrue hHere =>
    obtain rfl := Option.some.inj hLive
    obtain ⟨record, hRecord, hTells⟩ := h id known hKnown
    rw [← hHere, revisions_append_of_eq hRevises]
    exact here record hRecord hTells
  case isFalse hOther =>
    exact h.kept hLive (hRevises ▸ fun hSame => hOther (Option.some.inj hSame))
      (others other hOther)

end Mirrored

theorem Stored.mirrored (hStored : Stored s d s') (hTallies : Tallies dealings s)
    (hOrderly : Orderly dealings s) (h : Mirrored dealings s) : Mirrored (dealings ++ [d]) s' := by
  have hKeyed {id : String} {known : StorySpan} (hKnown : s.state.spans.get? id = some known) :
      known.id = id := hTallies.id_of_tracked hKnown
  cases hStored with
  | quiet _ _ unknown spans store _ =>
      intro id live hLive
      rw [spans] at hLive
      refine h.kept hLive (fun hRevises => ?_) (store ▸ rfl)
      rw [unknown id hRevises] at hLive
      cases hLive
  | begun _ spans store _ =>
      intro id live hLive
      rw [spans] at hLive
      exact h.kept hLive (Option.some_ne_none _).symm (store ▸ Store.span?_receive_createTrace ..)
  | opened _ _ _ hKept spans store _ => exact h.opened hOrderly rfl hKept spans store
  | @ended closure c known changed _ hRevises hKnown isOpen hEnds spans store _ =>
      refine h.changed (hEnds.matter.id.trans (hKeyed hKnown)) spans hRevises hKnown ?here ?others
      case here =>
        -- The span is open on the board, so its record is open and accepts the closure.
        intro record hRecord hTells
        obtain ⟨hOpen, -⟩ := hTells.untouched isOpen
        have hSpan : closure.spanId = record.id :=
          ((hOrderly.indexed.span?_eq_some_iff).1 hRecord).2.symm
        refine ⟨record.closedBy closure, ?_, hTells.ended isOpen hEnds⟩
        rw [store, hOrderly.indexed.span?_closeSpan, hRecord, Option.map_some,
          Span.close_of_isOpen hOpen hSpan]
      case others =>
        intro other hOther
        rw [store, hOrderly.indexed.span?_closeSpan_of_ne hOther]
  | revised hRevises hKnown isEnded matter ends spans store _ =>
      refine h.changed (matter.id.trans (hKeyed hKnown)) spans hRevises hKnown ?here
        fun _ _ => store ▸ rfl
      case here =>
        intro record hRecord hTells
        exact ⟨record, store ▸ hRecord, hTells.revised isEnded _ matter ends⟩
  | finalized spans store _ =>
      intro id live hLive
      rw [spans, Table.get?_foldl_erase] at hLive
      split at hLive
      case isTrue => cases hLive
      case isFalse => exact h.kept hLive (Option.some_ne_none _).symm (store ▸ rfl)

/-! ## The traces of roots -/

theorem rootsOf_append (traceId : String) (before after : List Dealing) :
    rootsOf traceId (before ++ after) = rootsOf traceId before ++ rootsOf traceId after := by
  simp [rootsOf]

theorem rootsOf_append_of_root?_eq_none (h : d.root? = none) (traceId : String)
    (dealings : List Dealing) : rootsOf traceId (dealings ++ [d]) = rootsOf traceId dealings := by
  simp [rootsOf, h]

/-- The trace tells the first of the roots, and there is none without a root. -/
inductive TellsFirst : List Root → Option Trace → Prop where
  | none : TellsFirst [] none
  | first {root : Root} {rest : List Root} {t : Trace} (told : root.Told t) :
      TellsFirst (root :: rest) (some t)

theorem TellsFirst.exists_told {root : Root} {rest : List Root} {trace : Option Trace}
    (h : TellsFirst (root :: rest) trace) : ∃ t, trace = some t ∧ root.Told t := by
  cases h with
  | first told => exact ⟨_, rfl, told⟩

theorem TellsFirst.append {roots more : List Root} {trace next : Option Trace}
    (h : TellsFirst roots trace) (hNext : TellsFirst more next) :
    TellsFirst (roots ++ more) (trace.or next) := by
  cases h with
  | none => exact hNext
  | first told => exact .first told

/-- An update that only gives an output leaves what a trace tells of its root. -/
theorem TellsFirst.revise {roots : List Root} {trace : Option Trace} (h : TellsFirst roots trace)
    (id : String) (output : Option Json) :
    TellsFirst roots (trace.map fun t => if t.id = id then t.revise output [] else t) := by
  cases h with
  | none => exact .none
  | @first root rest t told =>
      rw [Option.map_some]
      split
      case isTrue => exact .first (told.revise output)
      case isFalse => exact .first told

/-- Every trace of the store tells the first root that was created for it. -/
def Traced (dealings : List Dealing) (s : Session StoryBoard (Watched Store)) : Prop :=
  ∀ traceId, TellsFirst (rootsOf traceId dealings) (s.sink.sink.trace? traceId)

theorem Stored.traced (hStored : Stored s d s') (h : Traced dealings s) :
    Traced (dealings ++ [d]) s' := by
  intro traceId
  have hOld := h traceId
  cases hStored with
  | quiet noRoot _ _ _ store _ =>
      rwa [rootsOf_append_of_root?_eq_none noRoot, store]
  | @begun root _ _ _ created createdAt _ _ store _ =>
      rw [rootsOf_append, store, Store.trace?_receive_createTrace]
      refine hOld.append ?_
      have hId : (root.trace created createdAt).id = root.story.traceId := rfl
      by_cases hHere : root.story.traceId = traceId
      · simpa [rootsOf, Dealing.root?, hHere, hId] using .first (root.told_trace created createdAt)
      · simpa [rootsOf, Dealing.root?, hHere, hId] using .none
  | opened _ _ _ _ _ store _ =>
      rwa [rootsOf_append_of_root?_eq_none rfl, store, Store.trace?_insertSpan]
  | ended _ _ _ _ _ _ store _ =>
      rwa [rootsOf_append_of_root?_eq_none rfl, store, Store.trace?_closeSpan]
  | revised _ _ _ _ _ _ store _ =>
      rwa [rootsOf_append_of_root?_eq_none rfl, store]
  | @finalized named _ _ _ _ output _ _ _ store _ =>
      have hTrace : s'.sink.sink.trace? traceId =
          (s.sink.sink.reviseTrace named (some output) []).trace? traceId :=
        congrArg (·.trace? traceId) store
      rw [rootsOf_append_of_root?_eq_none rfl, hTrace, Store.trace?_reviseTrace]
      exact hOld.revise named _

/-! ## Spans before the root -/

/-- At no time was a span opened for a trace that had no root yet. -/
def RootedFirst (dealings : List Dealing) : Prop :=
  ∀ traceId before, before <+: dealings → rootsOf traceId before = [] →
    openedFor traceId before = []

theorem Tallies.rootsOf_ne_nil (h : Tallies dealings s) {traceId : String} {story : ActiveStory}
    (known : s.state.active.get? traceId = some story) : rootsOf traceId dealings ≠ [] := by
  obtain ⟨root, rest, hBegun, -⟩ := h.made traceId _ (StoryBoard.outline?_of_get? known)
  obtain ⟨before, sessionId, given, metadata, hSplit⟩ := hBegun.split
  rw [hSplit, ← List.singleton_append, rootsOf_append, rootsOf_append]
  simp [rootsOf, Dealing.root?, hBegun.named]

theorem Stored.known_of_opened (h : Stored s d s') {x : Opened} (hOpened : d.opened? = some x) :
    ∃ story, s.state.active.get? x.traceId = some story := by
  cases h with
  | quiet _ hNone _ _ _ _ =>
      rw [hNone] at hOpened
      cases hOpened
  | opened known _ _ _ _ _ _ =>
      cases hOpened
      exact ⟨_, known⟩
  | begun _ _ _ _ => cases hOpened
  | ended _ _ _ _ _ _ _ _ => cases hOpened
  | revised _ _ _ _ _ _ _ _ => cases hOpened
  | finalized _ _ _ => cases hOpened

theorem Stored.rootedFirst (hStored : Stored s d s') (hTallies : Tallies dealings s)
    (h : RootedFirst dealings) : RootedFirst (dealings ++ [d]) := by
  intro traceId before hPrefix hNone
  rcases List.prefix_concat_iff.1 hPrefix with rfl | hEarlier
  case inr => exact h traceId before hEarlier hNone
  case inl =>
    rw [rootsOf_append, List.append_eq_nil_iff] at hNone
    rw [openedFor_append_singleton_of_forall_ne]
    · exact h traceId dealings List.prefix_rfl hNone.1
    · rintro x hOpened rfl
      obtain ⟨story, known⟩ := hStored.known_of_opened hOpened
      exact hTallies.rootsOf_ne_nil known hNone.1

/-- The board is as the dealings tell, and the store mirrors it. -/
structure Mirrors (dealings : List Dealing) (s : Session StoryBoard (Watched Store)) : Prop where
  tallies : Tallies dealings s
  orderly : Orderly dealings s
  mirrored : Mirrored dealings s
  traced : Traced dealings s
  rootedFirst : RootedFirst dealings

theorem Mirrors.respond (h : Mirrors dealings s) (o : Orchestrator) (c : Call) :
    Mirrors (dealings ++ [⟨c, (o.respond c.request s).1⟩]) (o.respond c.request s).2 := by
  have hStored := stored_respond o c s
  exact ⟨(served_respond o c.request s).tallies h.tallies, hStored.orderly h.tallies h.orderly,
    hStored.mirrored h.tallies h.orderly h.mirrored, hStored.traced h.traced,
    hStored.rootedFirst h.tallies h.rootedFirst⟩

theorem mirrors_of_dealAll {o : Orchestrator} {supply : Supply} (hFresh : supply.Fresh)
    (hClock : ∀ i j, i ≤ j → (supply.clock i).ble (supply.clock j) = true) {calls : List Call}
    (hRun : o.dealAll calls (session Store.empty supply) = (dealings, s)) :
    Mirrors dealings s := by
  have hStart : Mirrors [] (session Store.empty supply) :=
    ⟨tallies_session _ hFresh, orderly_session hClock, mirrored_session supply, fun _ => .none,
      fun _ before hPrefix _ => List.prefix_nil.1 hPrefix ▸ rfl⟩
  have hAll := dealAll_induction_respond (o := o) (fun c h => h.respond o c) hStart calls
  rwa [hRun] at hAll

end

end Orchestrator

end StoryTrace

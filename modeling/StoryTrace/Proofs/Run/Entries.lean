import Mathlib.Data.List.Chain
import StoryTrace.Proofs.Run.Map
import StoryTrace.Proofs.Run.Uses

/-!
# Run maps as their uses tell

Whatever a run map is used for, with whatever arguments, its entries are what the uses tell: a run
keeps its trace and its span until it is forgotten, the span is closed and opened again by turns,
and a trace is new to a run exactly if no run has joined it since it was last released.
-/

namespace StoryTrace.RunMap

variable {m : RunMap} {run : RunId}

/-! ## What a call does -/

theorem lookup_filter_ne (runs : List (RunId × RunEntry)) (run other : RunId) :
    (runs.filter (·.1 ≠ run)).lookup other = if other = run then none else runs.lookup other := by
  induction runs with
  | nil => simp
  | cons x rest ih =>
      obtain ⟨k, v⟩ := x
      by_cases hRun : k = run
      · subst hRun
        rw [List.filter_cons_of_neg (by simp), ih]
        by_cases hOther : other = k
        · simp [hOther]
        · simp [hOther, List.lookup_cons, beq_eq_false_iff_ne.2 hOther]
      · rw [List.filter_cons_of_pos (by simpa using hRun)]
        by_cases hOther : other = k
        · simp [hOther, hRun]
        · simp only [List.lookup_cons, beq_eq_false_iff_ne.2 hOther, ih]

theorem find?_forget (m : RunMap) (run other : RunId) (release : Bool) :
    (m.forget run release).find? other = if other = run then none else m.find? other := by
  cases hFind : m.find? run with
  | none =>
      simp only [forget, hFind]
      split
      · next hOther => rw [hOther, hFind]
      · rfl
  | some e =>
      simp only [forget, hFind]
      exact lookup_filter_ne m.runs run other

/-- All that a use can do to a map. -/
inductive Answered (m : RunMap) : Use → RunMap → Prop where
  | assigned {run : RunId} {parent : Option RunId} {policy : TracePolicy} {fresh traceId : String}
      (unknown : m.find? run = none) :
      Answered m
        ⟨.resolve run parent policy fresh, .resolved ⟨traceId, !m.traces.contains traceId⟩⟩
        { m.addTrace traceId with runs := (run, ⟨traceId, none⟩) :: m.runs }
  | known {run : RunId} {parent : Option RunId} {policy : TracePolicy} {fresh : String}
      {e : RunEntry} (found : m.find? run = some e) :
      Answered m ⟨.resolve run parent policy fresh, .resolved ⟨e.traceId, false⟩⟩ m
  | registered {run : RunId} {traceId spanId : String} {type : SpanType}
      (found : m.find? run = some ⟨traceId, none⟩) :
      Answered m ⟨.register run spanId type, .registered true⟩
        (m.update run fun e => { e with span := some ⟨spanId, type, true⟩ })
  | notRegistered {run : RunId} {spanId : String} {type : SpanType} :
      Answered m ⟨.register run spanId type, .registered false⟩ m
  | closed {run : RunId} {traceId spanId : String} {type : SpanType}
      (found : m.find? run = some ⟨traceId, some ⟨spanId, type, true⟩⟩) :
      Answered m ⟨.close run, .closed (some ⟨traceId, spanId, type⟩)⟩ (m.setOpen run false)
  | notClosed {run : RunId} : Answered m ⟨.close run, .closed none⟩ m
  | reopened {run : RunId} {traceId spanId : String} {type : SpanType}
      (found : m.find? run = some ⟨traceId, some ⟨spanId, type, false⟩⟩) :
      Answered m ⟨.reopen run, .reopened true⟩ (m.setOpen run true)
  | notReopened {run : RunId} : Answered m ⟨.reopen run, .reopened false⟩ m
  | forgotten {run : RunId} {release : Bool} :
      Answered m ⟨.forget run release, .forgotten⟩ (m.forget run release)

theorem answered_reply (m : RunMap) (c : Call) : Answered m ⟨c, (m.reply c).1⟩ (m.reply c).2 := by
  cases c with
  | resolve run parent policy fresh =>
      simp only [reply]
      cases hFind : m.find? run with
      | none =>
          rw [resolve_of_unknown hFind]
          exact .assigned hFind
      | some e =>
          have hKnown : m.resolve run parent (policy.join fresh) = (⟨e.traceId, false⟩, m) := by
            simp [resolve, hFind, traceFor, traceId?]
          rw [hKnown]
          exact .known hFind
  | register =>
      simp only [reply, register]
      split
      · next hFind => exact .registered hFind
      · exact .notRegistered
  | close =>
      simp only [reply]
      split
      · next hClose =>
          obtain ⟨traceId, spanId, type, hFind, hEq⟩ := close_eq_some_iff.1 hClose
          obtain ⟨rfl, rfl⟩ := Prod.mk.inj hEq
          exact .closed hFind
      · exact .notClosed
  | reopen =>
      simp only [reply, reopen]
      split
      · next hFind => exact .reopened hFind
      · exact .notReopened
  | forget => exact .forgotten

theorem map_fst_update (m : RunMap) (run : RunId) (f : RunEntry → RunEntry) :
    (m.update run f).runs.map Prod.fst = m.runs.map Prod.fst := by
  rw [update, List.map_map]
  apply List.map_congr_left
  intro e _
  by_cases hRun : e.1 = run <;> simp [hRun]

namespace Answered

variable {m' : RunMap} {u : Use}

/-- The other runs are left alone. -/
theorem find?_of_ne (h : Answered m u m') (hOther : run ≠ u.call.run) :
    m'.find? run = m.find? run := by
  cases h with
  | assigned =>
      rw [Call.run] at hOther
      simp [find?, List.lookup_cons, beq_eq_false_iff_ne.2 hOther]
  | registered | closed | reopened => exact (find?_update ..).trans (if_neg hOther)
  | forgotten => exact (find?_forget ..).trans (if_neg hOther)
  | known | notRegistered | notClosed | notReopened => rfl

theorem eq_none_of_forgets (h : Answered m u m') (hForgets : u.call.forgets = true) :
    m'.find? u.call.run = none := by
  cases h with
  | forgotten => exact (find?_forget ..).trans (if_pos rfl)
  | _ => cases hForgets

/-- What is closed is the open span of the entry. -/
theorem eq_of_closed (h : Answered m u m') {taken : ClosedRun}
    (hReply : u.reply = .closed (some taken)) :
    m.find? u.call.run = some ⟨taken.traceId, some ⟨taken.spanId, taken.type, true⟩⟩ := by
  cases h with
  | closed found =>
      cases hReply
      exact found
  | _ => cases hReply

/-- No run is mapped twice. -/
theorem nodup (h : Answered m u m') (hNodup : (m.runs.map Prod.fst).Nodup) :
    (m'.runs.map Prod.fst).Nodup := by
  cases h with
  | assigned unknown =>
      refine List.nodup_cons.2 ⟨fun hMem => ?_, hNodup⟩
      obtain ⟨e, he, hRun⟩ := List.mem_map.1 hMem
      exact find?_eq_none_iff.1 unknown e he hRun
  | registered | closed | reopened => exact (map_fst_update ..).symm ▸ hNodup
  | forgotten =>
      unfold forget
      split
      · exact hNodup
      · exact (List.filter_sublist.map Prod.fst).nodup hNodup
  | known | notRegistered | notClosed | notReopened => exact hNodup

/-- A trace is met from when a run that was not mapped joins it until it is released. -/
theorem mem_traces (h : Answered m u m') (traceId : String) :
    traceId ∈ m'.traces ↔
      (u.reply.traceId? = some traceId ∧ m.find? u.call.run = none) ∨
        traceId ∈ m.traces ∧
          ¬ (u.call.releases = true ∧ m.traceId? u.call.run = some traceId) := by
  cases h with
  | assigned unknown =>
      simp [mem_traces_addTrace, Reply.traceId?, Call.run, Call.releases, unknown,
        eq_comm (a := traceId)]
  | known found => simp [Reply.traceId?, Call.run, Call.releases, found]
  | @forgotten run release =>
      simp only [forget, Reply.traceId?, Call.releases, Call.run, traceId?]
      cases hFind : m.find? run with
      | none => simp
      | some e => cases release <;> simp [eq_comm (a := traceId)]
  | _ => simp [Reply.traceId?, Call.releases, setOpen, update]

end Answered

/-! ## What the uses tell -/

/-- The entry of a run is as its uses since it was last forgotten tell. -/
structure ToldBy (uses : List Use) (entry : Option RunEntry) : Prop where
  traceId : ∀ id, entry.map (·.traceId) = some id ↔ ∃ u ∈ uses, u.reply.traceId? = some id
  span : ∀ id type, (∃ isOpen, entry.bind (·.span) = some ⟨id, type, isOpen⟩) ↔
    ∃ u ∈ uses, u.registration? = some (id, type)
  first : (uses.filterMap (·.reply.turn?)).head? = (entry.bind (·.span)).map fun _ => .registered
  last : (uses.filterMap (·.reply.turn?)).getLast?.map Turn.opens =
    (entry.bind (·.span)).map (·.isOpen)
  alternating : (uses.filterMap (·.reply.turn?)).IsChain Turn.Precedes

theorem toldBy_nil : ToldBy [] none := by
  constructor <;> simp

theorem exists_mem_append_singleton {uses : List Use} {u : Use} {tells : Use → Prop} :
    (∃ v ∈ uses ++ [u], tells v) ↔ (∃ v ∈ uses, tells v) ∨ tells u := by
  simp [or_and_right, exists_or]

namespace ToldBy

variable {uses : List Use} {u : Use}

/-- An unsuccessful call, or one for a run that is mapped already, tells nothing new. -/
theorem quiet {entry : Option RunEntry} (h : ToldBy uses entry)
    (hTrace : ∀ id, u.reply.traceId? = some id → entry.map (·.traceId) = some id)
    (hSpan : u.registration? = none) (hTurn : u.reply.turn? = none) :
    ToldBy (uses ++ [u]) entry := by
  have hTurns : (uses ++ [u]).filterMap (·.reply.turn?) = uses.filterMap (·.reply.turn?) := by
    simp [hTurn]
  refine ⟨fun traceId => ?_, fun id type => ?_, hTurns ▸ h.first, hTurns ▸ h.last,
    hTurns ▸ h.alternating⟩
  · rw [exists_mem_append_singleton, ← h.traceId]
    exact ⟨.inl, fun hTold => hTold.elim id (hTrace traceId)⟩
  · rw [exists_mem_append_singleton, ← h.span, hSpan]
    simp

/-- A run that is not mapped is assigned a trace. -/
theorem assigned {traceId : String} (h : ToldBy uses none)
    (hTrace : u.reply.traceId? = some traceId) (hSpan : u.registration? = none)
    (hTurn : u.reply.turn? = none) :
    ToldBy (uses ++ [u]) (some ⟨traceId, none⟩) := by
  have hTurns : (uses ++ [u]).filterMap (·.reply.turn?) = uses.filterMap (·.reply.turn?) := by
    simp [hTurn]
  refine ⟨fun id => ?_, fun id type => ?_, hTurns ▸ h.first, hTurns ▸ h.last,
    hTurns ▸ h.alternating⟩
  · rw [exists_mem_append_singleton, ← h.traceId, hTrace]
    simp
  · rw [exists_mem_append_singleton, ← h.span, hSpan]
    simp

/-- A span with a first turn is registered for a run that has none. -/
theorem registered {traceId spanId : String} {type : SpanType}
    (h : ToldBy uses (some ⟨traceId, none⟩)) (hTrace : u.reply.traceId? = none)
    (hSpan : u.registration? = some (spanId, type)) (hTurn : u.reply.turn? = some .registered) :
    ToldBy (uses ++ [u]) (some ⟨traceId, some ⟨spanId, type, true⟩⟩) := by
  have hTurns : (uses ++ [u]).filterMap (·.reply.turn?) = [.registered] := by
    have hNone : uses.filterMap (·.reply.turn?) = [] := List.head?_eq_none_iff.1 h.first
    simp [hNone, hTurn]
  refine ⟨fun id => ?_, fun id other => ?_, by rw [hTurns]; rfl, by rw [hTurns]; rfl,
    hTurns ▸ List.isChain_singleton _⟩
  · rw [exists_mem_append_singleton, ← h.traceId, hTrace]
    simp
  · rw [exists_mem_append_singleton, ← h.span, hSpan]
    simp

/-- An open span is closed, or a closed one is opened again. -/
theorem turned {traceId spanId : String} {type : SpanType} {isOpen : Bool}
    (h : ToldBy uses (some ⟨traceId, some ⟨spanId, type, isOpen⟩⟩)) (turn : Turn)
    (hTrace : u.reply.traceId? = none) (hSpan : u.registration? = none)
    (hTurn : u.reply.turn? = some turn)
    (hFollows : ∀ before : Turn, before.opens = isOpen → before.Precedes turn) :
    ToldBy (uses ++ [u]) (some ⟨traceId, some ⟨spanId, type, turn.opens⟩⟩) := by
  have hTurns : (uses ++ [u]).filterMap (·.reply.turn?) =
      uses.filterMap (·.reply.turn?) ++ [turn] := by
    simp [hTurn]
  constructor
  case traceId =>
    intro id
    rw [exists_mem_append_singleton, ← h.traceId, hTrace]
    simp
  case span =>
    intro id other
    rw [exists_mem_append_singleton, ← h.span, hSpan]
    simp
  case first =>
    rw [hTurns, List.head?_append, h.first]
    rfl
  case last =>
    rw [hTurns, List.getLast?_concat]
    rfl
  case alternating =>
    -- the last turn so far says whether the span is open, and so what may follow
    rw [hTurns]
    refine List.isChain_append.2 ⟨h.alternating, List.isChain_singleton _, ?_⟩
    intro before hBefore next hNext
    obtain rfl := Option.mem_some_iff.1 hNext
    have hLast := h.last
    rw [Option.mem_def.1 hBefore] at hLast
    exact hFollows before (Option.some.inj hLast)

theorem append_singleton {m' : RunMap} (h : ToldBy uses (m.find? u.call.run))
    (hAnswered : Answered m u m') (hKept : u.call.forgets = false) :
    ToldBy (uses ++ [u]) (m'.find? u.call.run) := by
  cases hAnswered with
  | assigned unknown =>
      rw [Call.run, unknown] at h
      rw [Call.run, find?, List.lookup_cons_self]
      exact h.assigned rfl rfl rfl
  | known found =>
      refine h.quiet (fun _ hId => ?_) rfl rfl
      rw [Call.run, found]
      exact hId
  | registered found =>
      rw [Call.run, found] at h
      rw [Call.run, find?_update, if_pos rfl, found]
      exact h.registered rfl rfl rfl
  | closed found =>
      rw [Call.run, found] at h
      rw [Call.run, setOpen, find?_update, if_pos rfl, found]
      refine h.turned .closed rfl rfl rfl fun before hOpens => ?_
      cases before with
      | registered => exact .registered
      | reopened => exact .reopened
      | closed => cases hOpens
  | reopened found =>
      rw [Call.run, found] at h
      rw [Call.run, setOpen, find?_update, if_pos rfl, found]
      refine h.turned .reopened rfl rfl rfl fun before hOpens => ?_
      cases before with
      | registered | reopened => cases hOpens
      | closed => exact .closed
  | notRegistered | notClosed | notReopened =>
      refine h.quiet (fun _ hId => ?_) rfl rfl
      cases hId
  | forgotten => cases hKept

end ToldBy

/-- The map is as its uses tell. -/
structure Told (uses : List Use) (m : RunMap) : Prop where
  distinct : (m.runs.map Prod.fst).Nodup
  entry : ∀ run, ToldBy (current run uses) (m.find? run)
  met : ∀ traceId, traceId ∈ m.traces ↔ Met uses traceId
  /-- What was closed is what had been registered. -/
  taken : ∀ before u after closed, uses = before ++ u :: after → u.reply = .closed (some closed) →
    AssignedTo before u.call.run closed.traceId ∧
      RegisteredAs before u.call.run closed.spanId closed.type

namespace Told

variable {uses : List Use}

theorem empty : Told [] .empty where
  distinct := List.nodup_nil
  entry _ := toldBy_nil
  met traceId := by simp [RunMap.empty, Met]
  taken before u after closed hSplit := by simp at hSplit

section

variable (h : Told uses m)
include h

theorem traceId?_eq_some_iff {traceId : String} :
    m.traceId? run = some traceId ↔ AssignedTo uses run traceId := (h.entry run).traceId traceId

theorem find?_eq_none_iff : m.find? run = none ↔ ∀ traceId, ¬ AssignedTo uses run traceId := by
  simp only [← h.traceId?_eq_some_iff, traceId?]
  cases m.find? run <;> simp

theorem span?_iff {spanId : String} {type : SpanType} :
    (∃ isOpen, m.span? run = some ⟨spanId, type, isOpen⟩) ↔ RegisteredAs uses run spanId type :=
  (h.entry run).span spanId type

theorem append_singleton {u : Use} {m' : RunMap} (hAnswered : Answered m u m') :
    Told (uses ++ [u]) m' where
  distinct := hAnswered.nodup h.distinct
  entry run := by
    by_cases hRun : u.call.run = run
    · subst hRun
      -- what was told before a run is forgotten counts no more
      rw [current_append_singleton]
      split
      · next hForgets =>
          rw [hAnswered.eq_none_of_forgets hForgets]
          exact toldBy_nil
      · next hKept => exact (h.entry u.call.run).append_singleton hAnswered (by simpa using hKept)
    · rw [current_append_singleton_of_ne hRun, hAnswered.find?_of_ne (Ne.symm hRun)]
      exact h.entry run
  met traceId := by
    rw [hAnswered.mem_traces, met_append_singleton, Joins, Releases, h.met, h.find?_eq_none_iff,
      h.traceId?_eq_some_iff]
  taken before v after closed hSplit hReply := by
    rcases split_append_singleton hSplit with ⟨rfl, rfl, rfl⟩ | ⟨earlier, rfl, rfl⟩
    · have hOpen := hAnswered.eq_of_closed hReply
      exact ⟨h.traceId?_eq_some_iff.1 (by rw [traceId?, hOpen]; rfl),
        h.span?_iff.1 ⟨true, by rw [span?, hOpen]; rfl⟩⟩
    · exact h.taken before v earlier closed rfl hReply

theorem useAll (calls : List Call) :
    Told (uses ++ (m.useAll calls).1) (m.useAll calls).2 :=
  useAll_induction (fun c hTold => hTold.append_singleton (answered_reply _ c)) h calls

/-- A run is open if its span was registered and neither closed nor forgotten last. -/
theorem isOpen_iff :
    m.isOpen run = true ↔ (∃ traceId, AssignedTo uses run traceId) ∧
      (∃ spanId type, RegisteredAs uses run spanId type) ∧
      (turns run uses).getLast? ≠ some .closed := by
  have hLast : (turns run uses).getLast?.map Turn.opens = (m.span? run).map (·.isOpen) :=
    (h.entry run).last
  simp only [← h.traceId?_eq_some_iff, ← h.span?_iff]
  constructor
  · intro hOpen
    obtain ⟨e, hFind, hEntry⟩ := (Option.any_eq_true _ _).1 hOpen
    obtain ⟨⟨spanId, type, isOpen⟩, hSpan, rfl⟩ := (Option.any_eq_true _ _).1 hEntry
    have hSpanOf : m.span? run = some ⟨spanId, type, true⟩ := by rw [span?, hFind]; exact hSpan
    refine ⟨⟨e.traceId, by rw [traceId?, hFind]; rfl⟩, ⟨spanId, type, true, hSpanOf⟩, ?_⟩
    intro hClosed
    rw [hClosed, hSpanOf] at hLast
    cases hLast
  · rintro ⟨-, ⟨spanId, type, isOpen, hSpan⟩, hNot⟩
    rw [hSpan] at hLast
    obtain ⟨turn, hTurn, hOpens⟩ := Option.map_eq_some_iff.1 hLast
    obtain ⟨e, hFind, hEntry⟩ := Option.bind_eq_some_iff.1 hSpan
    cases turn with
    | closed => exact absurd hTurn hNot
    | registered | reopened =>
        obtain rfl : isOpen = true := hOpens.symm
        rw [RunMap.isOpen, hFind, Option.any_some, RunEntry.isOpen, hEntry]
        rfl

/-- The open runs are counted once each. -/
theorem openCount_eq : ∃ runs : List RunId, runs.Nodup ∧
    (∀ run, run ∈ runs ↔ m.isOpen run = true) ∧ m.openCount = runs.length := by
  refine ⟨(m.runs.filter (·.2.isOpen)).map Prod.fst, ?distinct, fun run => ?mem, ?count⟩
  case distinct => exact (List.filter_sublist.map Prod.fst).nodup h.distinct
  case mem =>
    rw [isOpen, Option.any_eq_true]
    simp only [find?_eq_some_iff h.distinct, List.mem_map, List.mem_filter]
    constructor
    · rintro ⟨⟨other, e⟩, ⟨hMem, hOpen⟩, rfl⟩
      exact ⟨e, hMem, hOpen⟩
    · rintro ⟨e, hMem, hOpen⟩
      exact ⟨(run, e), ⟨hMem, hOpen⟩, rfl⟩
  case count => rw [openCount, List.countP_eq_length_filter, List.length_map]

/-- What a run has been told does not change until the run is forgotten. -/
theorem kept {more : List Call} (hMore : ∀ c ∈ more, c.run = run → c.forgets = false) :
    (∀ traceId, m.traceId? run = some traceId → (m.useAll more).2.traceId? run = some traceId) ∧
    ∀ spanId type, (∃ isOpen, m.span? run = some ⟨spanId, type, isOpen⟩) →
      ∃ isOpen, (m.useAll more).2.span? run = some ⟨spanId, type, isOpen⟩ := by
  have hKept : ∀ v ∈ (m.useAll more).1, v.call.run = run → v.call.forgets = false := by
    intro v hv
    have hCall := List.mem_map_of_mem (f := (·.call)) hv
    rw [map_call_useAll] at hCall
    exact hMore v.call hCall
  have hLater := h.useAll more
  constructor
  · intro traceId hTrace
    obtain ⟨u, hu, hReply⟩ := h.traceId?_eq_some_iff.1 hTrace
    exact hLater.traceId?_eq_some_iff.2 ⟨u, mem_current_append hu hKept, hReply⟩
  · intro spanId type hSpan
    obtain ⟨u, hu, hReply⟩ := h.span?_iff.1 hSpan
    exact hLater.span?_iff.2 ⟨u, mem_current_append hu hKept, hReply⟩

/-- A run that is not mapped joins the trace of its parent or that of the policy, and brings a new
trace if none of the runs has met it. -/
theorem resolve_spec (hNone : ∀ traceId, ¬ AssignedTo uses run traceId) (parent : Option RunId)
    (given : String) {found : Resolution} {next : RunMap}
    (hResolve : m.resolve run parent given = (found, next)) :
    (found.created = true ↔ ¬ Met uses found.traceId) ∧
    (∀ p traceId, parent = some p → AssignedTo uses p traceId → found.traceId = traceId) ∧
    ((∀ p, parent = some p → ∀ traceId, ¬ AssignedTo uses p traceId) → found.traceId = given) := by
  rw [resolve_of_unknown (h.find?_eq_none_iff.2 hNone)] at hResolve
  obtain ⟨rfl, -⟩ := Prod.mk.inj hResolve
  refine ⟨?created, ?joined, ?given⟩
  case created => rw [← h.met]; simp
  case joined =>
    rintro p traceId rfl hAssigned
    rw [Option.bind_some, h.traceId?_eq_some_iff.2 hAssigned, Option.getD_some]
  case given =>
    intro hParent
    cases parent with
    | none => rfl
    | some p =>
        have hUnknown := h.find?_eq_none_iff.2 (hParent p rfl)
        rw [Option.bind_some, traceId?, hUnknown, Option.map_none, Option.getD_none]

end

end Told

/-- A run map is what its uses tell, whatever it is used for. -/
theorem entries_told_by_uses {calls : List Call} {uses : List Use} {m : RunMap}
    (hUses : empty.useAll calls = (uses, m)) :
    (∀ run,
      (∀ traceId, m.traceId? run = some traceId ↔ AssignedTo uses run traceId) ∧
      (∀ spanId type, (∃ isOpen, m.span? run = some ⟨spanId, type, isOpen⟩) ↔
        RegisteredAs uses run spanId type) ∧
      -- neither changes until the run is forgotten
      (∀ more : List Call, (∀ c ∈ more, c.run = run → c.forgets = false) →
        (∀ traceId, m.traceId? run = some traceId →
          (m.useAll more).2.traceId? run = some traceId) ∧
        ∀ spanId type, (∃ isOpen, m.span? run = some ⟨spanId, type, isOpen⟩) →
          ∃ isOpen, (m.useAll more).2.span? run = some ⟨spanId, type, isOpen⟩) ∧
      (turns run uses).IsChain Turn.Precedes ∧
      (∀ turn, (turns run uses).head? = some turn → turn = .registered) ∧
      (m.isOpen run = true ↔ (∃ traceId, AssignedTo uses run traceId) ∧
        (∃ spanId type, RegisteredAs uses run spanId type) ∧
        (turns run uses).getLast? ≠ some .closed)) ∧
    (∃ runs : List RunId, runs.Nodup ∧ (∀ run, run ∈ runs ↔ m.isOpen run = true) ∧
      m.openCount = runs.length) ∧
    (∀ before u after closed, uses = before ++ u :: after → u.reply = .closed (some closed) →
      AssignedTo before u.call.run closed.traceId ∧
        RegisteredAs before u.call.run closed.spanId closed.type) ∧
    ∀ run parent policy fresh found next,
      m.resolve run parent (TracePolicy.join policy fresh) = (found, next) →
      (∀ traceId, AssignedTo uses run traceId → found = ⟨traceId, false⟩ ∧ next = m) ∧
      ((∀ traceId, ¬ AssignedTo uses run traceId) →
        (found.created = true ↔ ¬ Met uses found.traceId) ∧
        (∀ p traceId, parent = some p → AssignedTo uses p traceId → found.traceId = traceId) ∧
        ((∀ p, parent = some p → ∀ traceId, ¬ AssignedTo uses p traceId) →
          found.traceId = policy.join fresh)) := by
  have h : Told uses m := by simpa [hUses] using Told.empty.useAll calls
  refine ⟨fun run => ⟨fun _ => h.traceId?_eq_some_iff, fun _ _ => h.span?_iff, fun more => h.kept,
    (h.entry run).alternating, ?first, h.isOpen_iff⟩, h.openCount_eq, h.taken, ?resolved⟩
  case first =>
    intro turn hTurn
    have hFirst : (turns run uses).head? = ((m.find? run).bind (·.span)).map fun _ => .registered :=
      (h.entry run).first
    rw [hTurn] at hFirst
    obtain ⟨-, -, hRegistered⟩ := Option.map_eq_some_iff.1 hFirst.symm
    exact hRegistered.symm
  case resolved =>
    intro run parent policy fresh found next hResolve
    refine ⟨fun traceId hAssigned => ?_, fun hNone => h.resolve_spec hNone parent _ hResolve⟩
    have hTrace := h.traceId?_eq_some_iff.2 hAssigned
    obtain ⟨e, hFind, rfl⟩ := Option.map_eq_some_iff.1 hTrace
    rw [resolve, hFind, Option.isSome_some, if_pos rfl, traceFor, hTrace] at hResolve
    obtain ⟨rfl, rfl⟩ := Prod.mk.inj hResolve
    exact ⟨rfl, rfl⟩

section

/-- A run is closed, opened again and closed. Its child is open when it is forgotten, and the trace
of both with it. -/
def familyCalls : List Call :=
  [.resolve "a" none (.fixed "t") "t1", .register "a" "s1" .span, .close "a", .reopen "a",
    .close "a", .resolve "b" (some "a") .perRun "t2", .register "b" "s2" .generation,
    .forget "a" true]

theorem entries_told_by_uses_releasedTrace :
    ∃ uses m, empty.useAll familyCalls = (uses, m) ∧
      turns "a" (uses.take 5) = [.registered, .closed, .reopened, .closed] ∧
      AssignedTo uses "b" "t" ∧ (∀ traceId, ¬ AssignedTo uses "a" traceId) ∧
      m.isOpen "b" = true ∧ m.openCount = 1 ∧
      (m.resolve "c" none ((TracePolicy.fixed "t").join "t3")).1 = ⟨"t", true⟩ ∧
      ¬ Met uses "t" := by
  obtain ⟨hRuns, -, -, hResolve⟩ :=
    entries_told_by_uses (rfl : empty.useAll familyCalls = (_, _))
  refine ⟨_, _, rfl, rfl, ((hRuns "b").1 "t").1 rfl, fun traceId hAssigned => ?_, rfl, rfl, rfl, ?_⟩
  · cases ((hRuns "a").1 traceId).2 hAssigned
  · refine ((hResolve "c" none (.fixed "t") "t3" _ _ rfl).2 fun traceId hAssigned => ?_).1.1 rfl
    cases ((hRuns "c").1 traceId).2 hAssigned

end

end StoryTrace.RunMap

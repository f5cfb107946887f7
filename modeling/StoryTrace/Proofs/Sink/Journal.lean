import Mathlib.Data.Set.List
import StoryTrace.Files.Lemmas
import StoryTrace.Proofs.Event.Wire
import StoryTrace.Proofs.Session
import StoryTrace.Proofs.Sink.Uses
import StoryTrace.Proofs.Text.Lines
import StoryTrace.Proofs.Time.Rfc3339
import StoryTrace.Sink.Journal

/-!
# Journals read back

The file of a journal is made of the lines of all events that were flushed, in the order of their
writes. An event is one line, so the file divides into the same lines again, and what was flushed
is read back as far as every line on its own is.
-/

namespace StoryTrace

theorem Event.blank_line (e : Event) : Text.blank e.line = false := by
  rw [Text.blank, line, Json.compress, String.toList_ofList]
  rfl

theorem Event.inLine_line {e : Event} (h : e.body.Portable) : Json.InLine e.line.toList := by
  rw [line, Json.compress, String.toList_ofList]
  exact Json.inLine_print (legible_toJson h)

namespace Journal

open SinkUse

theorem linesText_append (events more : List Event) :
    linesText (events ++ more) = linesText events ++ linesText more := by
  simp [linesText]

/-- A text of lines divides into them. -/
theorem lines_linesText {events : List Event} (h : ∀ e ∈ events, Json.InLine e.line.toList) :
    Text.lines (linesText events) = events.map (·.line) := by
  have hLines : Text.linesOf (linesText events).toList = events.map (·.line.toList) := by
    induction events with
    | nil => rfl
    | cons e rest ih =>
        obtain ⟨hLine, hRest⟩ := List.forall_mem_cons.1 h
        have hText : (linesText (e :: rest)).toList =
            e.line.toList ++ '\n' :: (linesText rest).toList := by
          simp [linesText, String.toList_join]
        rw [hText, Text.linesOf_append_newline hLine.newline_not_mem hLine.getLast?_ne_return, ih hRest,
          List.map_cons]
  simp [Text.lines, hLines, Function.comp_def]

/-! ## Reading -/

/-- The lines of a text that are not blank. -/
def filledLines (content : String) : List String :=
  (Text.lines content).filter fun line => !Text.blank line

theorem readText_eq_ok_iff {content : String} {events : List Event} :
    readText content = .ok events ↔
      (filledLines content).map Event.ofLine? = events.map some := by
  rw [← Json.mapM_eq_some_iff, readText, filledLines]
  split <;> simp_all

/-- A log can be read if each of its lines is blank or an event, and not otherwise. -/
theorem readText_succeeds_iff {content : String} :
    (∃ events, readText content = .ok events) ↔
      ∀ line ∈ filledLines content, ∃ e, Event.ofLine? line = some e := by
  calc (∃ events, readText content = .ok events)
    _ ↔ ∃ events : List Event, events.map some = (filledLines content).map Event.ofLine? :=
      exists_congr fun _ => readText_eq_ok_iff.trans eq_comm
    _ ↔ ∀ x ∈ (filledLines content).map Event.ofLine?, ∃ e, some e = x :=
      Set.ext_iff.1 (Set.range_list_map some) _
    _ ↔ ∀ line ∈ filledLines content, ∃ e, Event.ofLine? line = some e := by
      simp only [List.forall_mem_map, eq_comm]

theorem filledLines_linesText {events : List Event}
    (h : ∀ e ∈ events, Json.InLine e.line.toList) :
    filledLines (linesText events) = events.map (·.line) := by
  rw [filledLines, lines_linesText h, List.filter_eq_self]
  intro line hLine
  obtain ⟨e, -, rfl⟩ := List.mem_map.1 hLine
  rw [e.blank_line]
  rfl

theorem load_eq_ok_iff {files : Files} {path content : String} {events : List Event}
    (h : files.read? path = some content) :
    load files path = .ok events ↔ (filledLines content).map Event.ofLine? = events.map some := by
  rw [load, h]
  exact readText_eq_ok_iff

/-- A file of lines is read line by line. -/
theorem load_linesText_eq_ok_iff {files : Files} {path : String} {written events : List Event}
    (h : files.read? path = some (linesText written))
    (hLines : ∀ e ∈ written, Json.InLine e.line.toList) :
    load files path = .ok events ↔
      written.map (fun e => Event.ofLine? e.line) = events.map some := by
  simp only [load_eq_ok_iff h, filledLines_linesText hLines, List.map_map, Function.comp_def]

/-- The events of writes are read from their file, except that null outputs are absent. -/
theorem load_ofWrites {files : Files} {path : String} {supply : Supply} {ws : List Write}
    (h : files.read? path = some (linesText (Event.ofWrites supply ws)))
    (hClock : ∀ i, (supply.clock i).Dated) (hPortable : ∀ w ∈ ws, w.Portable) :
    load files path = .ok (Event.ofWrites supply (ws.map Write.withoutNullOutput)) := by
  have hBody : ∀ e ∈ Event.ofWrites supply ws, e.body.Portable := by
    intro e he
    obtain ⟨i, hi, rfl⟩ := List.mem_mapIdx.1 he
    exact Event.portable_body_ofWrite (hPortable _ (List.getElem_mem hi)) ..
  rw [load_linesText_eq_ok_iff h fun e he => Event.inLine_line (hBody e he)]
  apply List.ext_getElem
  · simp
  · intro i hi _
    have hWrite : i < ws.length := by simpa using hi
    let e := Event.ofWrite ws[i] (supply.ids (supply.idsUsed + i))
      (supply.clock (supply.readings + i))
    have hTime : e.timestamp.Portable := by
      rw [Event.timestamp_ofWrite]
      exact Rfc3339.read?_text (hClock _)
    have hRead : Event.ofLine? e.line = some e.withoutNulls := Event.ofLine?_line hTime
      (Event.portable_body_ofWrite (hPortable _ (List.getElem_mem hWrite)) ..)
    simpa [Event.ofWrites, e, Event.withoutNulls_ofWrite] using hRead

/-! ## Writing -/

theorem start_eq_ok {plan : JournalPlan} {files : Files} {supply : Supply} {j : Journal}
    (h : start plan files supply = .ok j) : j.plan = plan ∧ j.queue = [] ∧ j.supply = supply := by
  unfold start at h
  split at h
  case h_1 =>
    cases h
    exact ⟨rfl, rfl, rfl⟩
  case h_2 directory hDirectory =>
    dsimp only at h
    split at h <;> cases h
    exact ⟨rfl, rfl, rfl⟩

section

variable {j : Journal}

theorem writeOut_of_queue_eq_nil (h : j.queue = []) : j.writeOut = (.ok (), j) := by
  rw [writeOut, if_pos (List.isEmpty_iff.2 h)]

theorem writeOut_of_append? {files : Files} (hQueue : j.queue ≠ [])
    (h : j.files.append? j.currentFile (linesText j.queue) = some files) :
    j.writeOut = (.ok (), { j with files, queue := [] }) := by
  rw [writeOut, if_neg (List.isEmpty_iff.not.2 hQueue)]
  simp only [h]

/-- Lines that were written out stand at the end of the file. -/
theorem exists_append?_of_writeOut_eq_ok (hQueue : j.queue ≠ []) (hOk : j.writeOut.1 = .ok ()) :
    ∃ files, j.files.append? j.currentFile (linesText j.queue) = some files := by
  rw [writeOut, if_neg (List.isEmpty_iff.not.2 hQueue)] at hOk
  cases hAppend : j.files.append? j.currentFile (linesText j.queue) with
  | none =>
      simp only [hAppend] at hOk
      cases hOk
  | some files => exact ⟨files, rfl⟩

end

/-- What a journal of one file has done after some uses: the lines of the events that were flushed
make its file, which is made for the first of them. -/
structure Keeps (path : String) (files : Files) (supply : Supply) (uses : List SinkUse)
    (j : Journal) : Prop where
  plan : j.plan = .session path
  queues : Queues supply uses j.queue j.supply
  quiet : flushed uses = [] → j.files = files
  file : flushed uses ≠ [] →
    j.files.read? path = some (linesText (Event.ofWrites supply (flushed uses)))

namespace Keeps

variable {path : String} {files : Files} {supply : Supply} {uses : List SinkUse} {j : Journal}

theorem write (h : Keeps path files supply uses j) (w : Write) :
    Keeps path files supply (uses ++ [.write w]) (j.enqueue w) := by
  have hEnabled : j.plan.enabled = true := by
    rw [h.plan]
    rfl
  rw [enqueue, if_pos hEnabled]
  refine ⟨h.plan, h.queues.write w, ?_, ?_⟩
  · rw [flushed_concat_write]
    exact h.quiet
  · rw [flushed_concat_write]
    exact h.file

/-- The file before a flush holds what was flushed before, if anything was. -/
theorem getD_read? (h : Keeps path files supply uses j) (hAbsent : files.read? path = none) :
    (j.files.read? path).getD "" = linesText (Event.ofWrites supply (flushed uses)) := by
  by_cases hNone : flushed uses = []
  · rw [h.quiet hNone, hAbsent, hNone]
    rfl
  · rw [h.file hNone]
    rfl

theorem flush (h : Keeps path files supply uses j) (hAbsent : files.read? path = none)
    (hOk : j.writeOut.1 = .ok ()) : Keeps path files supply (uses ++ [.flush]) j.writeOut.2 := by
  have hPath : j.currentFile = path := by
    rw [currentFile, h.plan]
    rfl
  by_cases hQueue : j.queue = []
  case pos =>
    have hSame : flushed (uses ++ [.flush]) = flushed uses := by
      rw [flushed_concat_flush, ← flushed_append_waiting,
        (Event.ofWrites_eq_nil_iff _ _).1 (h.queues.queue.symm.trans hQueue), List.append_nil]
    rw [writeOut_of_queue_eq_nil hQueue]
    exact ⟨h.plan, hQueue ▸ h.queues.flush, hSame ▸ h.quiet, hSame ▸ h.file⟩
  case neg =>
    have hAll := h.queues.append_queue
    obtain ⟨after, hAppend⟩ := exists_append?_of_writeOut_eq_ok hQueue hOk
    rw [writeOut_of_append? hQueue hAppend]
    rw [hPath] at hAppend
    refine ⟨h.plan, h.queues.flush, fun hNone => ?quiet, fun _ => ?file⟩
    case quiet =>
      rw [flushed_concat_flush] at hNone
      rw [hNone] at hAll
      exact absurd (List.append_eq_nil_iff.1 hAll).2 hQueue
    case file =>
      rw [flushed_concat_flush, ← hAll, linesText_append, ← h.getD_read? hAbsent]
      exact Files.read?_append? hAppend

/-- As long as every flush can write its lines. -/
theorem useAll {uses : List SinkUse} {start : Journal} (hPlan : start.plan = .session path)
    (hQueue : start.queue = []) (hAbsent : start.files.read? path = none)
    (hOk : ∀ answer ∈ (Sink.useAll uses start).1, answer = .ok ()) :
    Keeps path start.files start.supply uses (Sink.useAll uses start).2 := by
  revert hOk
  refine Sink.useAll_induction (motive := fun uses answers j =>
    (∀ answer ∈ answers, answer = .ok ()) → Keeps path start.files start.supply uses j)
      (fun _ => ?start) ?step uses
  case start => exact ⟨hPlan, hQueue ▸ .nil _, fun _ => rfl, fun h => absurd rfl h⟩
  case step =>
    intro uses answers j u h hAnswers
    obtain ⟨hBefore, hLast⟩ := List.forall_mem_append.1 hAnswers
    cases u with
    | write w => exact (h hBefore).write w
    | flush => exact (h hBefore).flush hAbsent (hLast _ List.mem_cons_self)

end Keeps

/-- A file can be read if each of its lines is blank or an event, and then it gives the events of
its lines. The file of a journal gives all that was flushed, once each and in the order of the
writes: the events are those that were queued, but for null outputs, as long as their values survive
on a line. No file is made before something is flushed. -/
theorem flushed_events_read_back :
    (∀ (files : Files) (path content : String), files.read? path = some content →
      ((∃ events, load files path = .ok events) ↔
        ∀ line ∈ filledLines content, ∃ e, Event.ofLine? line = some e) ∧
      ∀ events, load files path = .ok events →
        (filledLines content).map Event.ofLine? = events.map some) ∧
    ∀ (path : String) (files : Files) (supply : Supply) (uses : List SinkUse) (j j' : Journal)
      (answers : List (Except SinkError Unit)),
      start (.session path) files supply = .ok j → j.files.holds path = false →
      (∀ i, (supply.clock i).Dated) → (∀ w ∈ writes uses, w.Portable) →
      Sink.useAll uses j = (answers, j') → (∀ answer ∈ answers, answer = .ok ()) →
        (flushed uses ≠ [] → load j'.files path =
          .ok (Event.ofWrites supply ((flushed uses).map Write.withoutNullOutput))) ∧
        (flushed uses = [] → j'.files = j.files ∧ load j'.files path = .error (fileError path)) ∧
        j'.queue = Event.ofWrites (supply.past (flushed uses).length) (waiting uses) ∧
        Sink.pending j' = (waiting uses).length ∧
        (Sink.pending j' = 0 → Sink.flush j' = (.ok (), j')) := by
  refine ⟨fun files path content hRead => ⟨?succeeds, fun events => (load_eq_ok_iff hRead).1⟩, ?_⟩
  case succeeds =>
    simp only [load, hRead]
    exact readText_succeeds_iff
  intro path files supply uses j j' answers hStart hAbsent hClock hPortable hRun hOk
  obtain ⟨hPlan, hQueue, hSupply⟩ := start_eq_ok hStart
  have hNoFile : j.files.read? path = none := by
    have hNone : j.files.find? path = none := by simpa [Files.holds] using hAbsent
    rw [Files.read?, hNone]
    rfl
  have hAnswers : ∀ answer ∈ (Sink.useAll uses j).1, answer = .ok () := by
    rw [hRun]
    exact hOk
  have h : Keeps path j.files supply uses j' := by
    have hAll := Keeps.useAll hPlan hQueue hNoFile hAnswers
    rwa [hRun, hSupply] at hAll
  refine ⟨fun hSome => ?read, fun hNone => ⟨h.quiet hNone, ?absent⟩, h.queues.queue,
    h.queues.length_queue, fun hPending => ?idle⟩
  case read =>
    refine load_ofWrites (h.file hSome) hClock fun w hw => hPortable w ?_
    rw [← flushed_append_waiting]
    exact List.mem_append_left _ hw
  case absent => rw [load, h.quiet hNone, hNoFile]
  case idle => exact writeOut_of_queue_eq_nil (List.length_eq_zero_iff.1 hPending)

section

/-- A journal of one file in an empty directory. -/
def desk : Journal := ⟨.session "story.jsonl", .ofCurrent [], [], .counting ⟨0, 0⟩⟩

theorem start_desk :
    start (.session "story.jsonl") (.ofCurrent []) (.counting ⟨0, 0⟩) = .ok desk := rfl

theorem append?_desk (text : String) : desk.files.append? "story.jsonl" text =
    some (desk.files.putAt ["story.jsonl"] (.text text)) := rfl

/-- A span with a null output is flushed, and an update waits. -/
def deskUses : List SinkUse :=
  [.flush, .write (.createSpan Event.warnedAnswer), .flush, .flush,
    .write (.updateTrace ⟨"t1", none, []⟩)]

theorem flushed_events_read_back_deskUses :
    ∃ j', Sink.useAll deskUses desk = ([.ok (), .ok (), .ok (), .ok (), .ok ()], j') ∧
      desk.files.holds "story.jsonl" = false ∧ (∀ w ∈ writes deskUses, w.Portable) ∧
      load j'.files "story.jsonl" =
        .ok [Event.ofSpan { Event.warnedAnswer with output := none } "" ⟨0, 0⟩] ∧
      Sink.pending j' = 1 := by
  have hAbsent : desk.files.holds "story.jsonl" = false := rfl
  have hDated : (⟨0, 0⟩ : Instant).Dated := ⟨by decide, by decide⟩
  have hPortable : ∀ w ∈ writes deskUses, w.Portable := by
    have hUpdate : TraceUpdate.Portable ⟨"t1", none, []⟩ := ⟨nofun, rfl, by decide, trivial⟩
    exact List.forall_mem_cons.2
      ⟨Event.portable_warnedAnswer, List.forall_mem_singleton.2 hUpdate⟩
  obtain ⟨hRead, -, -, hPending, -⟩ := flushed_events_read_back.2 "story.jsonl" (.ofCurrent [])
    (.counting ⟨0, 0⟩) deskUses desk _ [.ok (), .ok (), .ok (), .ok (), .ok ()] start_desk hAbsent
    (fun _ => hDated) hPortable rfl (by simp)
  have hFlushed : flushed deskUses = [.createSpan Event.warnedAnswer] := rfl
  rw [hFlushed] at hRead
  exact ⟨_, rfl, hAbsent, hPortable, hRead (List.cons_ne_nil _ _), hPending⟩

/-- An update that appends the output is written and flushed. -/
def heldUses (output : Json) : List SinkUse :=
  [.write (.updateTrace ⟨"t1", some output, []⟩), .flush]

/-- The event of that update. -/
def held (output : Json) : Event := .ofUpdate ⟨"t1", some output, []⟩ "" ⟨0, 0⟩

/-- The journal before the flush. -/
def laden (output : Json) : Journal :=
  ⟨.session "story.jsonl", .ofCurrent [], [held output], (Supply.counting ⟨0, 0⟩).past 1⟩

theorem useAll_heldUses (output : Json) :
    Sink.useAll (heldUses output) desk = ([.ok (), .ok ()], (laden output).writeOut.2) := by
  have hWrite : Sink.useAll [.write (.updateTrace ⟨"t1", some output, []⟩)] desk =
      ([.ok ()], laden output) := rfl
  have hAppend : (laden output).files.append? (laden output).currentFile
      (linesText (laden output).queue) = _ := append?_desk _
  have hFlush : (laden output).writeOut.1 = .ok () := by
    rw [writeOut_of_append? (List.cons_ne_nil _ _) hAppend]
  rw [heldUses, ← List.singleton_append, Sink.useAll_concat, hWrite, ← hFlush]
  rfl

/-- What the line of that event gives is what the whole file gives. -/
theorem load_held_eq_ok_iff {output : Json} (hLine : Json.InLine (held output).line.toList)
    {events : List Event} :
    load (laden output).writeOut.2.files "story.jsonl" = .ok events ↔
      [Event.ofLine? (held output).line] = events.map some := by
  have hOk : ∀ answer ∈ (Sink.useAll (heldUses output) desk).1, answer = .ok () := by
    simp [useAll_heldUses]
  have h : Keeps "story.jsonl" desk.files desk.supply (heldUses output)
      (Sink.useAll (heldUses output) desk).2 := Keeps.useAll rfl rfl rfl hOk
  rw [useAll_heldUses] at h
  have hFile : (laden output).writeOut.2.files.read? "story.jsonl" =
      some (linesText [held output]) := h.file (List.cons_ne_nil _ _)
  exact load_linesText_eq_ok_iff hFile (List.forall_mem_singleton.2 hLine)

/-- The double that an event of a trace has as output, as its bits. -/
def outputBits? (e : Event) : Option UInt64 :=
  match e.body with
  | .span _ => none
  | .trace b => (b.output.bind Json.float?).map Float.toBits

/-- So many lists, each in the one before. -/
def nestedLists (n : Nat) : Json := n.repeat (fun v => .array [v]) .null

theorem outputBits?_held_double :
    (Event.ofLine? (held (.number (.float 0.9007407406727833))).line).bind outputBits? =
      some (Float.toBits 0.9007407406727832) := by
  rw [Event.ofLine?, Event.line, Json.compress, Json.parseNamed?, String.toList_ofList]
  decide +kernel

theorem ofLine?_held_nestedLists : Event.ofLine? (held (nestedLists 126)).line = none := by
  rw [← Option.isNone_iff_eq_none, Event.ofLine?, Event.line, Json.compress, Json.parseNamed?,
    String.toList_ofList]
  decide +kernel

/-- Nothing can be read before anything was written, some doubles come back one unit in the last
place off, and one output that is nested too deeply makes the whole file unreadable. -/
theorem file_not_read_back :
    start (.session "story.jsonl") (.ofCurrent []) (.counting ⟨0, 0⟩) = .ok desk ∧
    desk.files.holds "story.jsonl" = false ∧
    (Sink.useAll [.flush] desk = ([.ok ()], desk) ∧
      load desk.files "story.jsonl" = .error (fileError "story.jsonl")) ∧
    (∃ j, Sink.useAll (heldUses (.number (.float 0.9007407406727833))) desk =
        ([.ok (), .ok ()], j) ∧ ∃ e, load j.files "story.jsonl" = .ok [e] ∧
      outputBits? e = some (Float.toBits 0.9007407406727832) ∧
      outputBits? (held (.number (.float 0.9007407406727833))) ≠ outputBits? e) ∧
    ∃ j, Sink.useAll (heldUses (nestedLists 126)) desk = ([.ok (), .ok ()], j) ∧
      ∀ events, load j.files "story.jsonl" ≠ .ok events := by
  refine ⟨rfl, rfl, ⟨rfl, rfl⟩, ⟨_, useAll_heldUses _, ?double⟩, ⟨_, useAll_heldUses _, ?nested⟩⟩
  case double =>
    have hLine : Json.InLine (held (.number (.float 0.9007407406727833))).line.toList := by
      rw [Event.line, Json.compress, String.toList_ofList]
      decide +kernel
    have hOther : outputBits? (held (.number (.float 0.9007407406727833))) ≠
        some (Float.toBits 0.9007407406727832) := by
      decide +kernel
    obtain ⟨e, hRead, hBits⟩ := Option.bind_eq_some_iff.1 outputBits?_held_double
    exact ⟨e, (load_held_eq_ok_iff hLine).2 (by rw [hRead]; rfl), hBits, hBits ▸ hOther⟩
  case nested =>
    have hLine : Json.InLine (held (nestedLists 126)).line.toList := by
      rw [Event.line, Json.compress, String.toList_ofList]
      decide +kernel
    intro events hLoad
    have hEvents := (load_held_eq_ok_iff hLine).1 hLoad
    rw [ofLine?_held_nestedLists] at hEvents
    cases events with
    | nil => cases hEvents
    | cons e rest => cases hEvents

end

end Journal

end StoryTrace

import Mathlib.Data.List.Basic
import StoryTrace.Proofs.Session
import StoryTrace.Story.Narrator

/-!
# Attempts of a narrator

A narrator counts a note before it records the event of the note. So whatever the sink answers,
every attempt is counted: a note that is told again until it is accepted counts once more for every
refusal. An event that is recorded without a note is never counted.
-/

namespace StoryTrace

/-- The counts of what was done for a story. -/
inductive StoryCount where
  | beats
  | enrichments
  | remediations
  | decisions
  deriving DecidableEq, Repr

def StoryMetrics.count (m : StoryMetrics) : StoryCount → Nat
  | .beats => m.beats
  | .enrichments => m.enrichments
  | .remediations => m.remediations
  | .decisions => m.decisions

namespace StoryNote

/-- The note adds one to the count. -/
def addsTo (k : StoryCount) : StoryNote → Bool
  | .beat _ => k == .beats
  | .enrichment _ => k == .enrichments
  | .remediation g => g.success && k == .remediations
  | .routing _ => k == .decisions
  | _ => false

/-- The metrics have no place for the note. -/
def isUntallied : StoryNote → Bool
  | .analysis _ | .checkpoint _ | .episode _ | .gap _ => true
  | .remediation g => !g.success
  | .beat _ | .enrichment _ | .universes _ | .arc _ | .routing _ => false

/-- The metrics say already what the note would make them say. -/
def SaysNothingNew (m : StoryMetrics) : StoryNote → Prop
  | .universes u =>
    StoryMetrics.blend m.engineer u.engineer.confidence = m.engineer ∧
      StoryMetrics.blend m.ceremony u.ceremony.confidence = m.ceremony ∧
      StoryMetrics.blend m.storyEngine u.storyEngine.confidence = m.storyEngine ∧
      StoryMetrics.blend m.crossUniverse u.coherence = m.crossUniverse
  | .arc a => m.arcs.put a.characterId a.positionAfter = m.arcs
  | note => note.isUntallied = true

theorem count_tally (m : StoryMetrics) (note : StoryNote) (k : StoryCount) :
    (note.tally m).count k = m.count k + (note.addsTo k).toNat := by
  cases note with
  | remediation g =>
      cases hSuccess : g.success <;> cases k <;> simp [tally, addsTo, hSuccess, StoryMetrics.count]
  | _ => cases k <;> rfl

theorem tally_of_isUntallied {note : StoryNote} (h : note.isUntallied = true) (m : StoryMetrics) :
    note.tally m = m := by
  cases note with
  | analysis | checkpoint | episode | gap => rfl
  | remediation g =>
      have hFailed : g.success = false := by simpa [isUntallied] using h
      simp [tally, hFailed]
  | beat | enrichment | universes | arc | routing => cases h

theorem tally_eq_self_iff (m : StoryMetrics) (note : StoryNote) :
    note.tally m = m ↔ note.SaysNothingNew m := by
  have hCounts (k : StoryCount) (hAdds : note.addsTo k = true) : note.tally m ≠ m := by
    intro hSame
    have hCount := note.count_tally m k
    rw [hSame, hAdds] at hCount
    exact absurd hCount (Nat.ne_of_lt (Nat.lt_succ_self _))
  cases note with
  | beat => exact iff_of_false (hCounts .beats rfl) Bool.false_ne_true
  | enrichment => exact iff_of_false (hCounts .enrichments rfl) Bool.false_ne_true
  | routing => exact iff_of_false (hCounts .decisions rfl) Bool.false_ne_true
  | remediation g =>
      cases hSuccess : g.success with
      | true =>
          refine iff_of_false (hCounts .remediations (by simp [addsTo, hSuccess])) ?_
          simp [SaysNothingNew, isUntallied, hSuccess]
      | false => simp [tally, SaysNothingNew, isUntallied, hSuccess]
  | universes u => cases m; simp [tally, SaysNothingNew]
  | arc a => cases m; simp [tally, SaysNothingNew]
  | analysis | checkpoint | episode | gap => exact iff_of_true rfl rfl

end StoryNote

/-- What a narrator is given to record: an event as it is, or a note that is counted too. -/
inductive Telling where
  | event (e : StoryEvent)
  | note (n : StoryNote)

namespace Telling

def tally (m : StoryMetrics) : Telling → StoryMetrics
  | .event _ => m
  | .note n => n.tally m

def addsTo (k : StoryCount) : Telling → Bool
  | .event _ => false
  | .note n => n.addsTo k

def isUntallied : Telling → Bool
  | .event _ => true
  | .note n => n.isUntallied

def SaysNothingNew (m : StoryMetrics) : Telling → Prop
  | .event _ => True
  | .note n => n.SaysNothingNew m

theorem tally_eq_self_iff (m : StoryMetrics) (call : Telling) :
    call.tally m = m ↔ call.SaysNothingNew m := by
  cases call with
  | event e => exact iff_of_true rfl trivial
  | note n => exact n.tally_eq_self_iff m

theorem tally_of_isUntallied {call : Telling} (h : call.isUntallied = true) (m : StoryMetrics) :
    call.tally m = m := by
  cases call with
  | event e => rfl
  | note n => exact StoryNote.tally_of_isUntallied h m

theorem count_foldl_tally (m : StoryMetrics) (calls : List Telling) (k : StoryCount) :
    (calls.foldl tally m).count k = m.count k + calls.countP (addsTo k) := by
  induction calls generalizing m with
  | nil => rfl
  | cons call rest ih =>
      have hCall : (call.tally m).count k = m.count k + (call.addsTo k).toNat := by
        cases call with
        | event e => rfl
        | note n => exact n.count_tally m k
      rw [List.foldl_cons, ih, hCall, List.countP_cons]
      cases call.addsTo k <;> simp only [Bool.toNat_true, Bool.toNat_false, if_true, if_false,
        Bool.false_eq_true] <;> omega

/-- The calls whose answers satisfy the test. -/
def answered (test : Except SinkError String → Bool) (calls : List Telling)
    (answers : List (Except SinkError String)) : List Telling :=
  ((calls.zip answers).filter fun x => test x.2).map Prod.fst

/-- The calls that the sink has accepted. -/
def accepted (calls : List Telling) (answers : List (Except SinkError String)) : List Telling :=
  answered (·.isOk) calls answers

/-- The calls that the sink has refused. -/
def refused (calls : List Telling) (answers : List (Except SinkError String)) : List Telling :=
  answered (!·.isOk) calls answers

/-- Every call was either accepted or refused. -/
theorem countP_accepted_add_refused (p : Telling → Bool) {calls : List Telling}
    {answers : List (Except SinkError String)} (hLength : answers.length = calls.length) :
    (accepted calls answers).countP p + (refused calls answers).countP p = calls.countP p := by
  have hCalls : calls = (calls.zip answers).map Prod.fst :=
    (List.map_fst_zip (Nat.le_of_eq hLength.symm)).symm
  have hSplit := (List.filter_append_perm (fun x : Telling × Except SinkError String => x.2.isOk)
    (calls.zip answers)).map Prod.fst
  rw [List.map_append, ← hCalls] at hSplit
  rw [← hSplit.countP_eq p, List.countP_append]
  rfl

/-- Refused calls that the metrics have no place for make no difference. -/
theorem foldl_tally_accepted {calls : List Telling} {answers : List (Except SinkError String)}
    (hLength : answers.length = calls.length)
    (hRefused : ∀ call ∈ refused calls answers, call.isUntallied = true) (m : StoryMetrics) :
    calls.foldl tally m = (accepted calls answers).foldl tally m := by
  induction calls generalizing answers m with
  | nil => rfl
  | cons call rest ih =>
      cases answers with
      | nil => cases hLength
      | cons answer more =>
          have hRest := Nat.succ.inj hLength
          cases answer with
          | ok id => exact ih hRest hRefused _
          | error e =>
              have hHere := hRefused call (List.mem_cons_self ..)
              rw [List.foldl_cons, tally_of_isUntallied hHere]
              exact ih hRest (fun other hOther => hRefused other (List.mem_cons_of_mem _ hOther)) m

end Telling

namespace Narrator

variable {σ : Type} [Sink σ]

/-- Records what it is given, and counts it if it is a note. -/
def log (n : Narrator) : Telling → Work Narration σ (Except SinkError String)
  | .event e => n.record e
  | .note note => n.tell note

/-- The answers to calls in the given order. -/
def logAll (n : Narrator) (calls : List Telling) :
    Work Narration σ (List (Except SinkError String)) := calls.mapM n.log

section

open Work

variable {s : Session Narration σ}

theorem yields_ensureRoot_metrics (n : Narrator) (m : StoryMetrics) (h : s.state.metrics = m) :
    n.ensureRoot.Yields s fun _ t => t.state.metrics = m := by
  refine .bind (yields_state ?_)
  split
  · exact yields_pure h
  · refine .bind (yields_state (.bind (yields_newId (.bind (yields_now (.bind (yields_now
      (.bind (yields_send_any fun answer sink => ?_)))))))))
    cases answer with
    | error e => exact yields_pure h
    | ok _ => exact .bind (yields_now (.bind (yields_put (yields_pure h))))

/-- What is recorded is no matter of the metrics. -/
theorem metrics_record (n : Narrator) (e : StoryEvent) (s : Session Narration σ) :
    (n.record e s).2.state.metrics = s.state.metrics := by
  have hRecord : (n.record e).Yields s fun _ t => t.state.metrics = s.state.metrics := by
    refine .bind ((yields_ensureRoot_metrics n _ rfl).mono fun answer t ht => ?_)
    cases answer with
    | error e => exact yields_pure ht
    | ok id =>
        exact .bind (yields_newId (.bind (yields_now (.bind (yields_state (.bind (yields_now
          (.bind (yields_send_any fun _ _ => yields_pure ht)))))))))
  exact hRecord

/-- A call is counted whatever the sink answers. -/
theorem metrics_log (n : Narrator) (call : Telling) (s : Session Narration σ) :
    (n.log call s).2.state.metrics = call.tally s.state.metrics := by
  cases call with
  | event e => exact n.metrics_record e s
  | note note => exact n.metrics_record note.event _

end

theorem logAll_cons (n : Narrator) (call : Telling) (rest : List Telling)
    (s : Session Narration σ) :
    n.logAll (call :: rest) s = ((n.log call s).1 :: (n.logAll rest (n.log call s).2).1,
      (n.logAll rest (n.log call s).2).2) := by
  simp only [logAll, List.mapM_cons, Work.run_bind, Work.run_pure]

theorem length_logAll (n : Narrator) (calls : List Telling) (s : Session Narration σ) :
    (n.logAll calls s).1.length = calls.length := by
  induction calls generalizing s with
  | nil => rfl
  | cons call rest ih => rw [logAll_cons, List.length_cons, ih, List.length_cons]

theorem metrics_logAll (n : Narrator) (calls : List Telling) (s : Session Narration σ) :
    (n.logAll calls s).2.state.metrics = calls.foldl Telling.tally s.state.metrics := by
  induction calls generalizing s with
  | nil => rfl
  | cons call rest ih => rw [logAll_cons, ih, metrics_log, List.foldl_cons]

/-- One call leaves the metrics as they are exactly if it says nothing new to them, and that does
not depend on its answer. After calls in any order the metrics tell of every attempt: each count
exceeds that of the accepted calls alone by the refused calls that add to it. So the counts tell of
the accepted calls alone exactly if no refused call adds to one of them, and all metrics do if there
is no place in them for any of the refused calls. -/
theorem metrics_tell_every_attempt (n : Narrator) (calls : List Telling)
    {s t : Session Narration σ} {answers : List (Except SinkError String)}
    (hRun : n.logAll calls s = (answers, t)) :
    (∀ call, (n.log call t).2.state.metrics = t.state.metrics ↔
      call.SaysNothingNew t.state.metrics) ∧
    t.state.metrics = calls.foldl Telling.tally s.state.metrics ∧
    ∃ once, once = (Telling.accepted calls answers).foldl Telling.tally s.state.metrics ∧
      (∀ k, t.state.metrics.count k =
        once.count k + (Telling.refused calls answers).countP (·.addsTo k)) ∧
      ((∀ k, t.state.metrics.count k = once.count k) ↔
        ∀ call ∈ Telling.refused calls answers, ∀ k, call.addsTo k = false) ∧
      ((∀ call ∈ Telling.refused calls answers, call.isUntallied = true) →
        t.state.metrics = once) := by
  have hLength : answers.length = calls.length := by
    rw [← n.length_logAll calls s, hRun]
  have hMetrics : t.state.metrics = calls.foldl Telling.tally s.state.metrics := by
    rw [← n.metrics_logAll calls s, hRun]
  have hCounts (k : StoryCount) : t.state.metrics.count k =
      ((Telling.accepted calls answers).foldl Telling.tally s.state.metrics).count k +
        (Telling.refused calls answers).countP (·.addsTo k) := by
    rw [hMetrics, Telling.count_foldl_tally, Telling.count_foldl_tally, Nat.add_assoc,
      Telling.countP_accepted_add_refused _ hLength]
  refine ⟨?call, hMetrics, _, rfl, hCounts, ?counts, ?all⟩
  case call =>
    intro call
    rw [metrics_log, Telling.tally_eq_self_iff]
  case counts =>
    simp only [hCounts, Nat.add_eq_left, List.countP_eq_zero, Bool.not_eq_true]
    exact ⟨fun h call hCall k => h k call hCall, fun h k call hCall => h call hCall k⟩
  case all =>
    intro hRefused
    rw [hMetrics]
    exact Telling.foldl_tally_accepted hLength hRefused _

def firstBeat : StoryNote := .beat ⟨"b1", "It began.", 1, "setup", "generator", none, none, none⟩

/-- A narrator of a story whose sink refuses the next so many spans. -/
def hindered (times : Nat) : Session Narration Gate :=
  ⟨⟨"s1", none, .default⟩, Gate.start.refuse .createSpan times, .counting ⟨0, 0⟩⟩

/-- A beat that is told until it is accepted, at the third attempt. -/
theorem metrics_tell_every_attempt_persistentBeat :
    ∃ answers t,
      logAll ⟨none, none, "trace", true⟩ (List.replicate 3 (.note firstBeat)) (hindered 2) =
        (answers, t) ∧
      (Telling.accepted (List.replicate 3 (.note firstBeat)) answers).length = 1 ∧
      t.sink.store.spans.length = 1 ∧ t.state.metrics.beats = 3 := by
  refine ⟨_, _, rfl, by decide +kernel, by decide +kernel, ?_⟩
  obtain ⟨-, -, once, rfl, hCounts, -⟩ := metrics_tell_every_attempt ⟨none, none, "trace", true⟩
    (List.replicate 3 (.note firstBeat)) (s := hindered 2) rfl
  refine (hCounts .beats).trans ?_
  decide +kernel

/-- A beat that the sink refuses is counted, and so it is counted twice when it is told again. -/
theorem refused_beat_counted :
    ∃ e s, tell ⟨none, none, "trace", true⟩ firstBeat (hindered 1) = (.error e, s) ∧
      s.state.metrics ≠ (hindered 1).state.metrics ∧
      ∃ id t, tell ⟨none, none, "trace", true⟩ firstBeat s = (.ok id, t) ∧
        t.sink.store.spans.length = 1 ∧ t.state.metrics.beats = 2 := by
  refine ⟨_, _, rfl, ?_, _, _, rfl, by decide +kernel, by decide +kernel⟩
  intro hSame
  exact absurd (congrArg StoryMetrics.beats hSame) (by decide +kernel)

end Narrator

end StoryTrace

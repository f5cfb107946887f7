import StoryTrace.Proofs.Story.Rebuilt
import StoryTrace.Proofs.Text.Preview
import StoryTrace.Report.Markdown

/-!
# Documents of finalized stories

The outcome of a story keeps the beginning of its content, and the document of the story that is
read back shows the beginning of what was kept. The second cut leaves the first one as it is, so the
document shows all that the outcome keeps.
-/

namespace StoryTrace

open Text

namespace Report

/-- The document shows this text, whole, as the beginning of the story, after all its other
sections. -/
structure ShowsWhole (c : CompletedStory) (shown : String) : Prop where
  content : c.content = some shown
  lines : markdownLines c = markdownLines { c with content := none } ++
    ["## Story Preview", "", fence, shown, fence]
  document : markdown c = markdown { c with content := none } ++
    ("## Story Preview\n\n\x60\x60\x60\n" ++ shown ++ "\n\x60\x60\x60\n")

variable {c : CompletedStory}

theorem markdownLines_of_content {content : String} (h : c.content = some content) :
    markdownLines c = markdownLines { c with content := none } ++ previewSection content := by
  simp only [markdownLines, h, Option.map_some, Option.map_none, Option.getD_some, Option.getD_none,
    List.append_nil]

theorem joinLines_previewSection (content : String) :
    joinLines (previewSection content) ++ "\n" = "## Story Preview\n\n\x60\x60\x60\n" ++
      preview content markdownPreviewLength ++ "\n\x60\x60\x60\n" := by
  have hHeading : "## Story Preview" ++ "\n" ++ ("" ++ "\n" ++ (fence ++ "\n")) =
      "## Story Preview\n\n\x60\x60\x60\n" := by decide
  have hEnd : "\n" ++ fence ++ "\n" = "\n\x60\x60\x60\n" := by decide
  simp only [joinLines, previewSection, String.intercalate_cons_cons, String.intercalate_singleton]
  simp only [← hHeading, ← hEnd, String.append_assoc]

/-- The beginning of the story comes last in the document. -/
theorem markdown_of_content {content : String} (h : c.content = some content) :
    markdown c = markdown { c with content := none } ++
      (joinLines (previewSection content) ++ "\n") := by
  have hBefore : markdownLines { c with content := none } ≠ [] := by simp [markdownLines]
  have hSection : previewSection content ≠ [] := by simp [previewSection]
  rw [markdown, markdownLines_of_content h, joinLines,
    String.intercalate_append_of_ne_nil hBefore hSection]
  simp only [markdown, joinLines, String.append_assoc]

theorem showsWhole_preview {text : String} {limit : Nat}
    (hContent : c.content = some (preview text limit)) (hRoom : limit + 3 ≤ markdownPreviewLength) :
    ShowsWhole c (preview text limit) := by
  have hShown : preview (preview text limit) markdownPreviewLength = preview text limit :=
    preview_preview_of_add_three_le hRoom
  constructor
  case content => exact hContent
  case lines => rw [markdownLines_of_content hContent, previewSection, hShown]
  case document => rw [markdown_of_content hContent, joinLines_previewSection, hShown]

end Report

namespace Orchestrator

open Report

theorem showsWhole_ofRecords {t : Trace} {text : String} {beatCount : Nat} {durationMs : Float}
    {metrics : Option StoryMetrics}
    (h : t.output = some (outcome (some text) beatCount durationMs metrics)) (records : List Span) :
    ShowsWhole (CompletedStory.ofRecords t records) (preview text previewLength) := by
  apply showsWhole_preview
  case hContent =>
    calc (t.output.bind (·.field? "final_story_preview")).bind Json.string?
      _ = (some text).map (preview · previewLength) := by
        rw [h, Option.bind_some, field?_outcome_preview]
  case hRoom => decide

variable {σ : Type} [Sink σ]

/-- A story that is completed has handed over its outcome and nothing else. -/
theorem handovers_of_finalize {s s' : Session StoryBoard (Watched σ)} {traceId : String}
    {content : Option String} {metrics : Option StoryMetrics} {c : CompletedStory}
    (hFinal : finalize traceId content metrics s = (.ok c, s')) :
    s'.sink.handovers = s.sink.handovers ++ [⟨.updateTrace
      ⟨traceId, some (outcome content c.beatCount c.durationMs metrics), []⟩, none⟩] := by
  have hServed := served_finalize ⟨none, localSystem⟩ traceId content metrics (s := s)
  rw [Work.Yields, hFinal] at hServed
  cases hServed with
  | finalized known hOutput uses => rw [hOutput, Watched.note]

end Orchestrator

open Report Orchestrator

variable {σ : Type} [Sink σ]

/-- A preview that is cut again at a narrower limit is the preview at that limit, and one that is
cut at a limit with room for its dots stays as it is; every cut lies between two characters. So the
beginning of the content that a finalized story hands over to be stored is shown whole by the
document of the story that is read back from a trace with this output, whatever else is known of the
trace and its spans. -/
theorem previews_compose (text : String) (a b : Nat) :
    CutAt text a ∧
    (b ≤ a → preview (preview text a) b = preview text b) ∧
    (a + 3 ≤ b → preview (preview text a) b = preview text a) ∧
    preview (preview text a) a = preview text a ∧
    ∀ (s s' : Session StoryBoard (Watched σ)) (traceId : String) (metrics : Option StoryMetrics)
      (c : CompletedStory), finalize traceId (some text) metrics s = (.ok c, s') →
        ∃ output, s'.sink.handovers = s.sink.handovers ++
            [⟨.updateTrace ⟨traceId, some output, []⟩, none⟩] ∧
          (output.field? "final_story_preview").bind Json.string? =
            some (preview text previewLength) ∧
          ∀ (t : Trace) (records : List Span), t.output = some output →
            ShowsWhole (CompletedStory.ofRecords t records) (preview text previewLength) := by
  refine ⟨cutAt text a, preview_preview_of_le, preview_preview_of_add_three_le,
    preview_preview_self text a, fun s s' traceId metrics c hFinal => ?stored⟩
  case stored =>
    refine ⟨_, handovers_of_finalize hFinal, field?_outcome_preview .., ?shown⟩
    intro t records hOutput
    exact showsWhole_ofRecords hOutput records

/-- A text of that many characters, each of two bytes. -/
def echoes (n : Nat) : String := String.ofList (List.replicate n 'é')

/-- A story that has been begun over a store. -/
def begunStory : Session StoryBoard (Watched Store) :=
  (createRoot ⟨none, "story"⟩ "dusk" none (some "t1") []
    (session Store.empty (.counting ⟨0, 0⟩))).2

theorem previews_compose_echoes :
    preview (preview (echoes 600) 500) 200 = preview (echoes 600) 200 ∧
    preview (preview (echoes 600) 500) 1000 = preview (echoes 600) 500 ∧
    (∃ p : (echoes 600).Pos, cutPos? (echoes 600) 500 = some p ∧
      p.Splits (echoes 500) (echoes 100)) ∧
    ∃ c s' t, finalize "t1" (some (echoes 600)) none begunStory = (.ok c, s') ∧
      s'.sink.sink.trace? "t1" = some t ∧
      ShowsWhole (CompletedStory.ofRecords t (s'.sink.sink.spansOf "t1"))
        (preview (echoes 600) 500) := by
  have hList (n : Nat) : (echoes n).toList = List.replicate n 'é' := String.toList_ofList
  have hLong : 500 < (echoes 600).length := by
    rw [← String.length_toList, hList, List.length_replicate]
    omega
  have hActive : (begunStory.state.active.get? "t1").isSome = true := by decide +kernel
  have hRecord : (begunStory.sink.sink.trace? "t1").isSome = true := by decide +kernel
  obtain ⟨story, known⟩ := Option.isSome_iff_exists.1 hActive
  obtain ⟨t, hTrace⟩ := Option.isSome_iff_exists.1 hRecord
  generalize begunStory = s at *
  have hFinal : finalize "t1" (some (echoes 600)) none s = (.ok (complete s.state story
      (some (echoes 600)) none s.supply.takeTime.1), _) := finalize_of_accepts known rfl rfl
  obtain ⟨hCut, hNarrower, -, -, hStory⟩ := previews_compose (σ := Store) (echoes 600) 500 200
  obtain ⟨-, -, hWider, -, -⟩ := previews_compose (σ := Store) (echoes 600) 500 1000
  obtain ⟨p, hPos, hSplits, -⟩ := hCut.long hLong
  rw [hList, List.take_replicate, List.drop_replicate] at hSplits
  obtain ⟨output, hHanded, -, hShows⟩ := hStory _ _ _ _ _ hFinal
  refine ⟨hNarrower (by omega), hWider (by omega), ⟨p, hPos, hSplits⟩, _, _,
    t.revise (some output) [], hFinal, ?stored, hShows _ _ rfl⟩
  -- The output that was handed over is the one that the store has received.
  cases List.append_cancel_left (hHanded.symm.trans (handovers_of_finalize hFinal))
  refine (s.sink.sink.trace?_reviseTrace "t1" (some _) [] "t1").trans ?_
  rw [hTrace, Option.map_some, if_pos (Store.id_of_trace? hTrace)]
  rfl

end StoryTrace

import StoryTrace.Text.Case

/-!
# Kinds of story events

What an event means for the story that is told. Each kind has a dotted name, whose last part is its
label, and a glyph.
-/

namespace StoryTrace

inductive StoryKind where
  | beatCreated
  | beatAnalyzed
  | beatEnriched
  | beatQualityAssessed
  | characterArcAnalyzed
  | characterArcUpdated
  | characterRelationshipChanged
  | themeDetected
  | themeTensionIdentified
  | themeStrengthChanged
  | themeResolved
  | universeAnalysis
  | universeLeadDetermined
  | universeCoherenceCalculated
  | intentClassified
  | routingDecision
  | flowExecuted
  | flowResult
  | checkpointSaved
  | checkpointRestored
  | episodeBoundary
  | storyStart
  | storyEnd
  | storyMetrics
  | gapIdentified
  | gapRemediated
  | webhookReceived
  | webhookTransformed
  deriving DecidableEq, Repr, Inhabited

namespace StoryKind

def all : List StoryKind := [
  .beatCreated, .beatAnalyzed, .beatEnriched, .beatQualityAssessed,
  .characterArcAnalyzed, .characterArcUpdated, .characterRelationshipChanged,
  .themeDetected, .themeTensionIdentified, .themeStrengthChanged, .themeResolved,
  .universeAnalysis, .universeLeadDetermined, .universeCoherenceCalculated,
  .intentClassified, .routingDecision, .flowExecuted, .flowResult,
  .checkpointSaved, .checkpointRestored, .episodeBoundary,
  .storyStart, .storyEnd, .storyMetrics,
  .gapIdentified, .gapRemediated, .webhookReceived, .webhookTransformed]

/-- The dotted name. -/
def text : StoryKind → String
  | .beatCreated => "narrative.beat.created"
  | .beatAnalyzed => "narrative.beat.analyzed"
  | .beatEnriched => "narrative.beat.enriched"
  | .beatQualityAssessed => "narrative.beat.quality_assessed"
  | .characterArcAnalyzed => "narrative.character.arc_analyzed"
  | .characterArcUpdated => "narrative.character.arc_updated"
  | .characterRelationshipChanged => "narrative.character.relationship"
  | .themeDetected => "narrative.theme.detected"
  | .themeTensionIdentified => "narrative.theme.tension"
  | .themeStrengthChanged => "narrative.theme.strength_changed"
  | .themeResolved => "narrative.theme.resolved"
  | .universeAnalysis => "narrative.universe.analysis"
  | .universeLeadDetermined => "narrative.universe.lead"
  | .universeCoherenceCalculated => "narrative.universe.coherence"
  | .intentClassified => "narrative.routing.intent"
  | .routingDecision => "narrative.routing.decision"
  | .flowExecuted => "narrative.routing.flow_executed"
  | .flowResult => "narrative.routing.flow_result"
  | .checkpointSaved => "narrative.checkpoint.saved"
  | .checkpointRestored => "narrative.checkpoint.restored"
  | .episodeBoundary => "narrative.checkpoint.episode_boundary"
  | .storyStart => "narrative.story.start"
  | .storyEnd => "narrative.story.end"
  | .storyMetrics => "narrative.story.metrics"
  | .gapIdentified => "narrative.gap.identified"
  | .gapRemediated => "narrative.gap.remediated"
  | .webhookReceived => "narrative.webhook.received"
  | .webhookTransformed => "narrative.webhook.transformed"

def glyph : StoryKind → String
  | .beatCreated => "📝"
  | .beatAnalyzed => "🔍"
  | .beatEnriched => "✨"
  | .beatQualityAssessed => "📊"
  | .characterArcAnalyzed => "🎭"
  | .characterArcUpdated => "📈"
  | .characterRelationshipChanged => "🤝"
  | .themeDetected => "🎨"
  | .themeTensionIdentified => "⚡"
  | .themeStrengthChanged => "📶"
  | .themeResolved => "🎯"
  | .universeAnalysis => "🌌"
  | .universeLeadDetermined => "🎯"
  | .universeCoherenceCalculated => "🔄"
  | .intentClassified => "🧭"
  | .routingDecision => "🚀"
  | .flowExecuted => "⚙️"
  | .flowResult => "✅"
  | .checkpointSaved => "💾"
  | .checkpointRestored => "🔙"
  | .episodeBoundary => "📺"
  | .storyStart => "📖"
  | .storyEnd => "📕"
  | .storyMetrics => "📈"
  | .gapIdentified => "🕳️"
  | .gapRemediated => "🩹"
  | .webhookReceived => "🔔"
  | .webhookTransformed => "🔄"

def names : List (String × StoryKind) := all.map fun k => (k.text, k)

/-- The kind with the given dotted name. -/
def ofText? (s : String) : Option StoryKind := names.lookup s

/-- The message for a name that no kind has. -/
def unknownMessage (s : String) : String := "unknown narrative event type: " ++ s

/-- The last part of the dotted name, as a title. -/
def label (k : StoryKind) : String :=
  let last := ((Text.splitAt '.' k.text.toList).getLast?).getD []
  Text.titleCase (Text.spaced (String.ofList last))

def displayName (k : StoryKind) : String := k.glyph ++ " " ++ k.label

theorem mem_all (k : StoryKind) : k ∈ all := by cases k <;> decide

/-- The dotted names tell the kinds apart. -/
@[simp] theorem ofText?_text (k : StoryKind) : ofText? k.text = some k := by
  have hAll : ∀ k ∈ all, ofText? k.text = some k := by decide +kernel
  exact hAll k k.mem_all

end StoryKind

end StoryTrace

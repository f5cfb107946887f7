import StoryTrace.Proofs.Session
import StoryTrace.Story.Narrator

/-!
# Programs of a narrator

The work that a host program can do with a narrator: what the narrator offers, in any order, where
every step may depend on what came of the steps before. A story may be told within another one.
-/

namespace StoryTrace.Narrator

variable {σ : Type} [Sink σ]

/-- The work consists of what the narrator offers. -/
inductive Handles (n : Narrator) : {α : Type} → Work Narration σ α → Prop
  | pure {α : Type} (a : α) : Handles n (pure a : Work Narration σ α)
  | bind {α β : Type} {work : Work Narration σ α} {next : α → Work Narration σ β} :
      Handles n work → (∀ a, Handles n (next a)) → Handles n (work >>= next)
  /-- What is known of the story can be asked for at any time. -/
  | state : Handles n Work.state
  | ensureRoot : Handles n n.ensureRoot
  | headers : Handles n n.headers
  | receive (h : Headers) : Handles n (n.receive h)
  | record (e : StoryEvent) : Handles n (n.record e)
  | tell (note : StoryNote) : Handles n (n.tell note)
  | generate {α : Type} (storyId : Option String) {work : String → Work Narration σ α} :
      (∀ traceId, Handles n (work traceId)) → Handles n (n.generate storyId work)
  | reset : Handles n reset
  | flush : Handles n Work.flush
  | close : Handles n n.close

end StoryTrace.Narrator

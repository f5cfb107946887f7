import StoryTrace.Proofs.Story.Dealings

/-!
# Steps

What a host program does with an orchestrator, one step after the other, each with the ids and the
clock readings that it gets. So a step can be taken in one run just as it was taken in another one.
-/

namespace StoryTrace.Orchestrator

variable {σ : Type}

/-- What a host program does for a story: a call, or asking for the headers of a request. -/
inductive Deed where
  | call (c : Call)
  | inject (headers : Headers) (traceId parentId : Option String)

inductive Reply where
  | response (r : Response)
  | headers (h : Option Headers)

/-- A deed, with the ids and the clock readings that it gets. -/
structure Step where
  deed : Deed
  supply : Supply

namespace Step

/-- The step names no trace but the given one. -/
def About (t : String) (q : Step) : Prop :=
  match q.deed with
  | .call (.createRoot _ _ traceId _) => traceId.getD q.supply.takeId.1 = t
  | .call (.openSpan traceId _) => traceId = t
  | .call (.link traceId _ _) => traceId = t
  | .call (.finalize traceId _ _) => traceId = t
  | .call (.setOutput _ _) => True
  | .call (.setError _ _) => True
  | .inject _ traceId _ => ∀ key, traceId = some key → key = t

/-- The span that the step gives an output or an error. -/
def revises? (q : Step) : Option String :=
  match q.deed with
  | .call c => c.request.revises?
  | .inject .. => none

end Step

section

variable [Sink σ]

def perform (o : Orchestrator) : Deed → Work StoryBoard (Watched σ) Reply
  | .call c => .response <$> o.respond c.request
  | .inject h traceId parentId => do return .headers (inject (← Work.state) h traceId parentId)

def take (o : Orchestrator) (q : Step) : Work StoryBoard (Watched σ) Reply :=
  fun s => o.perform q.deed { s with supply := q.supply }

/-- Steps in the given order, each with the reply to it. -/
def takeAll (o : Orchestrator) (steps : List Step) :
    Work StoryBoard (Watched σ) (List (Step × Reply)) :=
  steps.mapM fun q => do return (q, ← o.take q)

theorem takeAll_cons (o : Orchestrator) (q : Step) (rest : List Step)
    (s : Session StoryBoard (Watched σ)) :
    o.takeAll (q :: rest) s = ((q, (o.take q s).1) :: (o.takeAll rest (o.take q s).2).1,
      (o.takeAll rest (o.take q s).2).2) := by
  simp only [takeAll, List.mapM_cons, Work.run_bind, Work.run_pure]

theorem map_takeAll (o : Orchestrator) (steps : List Step) (s : Session StoryBoard (Watched σ)) :
    (o.takeAll steps s).1.map (·.1) = steps := by
  induction steps generalizing s with
  | nil => rfl
  | cons q rest ih => rw [takeAll_cons, List.map_cons, ih]

/-- Deeds over one supply, as steps: each gets what is left of the supply. -/
def stepsOf (o : Orchestrator) : List Deed → Session StoryBoard (Watched σ) → List Step
  | [], _ => []
  | d :: rest, s => ⟨d, s.supply⟩ :: o.stepsOf rest (o.perform d s).2

theorem takeAll_stepsOf_cons (o : Orchestrator) (d : Deed) (rest : List Deed)
    (s : Session StoryBoard (Watched σ)) :
    o.takeAll (o.stepsOf (d :: rest) s) s =
      ((⟨d, s.supply⟩, (o.perform d s).1) ::
          (o.takeAll (o.stepsOf rest (o.perform d s).2) (o.perform d s).2).1,
        (o.takeAll (o.stepsOf rest (o.perform d s).2) (o.perform d s).2).2) :=
  o.takeAll_cons ..

theorem takeAll_stepsOf (o : Orchestrator) (deeds : List Deed)
    (s : Session StoryBoard (Watched σ)) :
    (o.takeAll (o.stepsOf deeds s) s).1.map (·.1.deed) = deeds ∧
      (o.takeAll (o.stepsOf deeds s) s).1.map (·.2) = (deeds.mapM o.perform s).1 ∧
      (o.takeAll (o.stepsOf deeds s) s).2 = (deeds.mapM o.perform s).2 := by
  induction deeds generalizing s with
  | nil => exact ⟨rfl, rfl, rfl⟩
  | cons d rest ih =>
      obtain ⟨hDeeds, hReplies, hSession⟩ := ih (o.perform d s).2
      rw [takeAll_stepsOf_cons, List.map_cons, List.map_cons, hDeeds, hReplies, hSession,
        List.mapM_cons]
      exact ⟨rfl, rfl, rfl⟩

end

/-! ## The spans of a run -/

/-- The span that the step has opened, with its trace. -/
def opened? : Step × Reply → Option (String × String)
  | (⟨.call (.openSpan traceId _), _⟩, .response (.span (.ok id))) => some (traceId, id)
  | _ => none

/-- The span was opened for the trace in the run. -/
def Opens (done : List (Step × Reply)) (traceId id : String) : Prop :=
  (traceId, id) ∈ done.filterMap opened?

theorem opens_of_mem {done : List (Step × Reply)} {traceId id : String} {span : SpanCall}
    {supply : Supply} {reply : Reply} (h : (⟨.call (.openSpan traceId span), supply⟩, reply) ∈ done)
    (hReply : reply = .response (.span (.ok id))) : Opens done traceId id :=
  List.mem_filterMap.2 ⟨_, h, hReply ▸ rfl⟩

theorem of_opened?_eq_some {p : Step × Reply} {traceId id : String}
    (h : opened? p = some (traceId, id)) :
    (∃ span supply, p.1 = ⟨.call (.openSpan traceId span), supply⟩) ∧
      p.2 = .response (.span (.ok id)) := by
  unfold opened? at h
  split at h
  case h_1 =>
    cases h
    exact ⟨⟨_, _, rfl⟩, rfl⟩
  case h_2 => cases h

/-- A span that is opened gets the id that comes next in the supply. -/
theorem Served.takes {o : Orchestrator} {q : Request} {response : Response}
    {s s' : Session StoryBoard (Watched σ)} (h : Served o s q response s') :
    ∃ n, s.supply.Uses n s'.supply ∧ ∀ id, response = .span (.ok id) →
      id = s.supply.ids (s.supply.idsUsed + 0) ∧ 0 < n := by
  cases h with
  | spanOpened _ uses =>
      refine ⟨1, uses, fun id hId => ⟨?_, Nat.one_pos⟩⟩
      cases hId
      rfl
  | rootCreated _ _ uses => exact ⟨2, uses, nofun⟩
  | rootRefused uses => exact ⟨2, uses, nofun⟩
  | spanRefused uses => exact ⟨1, uses, nofun⟩
  | revised _ _ _ _ _ uses => exact ⟨0, uses, nofun⟩
  | closed _ _ _ _ _ _ _ uses => exact ⟨0, uses, nofun⟩
  | finalizeRefused uses => exact ⟨0, uses, nofun⟩
  | finalized _ _ uses => exact ⟨0, uses, nofun⟩
  | _ => exact ⟨0, ⟨rfl, rfl⟩, nofun⟩

section

variable [Sink σ]

theorem perform_takes (o : Orchestrator) (d : Deed) (s : Session StoryBoard (Watched σ)) :
    ∃ n, s.supply.Uses n (o.perform d s).2.supply ∧
      ∀ p, opened? (⟨d, s.supply⟩, (o.perform d s).1) = some p →
        p.2 = s.supply.ids (s.supply.idsUsed + 0) ∧ 0 < n := by
  cases d with
  | inject headers traceId parentId => exact ⟨0, ⟨rfl, rfl⟩, nofun⟩
  | call c =>
      obtain ⟨n, uses, hOpens⟩ := (served_respond o c.request s).takes
      refine ⟨n, uses, fun p hOpened => ?_⟩
      exact hOpens p.2 (Reply.response.inj (of_opened?_eq_some hOpened).2)

/-- Over a supply that gives no id twice, every span of a run has an id of its own. -/
theorem nodup_opened (o : Orchestrator) (deeds : List Deed) {s : Session StoryBoard (Watched σ)}
    (hFresh : s.supply.Fresh) :
    (((o.takeAll (o.stepsOf deeds s) s).1.filterMap opened?).map (·.2)).Nodup ∧
      ∀ p ∈ (o.takeAll (o.stepsOf deeds s) s).1.filterMap opened?, ¬ s.supply.Gave p.2 := by
  induction deeds generalizing s with
  | nil => exact ⟨.nil, List.forall_mem_nil _⟩
  | cons d rest ih =>
      obtain ⟨n, uses, hTakes⟩ := perform_takes o d s
      obtain ⟨hNodup, hNew⟩ := ih (uses.fresh hFresh)
      have hLater (p : String × String)
          (hp : p ∈ (o.takeAll (o.stepsOf rest (o.perform d s).2)
            (o.perform d s).2).1.filterMap opened?) : ¬ s.supply.Gave p.2 :=
        fun hGave => hNew p hp (uses.gave hGave)
      rw [takeAll_stepsOf_cons]
      cases hOpened : opened? (⟨d, s.supply⟩, (o.perform d s).1) with
      | none =>
          rw [List.filterMap_cons_none hOpened]
          exact ⟨hNodup, hLater⟩
      | some p =>
          obtain ⟨hId, hn⟩ := hTakes p hOpened
          rw [List.filterMap_cons_some hOpened, List.map_cons, List.nodup_cons]
          refine ⟨⟨fun hMem => ?_, hNodup⟩, List.forall_mem_cons.2 ⟨?_, hLater⟩⟩
          · obtain ⟨p', hp', hSame⟩ := List.mem_map.1 hMem
            exact hNew p' hp' (hSame ▸ hId ▸ uses.gave_taken hn)
          · rw [hId]
            exact hFresh.not_gave 0

theorem eq_of_opens (o : Orchestrator) (deeds : List Deed) {s : Session StoryBoard (Watched σ)}
    (hFresh : s.supply.Fresh) {t u id : String}
    (ht : Opens (o.takeAll (o.stepsOf deeds s) s).1 t id)
    (hu : Opens (o.takeAll (o.stepsOf deeds s) s).1 u id) : t = u :=
  congrArg Prod.fst (List.inj_on_of_nodup_map (nodup_opened o deeds hFresh).1 ht hu rfl)

end

end StoryTrace.Orchestrator

import Mathlib.Data.List.DropRight
import StoryTrace.Run.Map

/-!
# Uses of a run map

The calls that can change a run map, with the replies to them, and what these tell by themselves:
the trace that a run was assigned, the span that was registered for it, how the span was closed and
opened again, and which traces were met. What a run was told before it was forgotten counts no more.
-/

namespace StoryTrace

/-- A place of a longer list is the last one, or a place of the list before. -/
theorem split_append_singleton {α : Type} {items before after : List α} {new a : α}
    (h : items ++ [new] = before ++ a :: after) :
    (before = items ∧ a = new ∧ after = []) ∨
      ∃ earlier, after = earlier ++ [new] ∧ items = before ++ a :: earlier := by
  rcases List.append_eq_append_iff.1 h with ⟨between, rfl, hLast⟩ | ⟨between, rfl, hAfter⟩
  · cases between with
    | nil =>
        obtain ⟨rfl, rfl⟩ := List.cons.inj hLast
        simp
    | cons => simp at hLast
  · cases between with
    | nil =>
        obtain ⟨rfl, rfl⟩ := List.cons.inj hAfter
        simp
    | cons first earlier =>
        obtain ⟨rfl, rfl⟩ := List.cons.inj hAfter
        exact .inr ⟨earlier, rfl, rfl⟩

namespace RunMap

inductive Call where
  | resolve (run : RunId) (parent : Option RunId) (policy : TracePolicy) (fresh : String)
  | register (run : RunId) (spanId : String) (type : SpanType)
  | close (run : RunId)
  | reopen (run : RunId)
  | forget (run : RunId) (release : Bool)
  deriving DecidableEq, Repr

inductive Reply where
  | resolved (found : Resolution)
  | registered (done : Bool)
  | closed (taken : Option ClosedRun)
  | reopened (done : Bool)
  | forgotten
  deriving DecidableEq, Repr

/-- A call and the reply to it. -/
structure Use where
  call : Call
  reply : Reply
  deriving DecidableEq, Repr

/-- What can happen to the span of a run. -/
inductive Turn where
  | registered
  | closed
  | reopened
  deriving DecidableEq, Repr

namespace Turn

/-- The span is open after the turn. -/
def opens : Turn → Bool
  | .closed => false
  | .registered | .reopened => true

/-- An open span is closed, and a closed one is opened again. -/
inductive Precedes : Turn → Turn → Prop where
  | registered : Precedes .registered .closed
  | closed : Precedes .closed .reopened
  | reopened : Precedes .reopened .closed

end Turn

namespace Call

def run : Call → RunId
  | .resolve run _ _ _ | .register run _ _ | .close run | .reopen run | .forget run _ => run

def forgets : Call → Bool
  | .forget _ _ => true
  | _ => false

/-- The trace of the run is to count as not met any more. -/
def releases : Call → Bool
  | .forget _ release => release
  | _ => false

end Call

namespace Reply

def traceId? : Reply → Option String
  | .resolved found => some found.traceId
  | _ => none

/-- What has happened to the span, if the call was successful. -/
def turn? : Reply → Option Turn
  | .registered true => some .registered
  | .closed (some _) => some .closed
  | .reopened true => some .reopened
  | _ => none

end Reply

/-- The span that the use has registered. -/
def Use.registration? : Use → Option (String × SpanType)
  | ⟨.register _ spanId type, .registered true⟩ => some (spanId, type)
  | _ => none

/-! ## What the uses tell -/

/-- The uses for a run since it was last forgotten. -/
def current (run : RunId) (uses : List Use) : List Use :=
  (uses.filter (·.call.run = run)).rtakeWhile (!·.call.forgets)

/-- The run was assigned the trace. -/
def AssignedTo (uses : List Use) (run : RunId) (traceId : String) : Prop :=
  ∃ u ∈ current run uses, u.reply.traceId? = some traceId

/-- The span was registered for the run. -/
def RegisteredAs (uses : List Use) (run : RunId) (spanId : String) (type : SpanType) : Prop :=
  ∃ u ∈ current run uses, u.registration? = some (spanId, type)

/-- What has happened to the span of the run, in this order. -/
def turns (run : RunId) (uses : List Use) : List Turn :=
  (current run uses).filterMap (·.reply.turn?)

/-- A run that was assigned no trace is assigned this one. -/
def Joins (before : List Use) (u : Use) (traceId : String) : Prop :=
  u.reply.traceId? = some traceId ∧ ∀ other, ¬ AssignedTo before u.call.run other

/-- A run of the trace is forgotten, and the trace with it. -/
def Releases (before : List Use) (u : Use) (traceId : String) : Prop :=
  u.call.releases = true ∧ AssignedTo before u.call.run traceId

/-- A run has joined the trace, and the trace was not released since. -/
def Met (uses : List Use) (traceId : String) : Prop :=
  ∃ before u after, uses = before ++ u :: after ∧ Joins before u traceId ∧
    ∀ first v last, after = first ++ v :: last → ¬ Releases (before ++ u :: first) v traceId

section

variable {uses : List Use} {u : Use} {run : RunId} {traceId : String}

theorem current_append_singleton_of_ne (h : u.call.run ≠ run) (uses : List Use) :
    current run (uses ++ [u]) = current run uses := by
  simp [current, h]

theorem current_append_singleton (uses : List Use) (u : Use) :
    current u.call.run (uses ++ [u]) =
      if u.call.forgets then [] else current u.call.run uses ++ [u] := by
  have hOwn : [u].filter (·.call.run = u.call.run) = [u] := by simp
  rw [current, List.filter_append, hOwn, List.rtakeWhile_concat]
  cases u.call.forgets <;> rfl

/-- What a run was told still counts after uses that do not forget the run. -/
theorem mem_current_append {more : List Use} (hMem : u ∈ current run uses)
    (hKept : ∀ v ∈ more, v.call.run = run → v.call.forgets = false) :
    u ∈ current run (uses ++ more) := by
  induction more generalizing uses with
  | nil => simpa using hMem
  | cons v rest ih =>
      have hNext : u ∈ current run (uses ++ [v]) := by
        by_cases hRun : v.call.run = run
        · have hForgets := hKept v (by simp) hRun
          subst hRun
          rw [current_append_singleton, hForgets]
          exact List.mem_append_left _ hMem
        · rwa [current_append_singleton_of_ne hRun]
      have hRest := ih hNext fun w hw => hKept w (List.mem_cons_of_mem v hw)
      simpa using hRest

/-- A trace counts as met if it is joined last, or was met before and is not released last. -/
theorem met_append_singleton :
    Met (uses ++ [u]) traceId ↔
      Joins uses u traceId ∨ Met uses traceId ∧ ¬ Releases uses u traceId := by
  constructor
  · rintro ⟨before, v, after, hSplit, hJoins, hKept⟩
    rcases split_append_singleton hSplit with ⟨rfl, rfl, rfl⟩ | ⟨earlier, rfl, rfl⟩
    · exact .inl hJoins
    · refine .inr ⟨⟨before, v, earlier, rfl, hJoins, ?_⟩, hKept earlier u [] rfl⟩
      rintro first w last rfl
      exact hKept first w (last ++ [u]) (by simp)
  · rintro (hJoins | ⟨⟨before, v, after, rfl, hJoins, hKept⟩, hLast⟩)
    · exact ⟨uses, u, [], rfl, hJoins, fun first w last hNil => by simp at hNil⟩
    · refine ⟨before, v, after ++ [u], by simp, hJoins, ?_⟩
      intro first w last hSplit
      rcases split_append_singleton hSplit with ⟨rfl, rfl, rfl⟩ | ⟨earlier, rfl, rfl⟩
      · exact hLast
      · exact hKept first w earlier rfl

end

/-! ## Calls in order -/

def reply (m : RunMap) : Call → Reply × RunMap
  | .resolve run parent policy fresh =>
    let (found, next) := m.resolve run parent (policy.join fresh)
    (.resolved found, next)
  | .register run spanId type =>
    let (done, next) := m.register run spanId type
    (.registered done, next)
  | .close run =>
    match m.close run with
    | some (taken, next) => (.closed (some taken), next)
    | none => (.closed none, m)
  | .reopen run =>
    let (done, next) := m.reopen run
    (.reopened done, next)
  | .forget run release => (.forgotten, m.forget run release)

/-- The uses that calls in the given order make, and the map after them. -/
def useAll (m : RunMap) : List Call → List Use × RunMap
  | [] => ([], m)
  | c :: rest =>
    let (uses, last) := (m.reply c).2.useAll rest
    (⟨c, (m.reply c).1⟩ :: uses, last)

theorem useAll_cons (m : RunMap) (c : Call) (rest : List Call) :
    m.useAll (c :: rest) =
      (⟨c, (m.reply c).1⟩ :: ((m.reply c).2.useAll rest).1, ((m.reply c).2.useAll rest).2) := rfl

theorem map_call_useAll (m : RunMap) (calls : List Call) :
    (m.useAll calls).1.map (·.call) = calls := by
  induction calls generalizing m with
  | nil => rfl
  | cons c rest ih => rw [useAll_cons, List.map_cons, ih]

/-- What every call keeps holds after any calls, whatever the map was used for before. -/
theorem useAll_induction {motive : List Use → RunMap → Prop}
    (hStep : ∀ {uses m} (c : Call), motive uses m →
      motive (uses ++ [⟨c, (m.reply c).1⟩]) (m.reply c).2)
    {uses : List Use} {m : RunMap} (h : motive uses m) (calls : List Call) :
    motive (uses ++ (m.useAll calls).1) (m.useAll calls).2 := by
  induction calls generalizing uses m with
  | nil => simpa [useAll] using h
  | cons c rest ih =>
      rw [useAll_cons]
      simpa using ih (hStep c h)

end RunMap

end StoryTrace

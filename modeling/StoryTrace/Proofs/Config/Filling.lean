import StoryTrace.Command.Perform

/-!
# Settings from several sources

Filling settings from the environment works field by field, so filling them from one environment
after another is the same as filling them once from all of them, where the first one that has a
value other than a blank one answers. The settings in force are filled after the options of the
command line and those of the file.
-/

namespace StoryTrace

/-- The settings that an environment can give. -/
inductive TracingField where
  | host
  | publicKey
  | secretKey
  | sessionId
  | traceId
  | storyId
  deriving DecidableEq, Repr

/-- The variable that a setting comes from. -/
def TracingField.variableName : TracingField → String
  | .host => TracingConfig.hostVariable
  | .publicKey => TracingConfig.publicKeyVariable
  | .secretKey => TracingConfig.secretKeyVariable
  | .sessionId => TracingConfig.sessionVariable
  | .traceId => TracingConfig.traceVariable
  | .storyId => TracingConfig.storyVariable

/-- The setting that the command line gives. -/
def GlobalOptions.setting? (o : GlobalOptions) : TracingField → Option String
  | .sessionId => o.sessionId
  | .storyId => o.storyId
  | _ => none

namespace Lookup

open TracingConfig (present)

/-- The first environment where it has a value that is not blank, and elsewhere the second. -/
def before (first second : Lookup) : Lookup := fun name =>
  if (present (first name)).isSome then first name else second name

/-- Each environment before those that follow it. -/
def layered (environments : List Lookup) : Lookup := environments.foldr before fun _ => none

theorem present_before (first second : Lookup) (name : String) :
    present (first.before second name) = (present (first name)).or (present (second name)) := by
  rw [before]
  cases h : present (first name) <;> simp [h]

/-- The first value that is not blank counts. -/
theorem present_layered (environments : List Lookup) (name : String) :
    present (layered environments name) =
      environments.findSome? fun environment => present (environment name) := by
  induction environments with
  | nil => rfl
  | cons first rest ih =>
      rw [layered, List.foldr_cons, ← layered, present_before, ih, List.findSome?_cons]
      cases present (first name) <;> rfl

end Lookup

namespace TracingConfig

open Lookup (layered)

def setting? (c : TracingConfig) : TracingField → Option String
  | .host => c.host
  | .publicKey => c.publicKey
  | .secretKey => c.secretKey
  | .sessionId => c.sessionId
  | .traceId => c.traceId
  | .storyId => c.storyId

theorem eq_of_setting?_eq {c d : TracingConfig} (hSettings : ∀ f, c.setting? f = d.setting? f)
    (hName : c.traceName = d.traceName) (hFlush : c.flushOnClose = d.flushOnClose) : c = d := by
  obtain ⟨host, publicKey, secretKey, sessionId, traceId, storyId, traceName, flushOnClose⟩ := c
  obtain rfl : host = d.host := hSettings .host
  obtain rfl : publicKey = d.publicKey := hSettings .publicKey
  obtain rfl : secretKey = d.secretKey := hSettings .secretKey
  obtain rfl : sessionId = d.sessionId := hSettings .sessionId
  obtain rfl : traceId = d.traceId := hSettings .traceId
  obtain rfl : storyId = d.storyId := hSettings .storyId
  subst hName hFlush
  rfl

theorem present_eq_some_iff {value : Option String} {s : String} :
    present value = some s ↔ value = some s ∧ Text.blank s = false := by
  simp [present, Option.filter_eq_some_iff]

@[simp] theorem setting?_fill (c : TracingConfig) (environment : Lookup) (f : TracingField) :
    (c.fill environment).setting? f =
      (c.setting? f).or (present (environment f.variableName)) := by
  cases f <;> exact Option.orElse_eq_or ..

@[simp] theorem traceName_fill (c : TracingConfig) (environment : Lookup) :
    (c.fill environment).traceName = c.traceName := rfl

@[simp] theorem flushOnClose_fill (c : TracingConfig) (environment : Lookup) :
    (c.fill environment).flushOnClose = c.flushOnClose := rfl

theorem fill_fill (c : TracingConfig) (first second : Lookup) :
    (c.fill first).fill second = c.fill (first.before second) := by
  apply eq_of_setting?_eq
  · intro f
    simp only [setting?_fill, Lookup.present_before, Option.or_assoc]
  · rfl
  · rfl

theorem fill_fill_self (c : TracingConfig) (environment : Lookup) :
    (c.fill environment).fill environment = c.fill environment := by
  apply eq_of_setting?_eq
  · intro f
    simp only [setting?_fill, Option.or_assoc, Option.or_self]
  · rfl
  · rfl

theorem fill_nothing (c : TracingConfig) : c.fill (fun _ => none) = c := by
  apply eq_of_setting?_eq
  · intro f
    exact (c.setting?_fill _ f).trans (Option.or_none ..)
  · rfl
  · rfl

/-- Filling from environments one after the other is filling from all of them at once. -/
theorem foldl_fill (environments : List Lookup) (c : TracingConfig) :
    environments.foldl fill c = c.fill (layered environments) := by
  induction environments generalizing c with
  | nil => exact c.fill_nothing.symm
  | cons first rest ih =>
      calc (first :: rest).foldl fill c
        _ = (c.fill first).fill (layered rest) := ih (c.fill first)
        _ = c.fill (layered (first :: rest)) := c.fill_fill first (layered rest)

/-- A setting stays as it is, be it empty, and one that is missing is filled with a value that is
not blank. -/
theorem setting?_fill_eq_some_iff {c : TracingConfig} {environment : Lookup} {f : TracingField}
    {s : String} :
    (c.fill environment).setting? f = some s ↔ c.setting? f = some s ∨
      c.setting? f = none ∧ environment f.variableName = some s ∧ Text.blank s = false := by
  rw [setting?_fill, Option.or_eq_some_iff, present_eq_some_iff]

theorem setting?_tracing (o : GlobalOptions) (p : ProgramConfig) (environment : Lookup)
    (f : TracingField) :
    (Command.tracing o p environment).setting? f =
      (o.setting? f).or ((p.tracing.setting? f).or (present (environment f.variableName))) := by
  rw [Command.tracing, setting?_fill, ← Option.or_assoc]
  congr 1
  cases f with
  | sessionId | storyId => exact Option.orElse_eq_or ..
  | host | publicKey | secretKey | traceId => exact (Option.none_or ..).symm

/-- Settings are filled from environments one after the other as from all of them at once, the first
one before the second, and once more without a change. A field that is set stays as it is, a blank
value fills none, and the name of traces and whether they are flushed do not come from the
environment. So a setting in force is that of the command line, or else that of the file, or else
that of the environment unless it is blank, which, if there are several environments, is the first
one that is not blank. -/
theorem settings_layered (c : TracingConfig) (environments : List Lookup) (first second : Lookup)
    (o : GlobalOptions) (p : ProgramConfig) :
    (c.fill first).fill second = c.fill (first.before second) ∧
      environments.foldl fill c = c.fill (layered environments) ∧
      (c.fill first).fill first = c.fill first ∧
      (∀ f s, (c.fill first).setting? f = some s ↔ c.setting? f = some s ∨
        c.setting? f = none ∧ first f.variableName = some s ∧ Text.blank s = false) ∧
      (c.fill first).traceName = c.traceName ∧ (c.fill first).flushOnClose = c.flushOnClose ∧
      (∀ f, (Command.tracing o p first).setting? f =
        (o.setting? f).or ((p.tracing.setting? f).or (present (first f.variableName)))) ∧
      (∀ f, (Command.tracing o p (layered environments)).setting? f =
        (o.setting? f).or ((p.tracing.setting? f).or
          (environments.findSome? fun environment => present (environment f.variableName)))) ∧
      (Command.tracing o p first).traceName = p.tracing.traceName ∧
      (Command.tracing o p first).flushOnClose = p.tracing.flushOnClose := by
  refine ⟨c.fill_fill first second, foldl_fill environments c, c.fill_fill_self first,
    fun f s => setting?_fill_eq_some_iff, rfl, rfl, setting?_tracing o p first, ?_, rfl, rfl⟩
  intro f
  rw [setting?_tracing, Lookup.present_layered]

/-- A blank value does not stand before a later one. -/
example : ((default.fill fun _ => some " ").fill fun _ => some "late").setting? .sessionId =
    some "late" := by
  decide

end TracingConfig

end StoryTrace

import StoryTrace.Error
import StoryTrace.Store.Basic

/-!
# Sinks

A sink receives writes and may refuse any of them. What it has not passed on yet is pending until
the next flush.
-/

namespace StoryTrace

class Sink (σ : Type) where
  name : σ → String
  /-- Hands a write over. -/
  send : Write → σ → Except SinkError Unit × σ
  /-- Passes on what is pending. -/
  flush : σ → Except SinkError Unit × σ
  /-- The number of writes that wait for the next flush. -/
  pending : σ → Nat

/-- The name of a sink whose calls are reported. -/
def Sink.reportedName (name : String) : String := "logging(" ++ name ++ ")"

/-- The calls that a sink can refuse. -/
inductive SinkCall where
  | createTrace
  | createSpan
  | endSpan
  | updateTrace
  | flush
  deriving DecidableEq, Repr

namespace SinkCall

def text : SinkCall → String
  | .createTrace => "create_trace"
  | .createSpan => "create_span"
  | .endSpan => "end_span"
  | .updateTrace => "update_trace"
  | .flush => "flush"

def all : List SinkCall := [.createTrace, .createSpan, .endSpan, .updateTrace, .flush]

def ofText? (s : String) : Option SinkCall := all.find? (·.text == s)

def ofWrite : Write → SinkCall
  | .createTrace _ => .createTrace
  | .createSpan _ => .createSpan
  | .endSpan _ => .endSpan
  | .updateTrace _ => .updateTrace

end SinkCall

/-- A store accepts every write and has nothing to pass on. -/
instance : Sink Store where
  name _ := "memory"
  send w s := (.ok (), s.receive w)
  flush s := (.ok (), { s with flushes := s.flushes + 1 })
  pending _ := 0

/-- A store that refuses the next so many calls of each kind. -/
structure Gate where
  store : Store
  refusals : SinkCall → Nat

namespace Gate

/-- An empty store that refuses nothing. -/
def start : Gate := ⟨.empty, fun _ => 0⟩

/-- Refuses that many calls of a kind, from now on. -/
def refuse (g : Gate) (call : SinkCall) (times : Nat) : Gate :=
  { g with refusals := fun c => if c = call then times else g.refusals c }

def refused (call : SinkCall) : SinkError := .internal (call.text ++ " refused")

/-- Lets a call through, or counts it as refused. -/
def pass (g : Gate) (call : SinkCall) (next : Store → Store) : Except SinkError Unit × Gate :=
  match g.refusals call with
  | 0 => (.ok (), { g with store := next g.store })
  | n + 1 => (.error (refused call), g.refuse call n)

instance : Sink Gate where
  name _ := "test"
  send w g := g.pass (.ofWrite w) (·.receive w)
  flush g := g.pass .flush fun s => { s with flushes := s.flushes + 1 }
  pending _ := 0

theorem pass_of_refusals_eq_zero {g : Gate} {call : SinkCall} {next : Store → Store}
    (h : g.refusals call = 0) : g.pass call next = (.ok (), { g with store := next g.store }) := by
  simp [pass, h]

theorem pass_of_refusals_eq_succ {g : Gate} {call : SinkCall} {next : Store → Store} {n : Nat}
    (h : g.refusals call = n + 1) : g.pass call next = (.error (refused call), g.refuse call n) := by
  simp [pass, h]

theorem store_pass_of_error {g : Gate} {call : SinkCall} {next : Store → Store} {e : SinkError}
    (h : (g.pass call next).1 = .error e) : (g.pass call next).2.store = g.store := by
  unfold pass at h ⊢
  split <;> simp_all [refuse]

end Gate

end StoryTrace

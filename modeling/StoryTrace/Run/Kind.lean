import StoryTrace.Json.Layout
import StoryTrace.Record.Basic

/-!
# Operation kinds

What a run of a host program is a run of. The kind decides the glyph before its name, the name that
stands in for a missing one, and how its span is shown.
-/

namespace StoryTrace

inductive OperationKind where
  | completion
  | chat
  | chain
  | tool
  | retriever
  | agent
  | generic
  deriving DecidableEq, Repr

namespace OperationKind

def all : List OperationKind := [.completion, .chat, .chain, .tool, .retriever, .agent, .generic]

/-- The name of a kind in records that name it. -/
def wireName : OperationKind → String
  | .completion => "llm"
  | .chat => "chat_model"
  | .chain => "chain"
  | .tool => "tool"
  | .retriever => "retriever"
  | .agent => "agent"
  | .generic => "generic"

def names : List (String × OperationKind) := all.map fun k => (k.wireName, k)

def toJson (k : OperationKind) : Json := .string k.wireName

def ofJson? : Json → Option OperationKind := Json.choice? names

/-- The short word for a kind. -/
def text : OperationKind → String
  | .completion => "llm"
  | .chat => "chat"
  | .chain => "chain"
  | .tool => "tool"
  | .retriever => "retriever"
  | .agent => "agent"
  | .generic => "run"

def glyph : OperationKind → String
  | .completion => "🤖"
  | .chat => "💬"
  | .chain => "🔗"
  | .tool => "🔧"
  | .retriever => "📚"
  | .agent => "🧭"
  | .generic => "⚙️"

/-- The name of a run that has no better one. -/
def fallbackName : OperationKind → String
  | .completion => "LLM"
  | .chat => "ChatModel"
  | .chain => "Chain"
  | .tool => "Tool"
  | .retriever => "Retriever"
  | .agent => "Agent"
  | .generic => "Run"

/-- Calls of models are shown as generations. -/
def spanType : OperationKind → SpanType
  | .completion | .chat => .generation
  | _ => .span

/-- What is shown when a name is empty. -/
def unnamed : String := "Unnamed"

/-- A name with the glyph of its kind before it, unless it already starts with the glyph. -/
def decorate (k : OperationKind) (name : String) : String :=
  if name = "" then unnamed
  else if k.glyph.toList.isPrefixOf name.toList then name
  else k.glyph ++ " " ++ name

@[simp] theorem ofJson?_toJson (k : OperationKind) : ofJson? k.toJson = some k := by
  cases k <;> rfl

end OperationKind

end StoryTrace

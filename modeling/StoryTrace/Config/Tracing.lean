import StoryTrace.Error
import StoryTrace.Json.Layout
import StoryTrace.Sink.Batch
import StoryTrace.Text.Blank

/-!
# Tracing settings

Settings come from explicit values, a file and the environment, in this order: a later source only
fills what is still unset, and blank values of the environment do not count as values.
-/

namespace StoryTrace

structure TracingConfig where
  host : Option String
  publicKey : Option String
  secretKey : Option String
  sessionId : Option String
  traceId : Option String
  storyId : Option String
  traceName : String
  flushOnClose : Bool
  deriving DecidableEq, Repr

/-- The variables of an environment. -/
abbrev Lookup := String → Option String

namespace TracingConfig

def defaultHost : String := "https://cloud.langfuse.com"

def defaultTraceName : String := "🧠 Callback Execution"

def hostVariable : String := "LANGFUSE_HOST"

def publicKeyVariable : String := "LANGFUSE_PUBLIC_KEY"

def secretKeyVariable : String := "LANGFUSE_SECRET_KEY"

def sessionVariable : String := "COAIAPY_SESSION_ID"

def traceVariable : String := "COAIAPY_TRACE_ID"

def storyVariable : String := "NARRATIVE_STORY_ID"

/-- The variables that settings can come from. -/
def variableNames : List String :=
  [hostVariable, publicKeyVariable, secretKeyVariable, sessionVariable, traceVariable,
    storyVariable]

def default : TracingConfig := ⟨none, none, none, none, none, none, defaultTraceName, true⟩

instance : Inhabited TracingConfig := ⟨default⟩

/-- A value if it is not blank. -/
def present (v : Option String) : Option String := v.filter fun s => !Text.blank s

/-- Fills every unset field from the environment. -/
def fill (c : TracingConfig) (env : Lookup) : TracingConfig :=
  { c with
    host := c.host.orElse fun _ => present (env hostVariable)
    publicKey := c.publicKey.orElse fun _ => present (env publicKeyVariable)
    secretKey := c.secretKey.orElse fun _ => present (env secretKeyVariable)
    sessionId := c.sessionId.orElse fun _ => present (env sessionVariable)
    traceId := c.traceId.orElse fun _ => present (env traceVariable)
    storyId := c.storyId.orElse fun _ => present (env storyVariable) }

/-- The host without slashes at its end, or the usual one if nothing is left of it. -/
def hostUrl (c : TracingConfig) : String :=
  match (c.host.map Endpoint.withoutSlashes).filter (· ≠ "") with
  | some host => host
  | none => defaultHost

def unset (name : String) : SinkError := .configuration (name ++ " is not set")

/-- The public and the secret key, or a failure that names the first missing one. -/
def credentials (c : TracingConfig) : Except SinkError (String × String) :=
  match c.publicKey, c.secretKey with
  | none, _ => .error (unset publicKeyVariable)
  | some _, none => .error (unset secretKeyVariable)
  | some publicKey, some secretKey => .ok (publicKey, secretKey)

def hasCredentials (c : TracingConfig) : Bool := c.publicKey.isSome && c.secretKey.isSome

/-- Where batches are posted. -/
def endpoint (c : TracingConfig) : Except SinkError Endpoint :=
  c.credentials.map fun (publicKey, secretKey) => .new c.hostUrl publicKey secretKey

def toJson (c : TracingConfig) : Json :=
  .object [("host", .ofOption .string c.host), ("public_key", .ofOption .string c.publicKey),
    ("secret_key", .ofOption .string c.secretKey), ("session_id", .ofOption .string c.sessionId),
    ("trace_id", .ofOption .string c.traceId), ("story_id", .ofOption .string c.storyId),
    ("trace_name", .string c.traceName), ("flush_on_close", .bool c.flushOnClose)]

/-- Every field may be absent and then has its default. -/
def ofLayout? (l : Json.Layout) : Option TracingConfig := do
  let host ← l.optional 0 "host" Json.string?
  let publicKey ← l.optional 1 "public_key" Json.string?
  let secretKey ← l.optional 2 "secret_key" Json.string?
  let sessionId ← l.optional 3 "session_id" Json.string?
  let traceId ← l.optional 4 "trace_id" Json.string?
  let storyId ← l.optional 5 "story_id" Json.string?
  let traceName ← l.withDefault 6 "trace_name" defaultTraceName Json.string?
  let flushOnClose ← l.withDefault 7 "flush_on_close" true Json.bool?
  return { host, publicKey, secretKey, sessionId, traceId, storyId, traceName, flushOnClose }

def ofJson? (v : Json) : Option TracingConfig := (Json.Layout.of? 0 8 v).bind ofLayout?

end TracingConfig

end StoryTrace

import ModelPort.Gateway.Handler
import ModelPort.Lib.Json
import ModelPort.Stream.Sse

/-!
# Stream translators

What the four translators of upstream streams share: the events they yield, the lines of the
frames they read (`Input`), the operations of the stream lifecycle, and how usage is read from
JSON.

A translator is a generator (`Translator`) over its own variables and the lifecycle. It is left
by `return`, by `break`, or by the error operator, which adds an error item to the output
(`translate`). JSON texts are parsed and written by `Serde`; the typed records are read from the
parsed value. The clock readings of the lifecycle are left out.
-/

namespace ModelPort

open Generator Generator.Gen

/-! ### Usage objects -/

/-- The larger of two usages, counter by counter. -/
def TokenUsageBreakdown.sup (a b : TokenUsageBreakdown) : TokenUsageBreakdown where
  inputTokens := max a.inputTokens b.inputTokens
  outputTokens := max a.outputTokens b.outputTokens
  cacheWriteTokens := max a.cacheWriteTokens b.cacheWriteTokens
  cacheReadTokens := max a.cacheReadTokens b.cacheReadTokens

namespace Stream

open Gateway

def getU64 (value : Json) (fields : List String) : ℕ :=
  (fields.findSome? fun field => (value.get field).bind Json.asUnsigned).getD 0

/-- The first path that leads to a number. -/
def getNestedU64 (value : Json) (paths : List (List String)) : ℕ :=
  (paths.findSome? fun path =>
    (path.foldl (fun current segment => (current.get segment).getD .null) value).asUnsigned).getD 0

variable (response : Json)

def openaiUsage : TokenUsageBreakdown :=
  match response.get "usage" with
  | none => {}
  | some usage =>
    let promptTokens := getU64 usage ["prompt_tokens", "input_tokens"]
    let deepseekCacheMiss := getU64 usage ["prompt_cache_miss_tokens"]
    let cacheReadTokens := max (getU64 usage ["prompt_cache_hit_tokens"])
      (getNestedU64 usage [["prompt_tokens_details", "cached_tokens"],
        ["input_tokens_details", "cached_tokens"]])
    { inputTokens :=
        if 0 < deepseekCacheMiss then deepseekCacheMiss else promptTokens - cacheReadTokens
      outputTokens := getU64 usage ["completion_tokens", "output_tokens"]
      cacheWriteTokens :=
        max (getU64 usage ["cache_creation_input_tokens", "prompt_cache_write_tokens"])
          (getNestedU64 usage [["prompt_tokens_details", "cache_write_tokens"],
            ["input_tokens_details", "cache_write_tokens"]])
      cacheReadTokens := cacheReadTokens }

/-- An object under `usage` that has one of the fields. -/
def hasUsageField (fields : List String) (response : Json) : Bool :=
  match response.get "usage" with
  | some usage => usage.isObject && fields.any fun field => (usage.get field).isSome
  | none => false

def openaiUsageIfPresent : Option TokenUsageBreakdown :=
  if hasUsageField ["prompt_tokens", "input_tokens", "completion_tokens", "output_tokens",
      "prompt_cache_hit_tokens", "prompt_cache_miss_tokens", "cache_creation_input_tokens",
      "prompt_cache_write_tokens", "prompt_tokens_details", "input_tokens_details"] response
  then some (openaiUsage response) else none

def anthropicUsage : TokenUsageBreakdown :=
  match response.get "usage" with
  | none => {}
  | some usage =>
    { inputTokens := getU64 usage ["input_tokens"]
      outputTokens := getU64 usage ["output_tokens"]
      cacheWriteTokens := getU64 usage ["cache_creation_input_tokens"]
      cacheReadTokens := getU64 usage ["cache_read_input_tokens"] }

def anthropicUsageIfPresent : Option TokenUsageBreakdown :=
  if hasUsageField ["input_tokens", "output_tokens", "cache_creation_input_tokens",
      "cache_read_input_tokens"] response
  then some (anthropicUsage response) else none

/-- The usage of an Anthropic event: that of its message, or else its own. -/
def anthropicEventUsage (event : Json) : Option TokenUsageBreakdown :=
  ((event.get "message").bind anthropicUsageIfPresent).or (anthropicUsageIfPresent event)

def openaiReportedCost : Option ℚ :=
  (((response.get "usage").bind (·.get "cost")).bind Json.asNumber).filter (0 ≤ ·)

end Stream

/-! ### The stream lifecycle -/

namespace Gateway.Lifecycle

def markCompleted (l : Lifecycle) : Lifecycle :=
  if l.state = .pending then { l with state := .completed } else l

def markFailed (error : String) (l : Lifecycle) : Lifecycle :=
  if l.state = .pending then { l with state := .failed error } else l

def mergeUsage (usage : TokenUsageBreakdown) (l : Lifecycle) : Lifecycle :=
  { l with usage := some ((l.usage.getD {}).sup usage) }

def mergeProviderReportedCost (cost : ℚ) (l : Lifecycle) : Lifecycle :=
  if cost < 0 then l
  else { l with providerReportedCost := some (l.providerReportedCost.elim cost (max · cost)) }

def observeResponseFragment (toolCallCount : ℕ) (textPresent : Bool) (l : Lifecycle) : Lifecycle :=
  { l with
    toolCallCount := max l.toolCallCount toolCallCount
    textPresent := l.textPresent || textPresent }

/-- What a response reports, if anything. -/
def mergeReported (usage : Option TokenUsageBreakdown) (cost : Option ℚ) (l : Lifecycle) :
    Lifecycle :=
  let l := match usage with
    | some usage => l.mergeUsage usage
    | none => l
  match cost with
  | some cost => l.mergeProviderReportedCost cost
  | none => l

@[simp] lemma state_mergeReported (usage : Option TokenUsageBreakdown) (cost : Option ℚ)
    (l : Lifecycle) : (l.mergeReported usage cost).state = l.state := by
  cases usage <;> cases cost <;>
    simp only [mergeReported, mergeUsage, mergeProviderReportedCost] <;> split_ifs <;> rfl

variable {l : Lifecycle}

lemma state_markCompleted (h : l.state = .pending) : l.markCompleted.state = .completed := by
  rw [markCompleted, if_pos h]

lemma state_markFailed (h : l.state = .pending) (error : String) :
    (l.markFailed error).state = .failed error := by
  rw [markFailed, if_pos h]

end Gateway.Lifecycle

namespace Stream

open Gateway

/-! ### Events -/

/-- The data of an event: a value that is written as JSON, or a text passed on. -/
inductive EventData where
  | json (value : Json)
  | text (text : String)

/-- An event for the client. -/
structure SseEvent where
  event : Option String := none
  id : Option String := none
  retry : Option ℕ := none
  comments : List String := []
  data : EventData

/-- An event with the metadata of the frame it stems from. -/
def eventWithMetadata (frame : SseFrame) (name : Option String) (data : EventData) : SseEvent where
  event := name
  id := frame.id
  retry := frame.retry
  comments := frame.comments
  data := data

def anthropicEvent (event : String) (data : Json) : SseEvent where
  event := some event
  data := .json data

/-- The name the Anthropic protocol has for an error. -/
def anthropicErrorKind : AppError → String
  | .invalidRequest _ | .idempotencyConflict _ | .stateConflict _ | .notFound _
  | .providerNotFound _ | .pricingUnverified _ => "invalid_request_error"
  | .auth => "authentication_error"
  | .forbidden _ => "permission_error"
  | .quotaExceeded _ | .rateLimited _ _ => "rate_limit_error"
  | .missingSecret _ | .config _ | .database _ | .notReady _ => "server_error"
  | .transport _ | .upstream _ _ _ | .upstreamProtocol _ | .toolArgumentsInvalid _ _ _ =>
    "api_error"
  | .io _ | .json _ => "server_error"

def anthropicErrorEvent (error : AppError) : SseEvent :=
  anthropicEvent "error" (.obj [("type", .str "error"),
    ("error", .obj [("type", .str (anthropicErrorKind error)),
      ("message", .str error.clientMessage)])])

def openaiEvent (data : EventData) : SseEvent := { data := data }

/-- An error in the OpenAI protocol. -/
def openaiErrorValue (message : String) : Json :=
  .obj [("error", .obj [("message", .str message), ("type", .str "api_error"),
    ("code", .str "upstream_stream_error")])]

def openaiErrorEvent (error : AppError) : SseEvent :=
  openaiEvent (.json (openaiErrorValue error.display))

/-! ### Input -/

/-- What the transport hands over: the frames of a stream, or errors. -/
abbrev Upstream := List (Except AppError SseFrame)

/-- The lines of a frame's data that are looked at. -/
def dataLines (frame : SseFrame) : List String :=
  ((lines frame.data).map trim).filter (· ≠ "")

/-- A line of a frame, or an error in a frame's place. -/
inductive Input where
  | failure (error : AppError)
  | line (frame : SseFrame) (data : String)

def inputsOf : Except AppError SseFrame → List Input
  | .error error => [.failure error]
  | .ok frame => (dataLines frame).map (.line frame)

/-- The index of an Anthropic event's content block. -/
def blockIndex (event : Json) : Option ℕ := (event.get "index").bind Json.asUnsigned

/-- The type of an Anthropic event: its own, or else that of its frame. -/
def eventType (frame : SseFrame) (event : Json) : String :=
  ((event.getString "type").or frame.event).getD "message"

/-- All lines of a stream, in order. -/
def Upstream.inputs (frames : Upstream) : List Input := frames.flatMap inputsOf

/-- The JSON parser and writer. -/
structure Serde where
  /-- `serde_json::from_str` -/
  fromStr : String → Except String Json
  /-- what the parser says of a value that is no record of the wanted type -/
  mismatch : String → String
  /-- `serde_json::to_string` -/
  toText : Json → String
  /-- the first value of a text, with the number of characters it takes -/
  firstValue : List Char → Option (Json × ℕ)

/-! ### Translators -/

/-- How a translator is left early. -/
inductive Leave where
  /-- `return` -/
  | returned
  /-- `break`, out of the loops over frames and lines -/
  | broke
  /-- the error operator -/
  | failed (error : AppError)

/-- The state of a running translator: its variables, and the lifecycle it reports to. -/
structure Running (σ : Type) where
  vars : σ
  lifecycle : Lifecycle

abbrev Translator (σ α : Type) := Gen (Running σ) SseEvent Leave α

namespace Translator

variable {σ α : Type}

def vars : Translator σ σ := do
  let s ← get
  pure s.vars

def setVars (f : σ → σ) : Translator σ Unit := modify fun s => { s with vars := f s.vars }

def report (f : Lifecycle → Lifecycle) : Translator σ Unit :=
  modify fun s => { s with lifecycle := f s.lifecycle }

/-- The error operator. -/
def attempt (x : Except AppError α) : Translator σ α :=
  match x with
  | .ok a => pure a
  | .error error => leave (.failed error)

/-- The stream has failed: the client is told by `event`, and nothing follows. -/
def fail (message : String) (event : SseEvent) : Translator σ α := do
  report (·.markFailed message)
  yield event
  leave .returned

variable (onFailure : AppError → Translator σ Unit)

variable (onLine : SseFrame → String → Translator σ Unit)

/-- The loops over the frames and their lines. -/
def forEachLine (frames : Upstream) : Translator σ Unit :=
  forEach (fun frame =>
    match frame with
    | .error error => onFailure error
    | .ok frame => forEach (onLine frame) (dataLines frame)) frames

/-- What is done with a line, or an error. -/
def onInput : Input → Translator σ Unit
  | .failure error => onFailure error
  | .line frame data => onLine frame data

/-- The two loops are one loop over all lines. -/
lemma forEachLine_eq (frames : Upstream) :
    forEachLine onFailure onLine frames = forEach (onInput onFailure onLine) frames.inputs := by
  rw [Upstream.inputs, forEach_flatMap]
  refine congrArg (fun body => forEach body frames) (funext fun frame => ?_)
  cases frame with
  | error error => exact (bind_pure _).symm
  | ok frame =>
    show _ = forEach _ ((dataLines frame).map _)
    rw [forEach_map]
    rfl

end Translator

/-- The output of a translator, and what it has reported. -/
structure Translation where
  output : List (Except AppError SseEvent)
  lifecycle : Lifecycle

/-- A translator is run to its end. -/
def translate {σ : Type} (x : Translator σ Unit) (vars : σ) : Translation :=
  let outcome := x ⟨vars, {}⟩
  { output := outcome.items.map .ok ++
      (match outcome.result with
      | .error (.failed error) => [.error error]
      | _ => [])
    lifecycle := outcome.state.lifecycle }

end Stream

end ModelPort

import ModelPort.Lib.OrdMap
import ModelPort.Stream.Translation

/-!
# Streams for OpenAI clients

`openaiStreamPassthrough` passes the chunks of an OpenAI upstream on, `anthropicStreamToOpenai`
translates the events of an Anthropic upstream into chunks. Both end the output with `[DONE]` or
with a chunk that has an `error`.
-/

namespace ModelPort.Stream

open Generator Generator.Gen Gateway Translator

/-! ### Pass-through -/

/-- `observe_openai_stream_chunk` for one choice: tool calls, text. The index of a tool call is
widened by one in machine arithmetic. -/
def observedInChoice (choice : Json) : ℕ × Bool :=
  match choice.get "delta" with
  | none => (0, false)
  | some delta =>
    let calls := match (delta.get "tool_calls").bind Json.asArray with
      | none => 0
      | some calls =>
        match (calls.filterMap fun call => (call.get "index").bind Json.asUnsigned).max? with
        | some index => (index + 1) % 2 ^ 64
        | none => calls.length
    let functionCall := if ((delta.get "function_call").map Json.isObject).getD false then 1 else 0
    (max calls functionCall, (delta.getString "content").any (· ≠ ""))

/-- The choices of a chunk. -/
def choicesOf (chunk : Json) : List Json := ((chunk.get "choices").bind Json.asArray).getD []

def observeOpenaiStreamChunk (chunk : Json) (l : Lifecycle) : Lifecycle :=
  let observed := (choicesOf chunk).map observedInChoice
  l.observeResponseFragment ((observed.map (·.1)).foldl max 0) (observed.any (·.2))

/-- Some choice of the chunk has a reason to finish. -/
def hasFinishReason (chunk : Json) : Bool :=
  (choicesOf chunk).any fun choice => (choice.get "finish_reason").any (!·.isNull)

structure PassthroughVars where
  sawChunk : Bool := false
  sawFinishReason : Bool := false

section

variable (serde : Serde) (requestedModel : String)

def doneEvent : SseEvent := openaiEvent (.text "[DONE]")

def failOpenai {σ : Type} (error : AppError) : Translator σ Unit :=
  fail error.display (openaiErrorEvent error)

/-- The end that was not announced by `[DONE]`. -/
def completeOpenai {σ : Type} : Translator σ Unit := do
  report (·.markCompleted)
  yield doneEvent
  leave .returned

def passthroughFailure (error : AppError) : Translator PassthroughVars Unit := do
  let s ← vars
  if s.sawFinishReason then completeOpenai else failOpenai error

def passthroughDone (frame : SseFrame) (data : String) : Translator PassthroughVars Unit := do
  let s ← vars
  if s.sawChunk then do
    report (·.markCompleted)
    yield (eventWithMetadata frame none (.text data))
    leave .returned
  else
    failOpenai (.upstreamProtocol "OpenAI-compatible stream ended before sending any chunks")

def passthroughChunk (frame : SseFrame) (chunk : Json) : Translator PassthroughVars Unit := do
  let chunk := chunk.replace "model" (.str requestedModel)
  setVars fun s => { s with sawChunk := true }
  if (chunk.get "error").isSome then
    fail (AppError.upstreamProtocol
        ("OpenAI-compatible stream returned an error event: " ++ serde.toText chunk)).display
      (eventWithMetadata frame none (.json chunk))
  else do
    report (·.mergeReported (openaiUsageIfPresent chunk) (openaiReportedCost chunk))
    report (observeOpenaiStreamChunk chunk)
    setVars fun s => { s with sawFinishReason := s.sawFinishReason || hasFinishReason chunk }
    yield (eventWithMetadata frame none (.json chunk))

def passthroughLine (frame : SseFrame) (data : String) : Translator PassthroughVars Unit :=
  if data = "[DONE]" then passthroughDone frame data
  else
    match serde.fromStr data with
    | .error error =>
      failOpenai (.upstreamProtocol
        ("invalid OpenAI-compatible SSE chunk: " ++ error ++ "; data: " ++ data))
    | .ok chunk => passthroughChunk serde requestedModel frame chunk

def passthroughEnd : Translator PassthroughVars Unit := do
  let s ← vars
  if s.sawChunk && s.sawFinishReason then completeOpenai
  else
    failOpenai (.upstreamProtocol "OpenAI-compatible stream ended without [DONE] or finish_reason")

def openaiStreamPassthrough (frames : Upstream) : Translator PassthroughVars Unit := do
  forEachLine passthroughFailure (passthroughLine serde requestedModel) frames
  passthroughEnd

end

/-! ### Anthropic upstreams -/

structure AnthropicVars where
  completionId : String
  messageStarted : Bool := false
  finishEmitted : Bool := false
  toolIndexes : OrdMap ℕ := []
  nextToolIndex : ℕ := 0
  textPresent : Bool := false
  /-- the number of identifiers made so far -/
  idsMade : ℕ := 1

/-- What a translation to OpenAI is set up with. `newId` are the identifiers that are made. -/
structure OpenaiSetup where
  serde : Serde
  requestedModel : String
  includeUsage : Bool
  created : ℕ
  newId : ℕ → String

def mapAnthropicStopReason (reason : String) : String :=
  if reason = "max_tokens" then "length" else if reason = "tool_use" then "tool_calls" else "stop"

def openaiUsageValue (usage : TokenUsageBreakdown) : Json :=
  let prompt :=
    saturatingAdd (saturatingAdd usage.inputTokens usage.cacheWriteTokens) usage.cacheReadTokens
  .obj [("prompt_tokens", .int prompt),
    ("completion_tokens", .int usage.outputTokens),
    ("total_tokens", .int (saturatingAdd prompt usage.outputTokens)),
    ("prompt_tokens_details", .obj [("cached_tokens", .int usage.cacheReadTokens)])]

def openaiChunkEvent (id : String) (created : ℕ) (model : String) (delta finishReason : Json) :
    SseEvent :=
  openaiEvent (.json (.obj [("id", .str id), ("object", .str "chat.completion.chunk"),
    ("created", .int created), ("model", .str model),
    ("choices", .arr [.obj [("index", .int 0), ("delta", delta), ("logprobs", .null),
      ("finish_reason", finishReason)]])]))

def openaiUsageChunkEvent (id : String) (created : ℕ) (model : String)
    (usage : TokenUsageBreakdown) : SseEvent :=
  openaiEvent (.json (.obj [("id", .str id), ("object", .str "chat.completion.chunk"),
    ("created", .int created), ("model", .str model), ("choices", .arr []),
    ("usage", openaiUsageValue usage)]))

section

variable (setup : OpenaiSetup)

/-- A chunk of the completion. -/
def yieldChunk (delta finishReason : Json) : Translator AnthropicVars Unit := do
  let s ← vars
  yield (openaiChunkEvent s.completionId setup.created setup.requestedModel delta finishReason)

/-- The chunk that opens a message. -/
def yieldRole : Translator AnthropicVars Unit :=
  yieldChunk setup (.obj [("role", .str "assistant"), ("content", .str "")]) .null

variable (event : Json)

def onMessageStart : Translator AnthropicVars Unit := do
  setVars fun s =>
    match ((event.get "message").bind (·.getString "id")).filter (startsWith · "chatcmpl-") with
    | some id => { s with completionId := id, messageStarted := true }
    | none => { s with
        completionId := "chatcmpl-" ++ setup.newId s.idsMade
        idsMade := s.idsMade + 1
        messageStarted := true }
  yieldRole setup

/-- A tool call is opened. -/
def onToolUse (event block : Json) : Translator AnthropicVars Unit := do
  let s ← vars
  setVars fun s => { s with
    toolIndexes := s.toolIndexes.put ((blockIndex event).getD s.nextToolIndex) s.nextToolIndex
    nextToolIndex := saturatingAdd s.nextToolIndex 1 }
  report (·.observeResponseFragment (saturatingAdd s.nextToolIndex 1) s.textPresent)
  yieldChunk setup (.obj [("tool_calls", .arr [.obj [("index", .int s.nextToolIndex),
    ("id", .str ((block.getString "id").getD "call_modelport")), ("type", .str "function"),
    ("function", .obj [("name", .str ((block.getString "name").getD "tool")),
      ("arguments", .str "")])]])]) .null

/-- The message is opened, if it was not. -/
def ensureRole : Translator AnthropicVars Unit := do
  let s ← vars
  if s.messageStarted then pure ()
  else do
    setVars fun s => { s with messageStarted := true }
    yieldRole setup

def onContentBlockStart : Translator AnthropicVars Unit := do
  ensureRole setup
  let block := (event.get "content_block").getD .null
  if block.getString "type" = some "tool_use" then onToolUse setup event block else pure ()

def noteTextDelta (delta : Json) : Translator AnthropicVars Unit :=
  if (delta.getString "text").any (· ≠ "") then do
    let s ← vars
    setVars fun s => { s with textPresent := true }
    report (·.observeResponseFragment s.nextToolIndex true)
  else pure ()

def onTextDelta (delta : Json) : Translator AnthropicVars Unit := do
  noteTextDelta delta
  yieldChunk setup (.obj [("content", .str ((delta.getString "text").getD ""))]) .null

def onInputDelta (event delta : Json) : Translator AnthropicVars Unit := do
  let s ← vars
  let toolIndex := (s.toolIndexes.lookup ((blockIndex event).getD 0)).getD 0
  yieldChunk setup (.obj [("tool_calls", .arr [.obj [("index", .int toolIndex),
    ("function", .obj [("arguments", .str ((delta.getString "partial_json").getD ""))])]])]) .null

def onContentBlockDelta : Translator AnthropicVars Unit :=
  let delta := (event.get "delta").getD .null
  if delta.getString "type" = some "text_delta" then onTextDelta setup delta
  else if delta.getString "type" = some "input_json_delta" then onInputDelta setup event delta
  else pure ()

def onMessageDelta : Translator AnthropicVars Unit := do
  let s ← vars
  let stopReason := ((event.get "delta").bind (·.getString "stop_reason")).getD "end_turn"
  setVars fun s => { s with finishEmitted := true }
  report (·.observeResponseFragment s.nextToolIndex s.textPresent)
  yieldChunk setup (.obj []) (.str (mapAnthropicStopReason stopReason))

def yieldUsageOf (completionId : String) : Option TokenUsageBreakdown →
    Translator AnthropicVars Unit
  | some usage =>
    if setup.includeUsage then
      yield (openaiUsageChunkEvent completionId setup.created setup.requestedModel usage)
    else pure ()
  | none => pure ()

/-- The usage chunk, if the client wants one and there is a usage. -/
def yieldUsage : Translator AnthropicVars Unit := do
  let s ← get
  yieldUsageOf setup s.vars.completionId s.lifecycle.usage

/-- The chunk with the reason to finish, if there was none. -/
def ensureFinish : Translator AnthropicVars Unit := do
  let s ← vars
  if s.finishEmitted then pure () else yieldChunk setup (.obj []) (.str "stop")

def onMessageStop : Translator AnthropicVars Unit := do
  ensureFinish setup
  report (·.markCompleted)
  yieldUsage setup
  yield doneEvent
  leave .returned

def onErrorEvent : Translator AnthropicVars Unit :=
  let message := ((event.get "error").bind (·.getString "message")).getD
    "Anthropic stream returned an error event"
  fail message (openaiEvent (.json (openaiErrorValue message)))

def onAnthropicEvent (frame : SseFrame) (event : Json) : Translator AnthropicVars Unit := do
  report (·.mergeReported (anthropicEventUsage event) none)
  match eventType frame event with
  | "message_start" => onMessageStart setup event
  | "content_block_start" => onContentBlockStart setup event
  | "content_block_delta" => onContentBlockDelta setup event
  | "message_delta" => onMessageDelta setup event
  | "message_stop" => onMessageStop setup
  | "error" => onErrorEvent event
  | _ => pure ()

def anthropicLine (frame : SseFrame) (data : String) : Translator AnthropicVars Unit :=
  if data = "[DONE]" then pure ()
  else
    match setup.serde.fromStr data with
    | .error error =>
      failOpenai (.upstreamProtocol
        ("invalid Anthropic SSE event: " ++ error ++ "; data: " ++ data))
    | .ok event => onAnthropicEvent setup frame event

def anthropicStreamToOpenai (frames : Upstream) : Translator AnthropicVars Unit := do
  forEachLine failOpenai (anthropicLine setup) frames
  failOpenai (.upstreamProtocol "Anthropic stream ended without a message_stop event")

end

end ModelPort.Stream

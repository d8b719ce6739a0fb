import ModelPort.Lib.OrdMap
import ModelPort.Stream.ToolPolicy

/-!
# OpenAI streams for Anthropic clients

`openaiStreamToAnthropic` translates the chunks of an OpenAI upstream into the events of an
Anthropic message. It reads up to the first chunk with a reason to finish, or up to `[DONE]`; then
the tool calls are validated as a whole, the open content blocks are closed, and the message ends
with `message_stop`.

A chunk is read into `OpenAiStreamChunk`. Members other than those of the record, an `error` among
them, are ignored.
-/

namespace ModelPort.Stream

open Generator Generator.Gen Gateway Translator

/-! ### Text that may come again -/

/-- The longest beginning of `content`, of two characters or more, with which `seen` ends. -/
def suffixPrefixOverlap (seen content : List Char) : ℕ :=
  ((List.range (content.length + 1)).filter fun n =>
    2 ≤ n && (content.take n).isSuffixOf seen).getLastD 0

/-- `text_delta`: what is new in `content`, and what was seen with it. -/
def textDelta (seen content : String) (deduplicate : Bool) : String × String :=
  if content = "" then ("", seen)
  else if !deduplicate then (content, seen ++ content)
  else if startsWith content seen then
    (String.ofList (content.toList.drop seen.toList.length), content)
  else if startsWith seen content then ("", seen)
  else if endsWith seen content then ("", seen)
  else if 3 ≤ content.length ∧ contains seen content = true then ("", seen)
  else
    let delta := String.ofList
      (content.toList.drop (suffixPrefixOverlap seen.toList content.toList))
    (delta, seen ++ delta)

/-! ### Chunks -/

/-- A piece of a function. -/
structure OpenAiFunctionDelta where
  name : Option String := none
  arguments : Option String := none

/-- A piece of a tool call. -/
structure OpenAiToolCallDelta where
  index : ℕ
  id : Option String := none
  function : Option OpenAiFunctionDelta := none

/-- A piece of a message. -/
structure OpenAiStreamDelta where
  content : Option String := none
  toolCalls : Option (List OpenAiToolCallDelta) := none
  functionCall : Option OpenAiFunctionDelta := none

/-- A choice of a chunk. -/
structure OpenAiStreamChoice where
  delta : OpenAiStreamDelta := {}
  finishReason : Option String := none

/-- A chunk of the stream. -/
structure OpenAiStreamChunk where
  choices : List OpenAiStreamChoice := []
  usage : Option Json := none

section

open Json

def OpenAiFunctionDelta.read (json : Json) : Option OpenAiFunctionDelta := do
  let [name, arguments] ← json.members ["name", "arguments"] | none
  return {
    name := ← defaulted (asOption asString) none name
    arguments := ← defaulted (asOption asString) none arguments }

def OpenAiToolCallDelta.read (json : Json) : Option OpenAiToolCallDelta := do
  let [index, id, function] ← json.members ["index", "id", "function"] | none
  return {
    index := ← required asUnsigned index
    id := ← defaulted (asOption asString) none id
    function := ← defaulted (asOption OpenAiFunctionDelta.read) none function }

def OpenAiStreamDelta.read (json : Json) : Option OpenAiStreamDelta := do
  let [content, toolCalls, functionCall] ← json.members ["content", "tool_calls", "function_call"]
    | none
  return {
    content := ← defaulted (asOption asString) none content
    toolCalls := ← defaulted (asOption (asList OpenAiToolCallDelta.read)) none toolCalls
    functionCall := ← defaulted (asOption OpenAiFunctionDelta.read) none functionCall }

def OpenAiStreamChoice.read (json : Json) : Option OpenAiStreamChoice := do
  let [delta, finishReason] ← json.members ["delta", "finish_reason"] | none
  return {
    delta := ← defaulted OpenAiStreamDelta.read {} delta
    finishReason := ← defaulted (asOption asString) none finishReason }

def OpenAiStreamChunk.read (json : Json) : Option OpenAiStreamChunk := do
  let [choices, usage] ← json.members ["choices", "usage"] | none
  return {
    choices := ← defaulted (asList OpenAiStreamChoice.read) [] choices
    usage := ← defaulted (asOption some) none usage }

end

variable (serde : Serde)

/-- `serde_json::from_str` for a chunk. -/
def Serde.readChunk (data : String) : Except String OpenAiStreamChunk :=
  match serde.fromStr data with
  | .error error => .error error
  | .ok json =>
    match OpenAiStreamChunk.read json with
    | some chunk => .ok chunk
    | none => .error (serde.mismatch data)

/-! ### Tool calls -/

/-- A tool call so far. -/
structure ToolState where
  index : ℕ
  upstreamId : Option String := none
  name : Option String := none
  started : Bool := false
  argumentsSeen : String := ""
  rawArguments : List String := []
  pendingArguments : String := ""
  allArguments : String := ""

/-- The longest of the objects that begin at some brace of a text, if it is longer than `best`. -/
def collectCompleteJsonObjects (source : String) (best : Option String) : Option String :=
  source.toList.tails.foldl (fun best slice =>
    match slice with
    | '{' :: _ =>
      match serde.firstValue slice with
      | some (.obj _, taken) =>
        let candidate := String.ofList (slice.take taken)
        if taken ≠ 0 ∧ best.all (byteLen · < byteLen candidate) = true then some candidate
        else best
      | _ => best
    | _ => best) best

def bestCompleteJsonObject (sources : List String) : Option String :=
  sources.foldl (fun best source => collectCompleteJsonObjects serde source best) none

namespace ToolState

def hasArgumentData (t : ToolState) : Bool :=
  t.argumentsSeen ≠ "" || t.rawArguments ≠ [] || t.pendingArguments ≠ ""

def completeArguments (t : ToolState) : Option String :=
  bestCompleteJsonObject serde
    ([t.argumentsSeen, t.pendingArguments, String.join t.rawArguments] ++ t.rawArguments)

/-- `ingest_tool_arguments`. -/
def ingest (arguments : String) (deduplicate : Bool) (t : ToolState) : ToolState :=
  if arguments = "" then t
  else if deduplicate then
    let (delta, seen) := textDelta t.argumentsSeen arguments true
    { t with
      allArguments := t.allArguments ++ arguments
      rawArguments := t.rawArguments ++ [arguments]
      argumentsSeen := seen
      pendingArguments := t.pendingArguments ++ delta }
  else
    { t with
      allArguments := t.allArguments ++ arguments
      pendingArguments := t.pendingArguments ++ arguments }

/-- What a fragment of a tool call adds. -/
def receive (id : Option String) (function : Option OpenAiFunctionDelta) (deduplicate : Bool)
    (t : ToolState) : ToolState :=
  let t := { t with
    upstreamId := id.or t.upstreamId
    name := (function.bind (·.name)).or t.name }
  match function.bind (·.arguments) with
  | some arguments => t.ingest arguments deduplicate
  | none => t

/-- The arguments the tool call is validated with. -/
def finalArguments (deduplicate : Bool) (t : ToolState) : String :=
  if deduplicate then (t.completeArguments serde).getD "" else t.allArguments

end ToolState

/-! ### The translator -/

/-- What a translation to Anthropic is set up with. `newToolId` are the identifiers made for tool
calls that came without one, by content block. -/
structure AnthropicSetup where
  serde : Serde
  model : String
  messageId : String
  deduplicateStreamText : Bool
  deduplicateToolArguments : Bool
  toolPolicy : ToolResponsePolicy
  newToolId : ℕ → String

structure MessageVars where
  messageStarted : Bool := false
  nextIndex : ℕ := 0
  textIndex : Option ℕ := none
  textSeen : String := ""
  tools : OrdMap ToolState := []
  finishReason : String := "end_turn"
  upstreamFinishReason : Option String := none
  streamDone : Bool := false
  sawFinishReason : Bool := false

def mapFinishReason (reason : String) : String :=
  if reason = "length" then "max_tokens"
  else if reason = "tool_calls" ∨ reason = "function_call" then "tool_use"
  else "end_turn"

def messageStartEvent (messageId model : String) : SseEvent :=
  anthropicEvent "message_start" (.obj [("type", .str "message_start"),
    ("message", .obj [("id", .str messageId), ("type", .str "message"),
      ("role", .str "assistant"), ("model", .str model), ("content", .arr []),
      ("stop_reason", .null), ("stop_sequence", .null),
      ("usage", .obj [("input_tokens", .int 0), ("output_tokens", .int 0)])])])

variable (index : ℕ)

def contentBlockStart (block : Json) : SseEvent :=
  anthropicEvent "content_block_start" (.obj [("type", .str "content_block_start"),
    ("index", .int index), ("content_block", block)])

def contentBlockDelta (delta : Json) : SseEvent :=
  anthropicEvent "content_block_delta" (.obj [("type", .str "content_block_delta"),
    ("index", .int index), ("delta", delta)])

def contentBlockStop : SseEvent :=
  anthropicEvent "content_block_stop" (.obj [("type", .str "content_block_stop"),
    ("index", .int index)])

def textBlockStart : SseEvent :=
  contentBlockStart index (.obj [("type", .str "text"), ("text", .str "")])

def textDeltaEvent (text : String) : SseEvent :=
  contentBlockDelta index (.obj [("type", .str "text_delta"), ("text", .str text)])

def inputDeltaEvent (partialJson : String) : SseEvent :=
  contentBlockDelta index (.obj [("type", .str "input_json_delta"),
    ("partial_json", .str partialJson)])

def messageDeltaEvent (stopReason : String) (outputTokens : ℕ) : SseEvent :=
  anthropicEvent "message_delta" (.obj [("type", .str "message_delta"),
    ("delta", .obj [("stop_reason", .str stopReason), ("stop_sequence", .null)]),
    ("usage", .obj [("output_tokens", .int outputTokens)])])

def messageStopEvent : SseEvent :=
  anthropicEvent "message_stop" (.obj [("type", .str "message_stop")])

section

variable (setup : AnthropicSetup)

def failAnthropic {σ : Type} (error : AppError) : Translator σ Unit :=
  fail error.display (anthropicErrorEvent error)

def startMessage : Translator MessageVars Unit := do
  let s ← vars
  if s.messageStarted then pure ()
  else do
    yield (messageStartEvent setup.messageId setup.model)
    setVars fun s => { s with messageStarted := true }

variable (key : ℕ)

variable (tool : ToolState)

def setTool : Translator MessageVars Unit :=
  setVars fun s => { s with tools := s.tools.put key tool }

/-- `pending_tool_arguments_event`. -/
def yieldPendingArguments : Translator MessageVars ToolState :=
  if setup.deduplicateToolArguments || tool.pendingArguments = "" then pure tool
  else do
    let taken := { tool with pendingArguments := "" }
    setTool key taken
    yield (inputDeltaEvent tool.index tool.pendingArguments)
    pure taken

def yieldPendingIfStarted : Translator MessageVars ToolState :=
  if tool.started then yieldPendingArguments setup key tool else pure tool

/-- `start_tool_state`. The name has to pass the policy. -/
def startToolState : Translator MessageVars ToolState := do
  let started := { tool with started := true }
  setTool key started
  let name ← attempt (setup.toolPolicy.validateName tool.name)
  yield (contentBlockStart tool.index (.obj [("type", .str "tool_use"),
    ("id", .str (tool.upstreamId.getD (setup.newToolId tool.index))),
    ("name", .str name), ("input", .obj [])]))
  pure started

/-- A tool call whose name is known by now is started. -/
def startNamedTool (key observed : ℕ) (tool : ToolState) : Translator MessageVars Unit :=
  if tool.started || tool.name.isNone then pure ()
  else do
    let s ← vars
    report (·.observeResponseFragment observed (s.textSeen ≠ ""))
    let tool ← startToolState setup key tool
    let _ ← yieldPendingArguments setup key tool

/-- A fragment of the tool call `key`. `observed` is the number of tool calls that are reported
when the call starts. -/
def receiveToolFragment (key observed : ℕ) (id : Option String)
    (function : Option OpenAiFunctionDelta) : Translator MessageVars Unit := do
  let s ← vars
  let known := s.tools.lookup key
  let tool := (known.getD { index := s.nextIndex }).receive id function
    setup.deduplicateToolArguments
  setVars fun s => { s with
    tools := s.tools.put key tool
    nextIndex := if known.isSome then s.nextIndex else s.nextIndex + 1 }
  let tool ← yieldPendingIfStarted setup key tool
  startNamedTool setup key observed tool

def receiveToolCall (call : OpenAiToolCallDelta) : Translator MessageVars Unit :=
  receiveToolFragment setup call.index (saturatingAdd call.index 1) call.id call.function

/-- The key of the call that comes as a `function_call`. -/
def functionCallKey : ℕ := 2 ^ 64 - 1

def receiveFunctionCall : Option OpenAiFunctionDelta → Translator MessageVars Unit
  | some function => receiveToolFragment setup functionCallKey 1 none (some function)
  | none => pure ()

/-- A piece of text, in the text block; the first opens it. -/
def yieldText (delta : String) : Option ℕ → Translator MessageVars Unit
  | some index => yield (textDeltaEvent index delta)
  | none => do
      let s ← vars
      setVars fun s => { s with nextIndex := s.nextIndex + 1, textIndex := some s.nextIndex }
      yield (textBlockStart s.nextIndex)
      yield (textDeltaEvent s.nextIndex delta)

/-- The text of a choice. The result says whether the rest of the choice is looked at: it is not
if there is text with nothing new in it. -/
def receiveContent : Option String → Translator MessageVars Bool
  | none => pure true
  | some content => do
      let s ← vars
      let new := textDelta s.textSeen content setup.deduplicateStreamText
      setVars fun s => { s with textSeen := new.2 }
      if new.1 = "" then pure false
      else do
        report (·.observeResponseFragment s.tools.length true)
        yieldText new.1 s.textIndex
        pure true

def noteFinishReason (reason : String) (s : MessageVars) : MessageVars :=
  { s with
    finishReason := mapFinishReason reason
    upstreamFinishReason := some reason
    sawFinishReason := true
    streamDone := true }

def receiveChoice (choice : OpenAiStreamChoice) : Translator MessageVars Unit := do
  setVars fun s => choice.finishReason.elim s (noteFinishReason · s)
  let goOn ← receiveContent setup choice.delta.content
  if goOn then do
    forEach (receiveToolCall setup) (choice.delta.toolCalls.getD [])
    receiveFunctionCall setup choice.delta.functionCall
  else pure ()

def leaveIfDone : Translator MessageVars Unit := do
  let s ← vars
  if s.streamDone then leave .broke else pure ()

/-- What a chunk reports, read from its `usage` alone. -/
def reportChunkUsage (chunk : OpenAiStreamChunk) : Translator MessageVars Unit :=
  match chunk.usage with
  | some usage =>
    let response := Json.obj [("usage", usage)]
    report (·.mergeReported (openaiUsageIfPresent response) (openaiReportedCost response))
  | none => pure ()

def receiveChunk (chunk : OpenAiStreamChunk) : Translator MessageVars Unit := do
  reportChunkUsage chunk
  startMessage setup
  forEach (receiveChoice setup) chunk.choices
  leaveIfDone

def messageLine (data : String) : Translator MessageVars Unit :=
  if data = "[DONE]" then do
    startMessage setup
    setVars fun s => { s with streamDone := true }
    leave .broke
  else
    match setup.serde.readChunk data with
    | .error error =>
      failAnthropic (.upstreamProtocol
        ("invalid OpenAI-compatible SSE chunk: " ++ error ++ "; data: " ++ data))
    | .ok chunk => receiveChunk setup chunk

def messageFailure (error : AppError) : Translator MessageVars Unit := do
  let s ← vars
  if s.sawFinishReason then leave .broke else failAnthropic error

/-- The identifiers of the tool calls so far, with this one. With strict validation none may come
twice. -/
def noteId (policy : ToolResponsePolicy) (ids : List String) :
    Option String → Except AppError (List String)
  | some id =>
    if policy.validation = .strict then
      if id ∈ ids then
        .error (.upstreamProtocol
          ("OpenAI-compatible upstream returned duplicate tool call id `" ++ id ++ "`"))
      else .ok (id :: ids)
    else .ok ids
  | none => .ok ids

/-- The tool calls of the message, one after the other and all together. -/
def validateTools (policy : ToolResponsePolicy) (serde : Serde) (deduplicate : Bool)
    (finishReason : Option String) (tools : OrdMap ToolState) : Except AppError Unit := do
  validateEach [] tools
  policy.validateCallSummary tools.length finishReason
where
  validateEach : List String → OrdMap ToolState → Except AppError Unit
    | _, [] => pure ()
    | ids, (_, tool) :: tools => do
        let name ← policy.validateName tool.name
        let ids ← noteId policy ids tool.upstreamId
        let _ ← policy.parseArguments serde name (tool.finalArguments serde deduplicate)
        validateEach ids tools

/-- A tool call of which something is known is started at last. -/
def startIfMentioned : Translator MessageVars ToolState :=
  if !tool.started && (tool.name.isSome || tool.hasArgumentData) then startToolState setup key tool
  else pure tool

/-- The arguments that were held back. -/
def yieldFinalArguments : Translator MessageVars Unit :=
  match setup.deduplicateToolArguments, tool.completeArguments setup.serde with
  | true, some arguments => yield (inputDeltaEvent tool.index arguments)
  | _, _ => do
      let _ ← yieldPendingArguments setup key tool

/-- The events that close a tool call. -/
def closeTool (entry : ℕ × ToolState) : Translator MessageVars Unit := do
  let tool ← startIfMentioned setup entry.1 entry.2
  if tool.started then do
    yieldFinalArguments setup entry.1 tool
    yield (contentBlockStop tool.index)
  else pure ()

def closeText : Option ℕ → Translator MessageVars Unit
  | some index => yield (contentBlockStop index)
  | none => pure ()

/-- The end of a message whose tool calls are valid. -/
def closeMessage : Translator MessageVars Unit := do
  let s ← vars
  report (·.observeResponseFragment s.tools.length (s.textSeen ≠ ""))
  report (·.markCompleted)
  closeText s.textIndex
  forEach (closeTool setup) s.tools
  yield (messageDeltaEvent s.finishReason 0)
  yield messageStopEvent

def messageEnd : Translator MessageVars Unit := do
  let s ← vars
  if !s.streamDone && !s.sawFinishReason then
    failAnthropic
      (.upstreamProtocol "OpenAI-compatible stream ended without [DONE] or finish_reason")
  else if !s.messageStarted then
    failAnthropic (.upstreamProtocol "upstream stream ended before sending any SSE chunks")
  else
    match validateTools setup.toolPolicy setup.serde setup.deduplicateToolArguments
        s.upstreamFinishReason s.tools with
    | .error error => failAnthropic error
    | .ok () => closeMessage setup

/-- A `break` leaves the loops; what follows them is run. -/
def afterBreak {σ : Type} (x : Translator σ Unit) : Translator σ Unit := fun s =>
  match x s with
  | ⟨items, s', .error .broke⟩ => ⟨items, s', .ok ()⟩
  | outcome => outcome

def openaiStreamToAnthropic (frames : Upstream) : Translator MessageVars Unit := do
  afterBreak (forEachLine messageFailure (fun _ => messageLine setup) frames)
  messageEnd setup

end

end ModelPort.Stream

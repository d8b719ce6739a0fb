import ModelPort.Stream.OpenAiStream

/-!
# Anthropic streams for Anthropic clients

`normalizeAnthropicStream` passes the events of an Anthropic upstream on, line by line, up to
`message_stop`. Lines that are not JSON are passed on as they are. With `deduplicateStreamText` a
text delta loses what its block has already sent, and a delta with nothing new is dropped
(`Blocks.deduplicate`).
-/

namespace ModelPort.Stream

open Generator Generator.Gen Gateway Translator

/-! ### Content blocks -/

/-- The open content blocks: their types, and the text they have sent. -/
structure Blocks where
  types : OrdMap String := []
  textSeen : OrdMap String := []

/-- The content block that an event opens, with its type. -/
def openedBlock (data : Json) : Option (ℕ × String) :=
  if data.getString "type" = some "content_block_start" then
    match blockIndex data, (data.get "content_block").bind (·.getString "type") with
    | some index, some kind => some (index, kind)
    | _, _ => none
  else none

/-- The content block that an event closes. -/
def closedBlock (data : Json) : Option ℕ :=
  if data.getString "type" = some "content_block_stop" then blockIndex data else none

/-- The text of a text delta. -/
def deltaText (data : Json) : Option String :=
  if data.getString "type" = some "content_block_delta" ∧
      (data.get "delta").bind (·.getString "type") = some "text_delta" then
    (data.get "delta").bind (·.getString "text")
  else none

/-- The event with its text replaced. -/
def withText (data : Json) (text : String) : Json :=
  data.replace "delta" (((data.get "delta").getD .null).replace "text" (.str text))

namespace Blocks

def opened (data : Json) (b : Blocks) : Blocks :=
  match openedBlock data with
  | some (index, kind) => { b with types := b.types.put index kind }
  | none => b

def closed (data : Json) (b : Blocks) : Blocks :=
  match closedBlock data with
  | some index => ⟨b.types.remove index, b.textSeen.remove index⟩
  | none => b

/-- The block and the text of a delta that is searched for text sent before. -/
def searched (deduplicateStreamText : Bool) (data : Json) (b : Blocks) : Option (ℕ × String) :=
  match deduplicateStreamText, blockIndex data, deltaText data with
  | true, some index, some text =>
    if b.types.lookup index = some "text" then some (index, text) else none
  | _, _, _ => none

/-- The event without the text its block has already sent; nothing if nothing is left. -/
def deduplicate (deduplicateStreamText : Bool) (data : Json) (b : Blocks) : Option Json × Blocks :=
  match b.searched deduplicateStreamText data with
  | none => (some data, b)
  | some (index, text) =>
    let (delta, seen) := textDelta ((b.textSeen.lookup index).getD "") text true
    (if delta = "" then none else some (withText data delta),
      { b with textSeen := b.textSeen.put index seen })

end Blocks

/-! ### The translator -/

structure NormalizeVars where
  blocks : Blocks := {}
  sawEvent : Bool := false
  sawMessageStop : Bool := false
  toolCallCount : ℕ := 0
  textPresent : Bool := false

/-- A line that ends the message, by its own type or by the name of its frame. -/
def endsMessage (frame : SseFrame) (data : Json) : Bool :=
  data.getString "type" = some "message_stop" || frame.event = some "message_stop"

def noteMessageStop (frame : SseFrame) (data : Json) : Translator NormalizeVars Unit :=
  if endsMessage frame data then do
    setVars fun s => { s with sawMessageStop := true }
    report (·.markCompleted)
  else pure ()

def noteToolUse : Translator NormalizeVars Unit := do
  setVars fun s => { s with toolCallCount := saturatingAdd s.toolCallCount 1 }
  let s ← vars
  report (·.observeResponseFragment s.toolCallCount s.textPresent)

def noteBlockStart (data : Json) : Translator NormalizeVars Unit := do
  setVars fun s => { s with blocks := s.blocks.opened data }
  if (openedBlock data).any (·.2 = "tool_use") then noteToolUse else pure ()

def noteText (data : Json) : Translator NormalizeVars Unit :=
  if (deltaText data).any (· ≠ "") then do
    setVars fun s => { s with textPresent := true }
    let s ← vars
    report (·.observeResponseFragment s.toolCallCount true)
  else pure ()

def noteMessageDelta (data : Json) : Translator NormalizeVars Unit :=
  if data.getString "type" = some "message_delta" then do
    let s ← vars
    report (·.observeResponseFragment s.toolCallCount s.textPresent)
  else pure ()

/-- The name under which an event is passed on. -/
def passedName (frame : SseFrame) (data : Json) : String :=
  (frame.event.or (data.getString "type")).getD "message"

section

variable (serde : Serde) (deduplicateStreamText : Bool)

def deduplicateText (data : Json) : Translator NormalizeVars (Option Json) := do
  let s ← vars
  let (left, blocks) := s.blocks.deduplicate deduplicateStreamText data
  setVars fun s => { s with blocks := blocks }
  pure left

/-- What is left of an event is passed on, and the stream ends if the message has. -/
def passEvent (frame : SseFrame) (data : Json) : Translator NormalizeVars Unit := do
  setVars fun s => { s with blocks := s.blocks.closed data }
  yield (eventWithMetadata frame (some (passedName frame data)) (.json data))
  let s ← vars
  if s.sawMessageStop then leave .returned else pure ()

def passIfLeft (frame : SseFrame) : Option Json → Translator NormalizeVars Unit
  | none => pure ()
  | some data => passEvent frame data

def normalizeEvent (frame : SseFrame) (data : Json) : Translator NormalizeVars Unit := do
  report (·.mergeReported (anthropicEventUsage data) none)
  setVars fun s => { s with sawEvent := true }
  noteMessageStop frame data
  noteBlockStart data
  noteText data
  noteMessageDelta data
  let left ← deduplicateText deduplicateStreamText data
  passIfLeft frame left

/-- A line that is passed on as it is. -/
def passText (frame : SseFrame) (line : String) : Translator NormalizeVars Unit :=
  yield (eventWithMetadata frame (some (frame.event.getD "message")) (.text line))

def normalizeLine (frame : SseFrame) (line : String) : Translator NormalizeVars Unit :=
  if line = "[DONE]" then passText frame line
  else
    match serde.fromStr line with
    | .error _ => do
        setVars fun s => { s with sawEvent := true }
        passText frame line
    | .ok data => normalizeEvent deduplicateStreamText frame data

def normalizeFailure (error : AppError) : Translator NormalizeVars Unit := do
  let s ← vars
  if s.sawMessageStop then leave .returned else failAnthropic error

def normalizeEnd : Translator NormalizeVars Unit := do
  let s ← vars
  if !s.sawEvent || !s.sawMessageStop then
    failAnthropic (.upstreamProtocol "Anthropic stream ended without a message_stop event")
  else pure ()

def normalizeAnthropicStream (frames : Upstream) : Translator NormalizeVars Unit := do
  forEachLine normalizeFailure (normalizeLine serde deduplicateStreamText) frames
  normalizeEnd

end

end ModelPort.Stream

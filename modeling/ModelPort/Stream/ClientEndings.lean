import ModelPort.Stream.Ending
import ModelPort.Stream.OpenAiClientStream

/-!
# The endings of streams for OpenAI clients

Which line ends the reading does not depend on what was read before: `passthroughStops` and
`conversionStops` say which do. Up to that line the lifecycle stays pending
(`quiet_passthroughInput`, `quiet_conversionInput`); from it, and from the end of the input, the
translators return.
-/

namespace ModelPort.Stream

open Generator Generator.Gen Gateway Translator Returns

variable {x : Input} {frames : Upstream}

/-- The value of a line that is not an end marker. -/
def Input.value (serde : Serde) : Input → Option Json
  | .failure _ => none
  | .line _ data => if data = "[DONE]" then none else (serde.fromStr data).toOption

/-- An error in a frame's place, or `[DONE]`. -/
def Input.isEnd : Input → Bool
  | .failure _ => true
  | .line _ data => data = "[DONE]"

/-- What a line can be. -/
inductive Reading (serde : Serde) : Input → Prop
  | failure (error : AppError) : Reading serde (.failure error)
  | done (frame : SseFrame) : Reading serde (.line frame "[DONE]")
  | text {frame : SseFrame} {data error : String} (hdone : data ≠ "[DONE]")
      (hread : serde.fromStr data = .error error)
      (hvalue : (Input.line frame data).value serde = none) : Reading serde (.line frame data)
  | json {frame : SseFrame} {data : String} {value : Json} (hdone : data ≠ "[DONE]")
      (hread : serde.fromStr data = .ok value)
      (hvalue : (Input.line frame data).value serde = some value) : Reading serde (.line frame data)

lemma reading_of (serde : Serde) (x : Input) : Reading serde x := by
  cases x with
  | failure error => exact .failure error
  | line frame data =>
    by_cases hdone : data = "[DONE]"
    · subst hdone
      exact .done frame
    · cases hread : serde.fromStr data with
      | error error => exact .text hdone hread (by rw [Input.value, if_neg hdone, hread]; rfl)
      | ok value => exact .json hdone hread (by rw [Input.value, if_neg hdone, hread]; rfl)

section

variable {σ : Type} {s : Running σ}

lemma returns_failOpenai (error : AppError) (hs : s.lifecycle.state = .pending) :
    Returns .openAiChatCompletions (Ends .openAiChatCompletions false) (failOpenai error) s :=
  returns_failed rfl rfl hs

lemma returns_completed {event : SseEvent} (hevent : event.data = .text "[DONE]")
    (hs : s.lifecycle.state = .pending) :
    Returns .openAiChatCompletions (Ends .openAiChatCompletions true)
      (report (·.markCompleted) >>= fun _ => yield event >>= fun _ => leave .returned) s := by
  refine ⟨[], event, ⟨s.vars, s.lifecycle.markCompleted⟩, by simp [report], plain_nil,
    Lifecycle.state_markCompleted hs, ?_, ?_⟩
  · rw [succeeds, hevent]
    rfl
  · rw [signalsError, hevent]
    rfl

end

/-! ### Pass-through -/

section

variable (serde : Serde) (requestedModel : String)

/-- The lines that end the reading: an error, `[DONE]`, what is no JSON, and a chunk with an
`error`. -/
def passthroughStops (x : Input) : Bool :=
  match x.value serde with
  | some chunk => (chunk.get "error").isSome
  | none => true

/-- A chunk whose `error` is `null`. -/
def isNullError (x : Input) : Bool :=
  match x.value serde with
  | some chunk => (chunk.get "error").any Json.isNull
  | none => false

abbrev passthroughInput : Input → Translator PassthroughVars Unit :=
  onInput passthroughFailure (passthroughLine serde requestedModel)

lemma get_replace_model (chunk : Json) :
    (chunk.replace "model" (.str requestedModel)).get "error" = chunk.get "error" :=
  Json.get_replace_ne (by decide) _ _

/-- A line that does not end the reading. -/
lemma quiet_passthroughInput (hx : passthroughStops serde x = false) :
    Quiet .openAiChatCompletions (passthroughInput serde requestedModel x) := by
  rw [passthroughStops] at hx
  cases reading_of serde x with
  | failure error | done frame => cases hx
  | text hdone hread hvalue =>
    rw [hvalue] at hx
    cases hx
  | @json frame data chunk hdone hread hvalue =>
    rw [hvalue] at hx
    show Quiet _ (passthroughLine serde requestedModel frame data)
    rw [passthroughLine, if_neg hdone, hread]
    have hget := (get_replace_model requestedModel chunk).trans (by simpa using hx)
    refine (quiet_setVars _).bind fun _ => ?_
    rw [hget]
    refine (quiet_report_merge _ _).bind fun _ => ?_
    refine (quiet_report (f := observeOpenaiStreamChunk _) fun _ => rfl).bind fun _ => ?_
    refine (quiet_setVars _).bind fun _ => quiet_yield rfl ?_
    show ((chunk.replace "model" (.str requestedModel)).get "error").any (!·.isNull) = false
    rw [hget]
    rfl

/-- How the reading ends at `x`: as it is reported, unless `x` is a chunk whose `error` is `null`,
which is reported as a failure and passed on. -/
def EndsAt (serde : Serde) (x : Input) (event : SseEvent) (l : Lifecycle) : Prop :=
  if isNullError serde x then
    (∃ error, l.state = .failed error) ∧ signalsError .openAiChatCompletions event = false
  else ∃ completed, Ends .openAiChatCompletions completed event l ∧
    (completed → x.isEnd)

variable {serde requestedModel} {s : Running PassthroughVars}

lemma Returns.endsAt {y : Translator PassthroughVars Unit} {completed : Bool}
    (h : Returns .openAiChatCompletions (Ends .openAiChatCompletions completed) y s)
    (hx : isNullError serde x = false) (hend : completed → x.isEnd) :
    Returns .openAiChatCompletions (EndsAt serde x) y s := by
  refine h.mono fun event l hends => ?_
  rw [EndsAt, if_neg (by simp [hx])]
  exact ⟨completed, hends, hend⟩

/-- A chunk with an `error` is passed on as the last. -/
lemma returns_passthroughChunk (frame : SseFrame) {chunk error : Json}
    (hvalue : x.value serde = some chunk) (herror : chunk.get "error" = some error)
    (hs : s.lifecycle.state = .pending) :
    Returns .openAiChatCompletions (EndsAt serde x)
      (passthroughChunk serde requestedModel frame chunk) s := by
  have hget := (get_replace_model requestedModel chunk).trans herror
  have hsignal : signalsError .openAiChatCompletions (eventWithMetadata frame none
      (.json (chunk.replace "model" (.str requestedModel)))) = !error.isNull := by
    show ((chunk.replace "model" (.str requestedModel)).get "error").any (!·.isNull) = _
    rw [hget]
    rfl
  have hnull : isNullError serde x = error.isNull := by
    rw [isNullError, hvalue]
    show (chunk.get "error").any Json.isNull = _
    rw [herror]
    rfl
  refine of_bind (rfl : setVars _ s = ⟨[], _, .ok ()⟩) plain_nil ?_
  rw [hget]
  cases hcase : error.isNull with
  | true =>
    refine returns_fail ?_
    rw [EndsAt, if_pos (hnull.trans hcase)]
    exact ⟨⟨_, Lifecycle.state_markFailed hs _⟩, by rw [hsignal, hcase]; rfl⟩
  | false =>
    refine Returns.endsAt (returns_failed rfl ?_ hs) (hnull.trans hcase) nofun
    rw [hsignal, hcase]
    rfl

/-- **The line that ends the reading.** -/
lemma returns_passthroughInput (hx : passthroughStops serde x)
    (hs : s.lifecycle.state = .pending) :
    Returns .openAiChatCompletions (EndsAt serde x) (passthroughInput serde requestedModel x)
      s := by
  rw [passthroughStops] at hx
  cases reading_of serde x with
  | failure | done =>
    refine of_bind (rfl : vars s = ⟨[], s, .ok s.vars⟩) plain_nil ?_
    split_ifs
    · exact (returns_completed rfl hs).endsAt rfl fun _ => rfl
    · exact (returns_failOpenai _ hs).endsAt rfl nofun
  | @text frame data error hdone hread hvalue =>
    show Returns _ _ (passthroughLine serde requestedModel frame data) s
    rw [passthroughLine, if_neg hdone, hread]
    exact (returns_failOpenai _ hs).endsAt (by rw [isNullError, hvalue]) nofun
  | @json frame data chunk hdone hread hvalue =>
    rw [hvalue] at hx
    obtain ⟨error, herror⟩ := Option.isSome_iff_exists.1 hx
    show Returns _ _ (passthroughLine serde requestedModel frame data) s
    rw [passthroughLine, if_neg hdone, hread]
    exact returns_passthroughChunk frame hvalue herror hs

/-- **A line ends the reading of the pass-through.** -/
lemma passthrough_returns (hx : frames.inputs.find? (passthroughStops serde) = some x) :
    Returns .openAiChatCompletions (EndsAt serde x)
      (openaiStreamPassthrough serde requestedModel frames) ⟨{}, {}⟩ := by
  rw [openaiStreamPassthrough, forEachLine_eq]
  exact bind (returns_forEach (fun y hy => quiet_passthroughInput serde requestedModel hy) rfl hx
    fun s' hs' => returns_passthroughInput (List.find?_some hx) hs')

/-- **The input ends the reading of the pass-through.** -/
lemma passthrough_returns_end (hnone : frames.inputs.find? (passthroughStops serde) = none) :
    Returns .openAiChatCompletions
      (fun event l => ∃ completed, Ends .openAiChatCompletions completed event l)
      (openaiStreamPassthrough serde requestedModel frames) ⟨{}, {}⟩ := by
  rw [openaiStreamPassthrough, forEachLine_eq]
  have hquiet : Quiet .openAiChatCompletions (forEach (passthroughInput serde requestedModel)
      frames.inputs) := .forEach fun y hy => quiet_passthroughInput serde requestedModel
    (by simpa using List.find?_eq_none.1 hnone y hy)
  obtain ⟨items, s', _, heq, hplain, hs'⟩ := hquiet ⟨{}, {}⟩
  refine of_bind heq hplain (of_bind (rfl : vars s' = ⟨[], s', .ok s'.vars⟩) plain_nil ?_)
  -- an end without `[DONE]`: completed if there was a reason to finish
  split_ifs
  · exact (returns_completed rfl hs').mono fun _ _ h => ⟨true, h⟩
  · exact (returns_failOpenai _ hs').mono fun _ _ h => ⟨false, h⟩

end

/-! ### Anthropic upstreams -/

section

variable {setup : OpenaiSetup} {s : Running AnthropicVars}

/-- An event of this type. -/
def Input.hasType (serde : Serde) (type : String) : Input → Bool
  | .failure _ => false
  | .line frame data =>
    ((Input.line frame data).value serde).any fun event => eventType frame event = type

/-- The lines that end the reading: an error, what is no JSON, and the events `message_stop` and
`error`. -/
def conversionStops (serde : Serde) (x : Input) : Bool :=
  match x with
  | .failure _ => true
  | .line _ data =>
    data ≠ "[DONE]" && (x.value serde).isNone || x.hasType serde "message_stop" ||
      x.hasType serde "error"

abbrev conversionInput (setup : OpenaiSetup) : Input → Translator AnthropicVars Unit :=
  onInput failOpenai (anthropicLine setup)

lemma quiet_yieldChunk (delta finishReason : Json) :
    Quiet .openAiChatCompletions (yieldChunk setup delta finishReason) :=
  quiet_vars.bind fun _ => quiet_yield rfl rfl

lemma quiet_yieldRole : Quiet .openAiChatCompletions (yieldRole setup) := quiet_yieldChunk _ _

variable (event : Json) {vars : AnthropicVars}

lemma quiet_onMessageStart : Quiet .openAiChatCompletions (onMessageStart setup event) :=
  (quiet_setVars _).bind fun _ => quiet_yieldRole

lemma quiet_onToolUse (block : Json) : Quiet .openAiChatCompletions (onToolUse setup event block) :=
  quiet_vars.bind fun _ => (quiet_setVars _).bind fun _ =>
    (quiet_report_observe _ _).bind fun _ => quiet_yieldChunk _ _

lemma quiet_onContentBlockStart :
    Quiet .openAiChatCompletions (onContentBlockStart setup event) := by
  have hrole : Quiet .openAiChatCompletions (ensureRole setup) := quiet_vars.bind fun _ =>
    Quiet.ite (quiet_pure ()) ((quiet_setVars _).bind fun _ => quiet_yieldRole)
  exact hrole.bind fun _ => .ite (quiet_onToolUse _ _) (quiet_pure ())

lemma quiet_onTextDelta (delta : Json) : Quiet .openAiChatCompletions
    (onTextDelta setup delta) := by
  have hnote : Quiet .openAiChatCompletions (noteTextDelta delta) := .ite
    (quiet_vars.bind fun _ => (quiet_setVars _).bind fun _ => quiet_report_observe _ _)
    (quiet_pure ())
  exact hnote.bind fun _ => quiet_yieldChunk _ _

lemma quiet_onContentBlockDelta : Quiet .openAiChatCompletions (onContentBlockDelta setup event) :=
  Quiet.ite (quiet_onTextDelta _)
    (.ite (quiet_vars.bind fun _ => quiet_yieldChunk _ _) (quiet_pure ()))

lemma quiet_onMessageDelta : Quiet .openAiChatCompletions (onMessageDelta setup event) :=
  quiet_vars.bind fun _ => (quiet_setVars _).bind fun _ =>
    (quiet_report_observe _ _).bind fun _ => quiet_yieldChunk _ _

lemma quiet_yieldUsage : Quiet .openAiChatCompletions (yieldUsage setup) := by
  intro s
  have husage : ∀ usage, Quiet .openAiChatCompletions
      (yieldUsageOf setup s.vars.completionId usage) := by
    intro usage
    cases usage with
    | none => exact quiet_pure ()
    | some usage => exact .ite (quiet_yield rfl rfl) (quiet_pure ())
  exact husage s.lifecycle.usage s

lemma quiet_conversionInput (hx : conversionStops setup.serde x = false) :
    Quiet .openAiChatCompletions (conversionInput setup x) := by
  cases reading_of setup.serde x with
  | failure error => cases hx
  | done frame => exact quiet_pure ()
  | text hdone hread hvalue => simp [conversionStops, hdone, hvalue] at hx
  | @json frame data event hdone hread hvalue =>
    obtain ⟨hstop, herror⟩ : eventType frame event ≠ "message_stop" ∧
        eventType frame event ≠ "error" := by
      simpa [conversionStops, Input.hasType, hvalue] using hx
    show Quiet _ (anthropicLine setup frame data)
    rw [anthropicLine, if_neg hdone, hread]
    refine (quiet_report_merge _ _).bind fun _ => ?_
    split
    · exact quiet_onMessageStart _
    · exact quiet_onContentBlockStart _
    · exact quiet_onContentBlockDelta _
    · exact quiet_onMessageDelta _
    · exact absurd ‹_› hstop
    · exact absurd ‹_› herror
    · exact quiet_pure ()

lemma returns_onMessageStop (hs : s.lifecycle.state = .pending) :
    Returns .openAiChatCompletions (Ends .openAiChatCompletions true) (onMessageStop setup) s := by
  have hquiet : Quiet .openAiChatCompletions (ensureFinish setup) :=
    quiet_vars.bind fun _ => .ite (quiet_pure ()) (quiet_yieldChunk _ _)
  obtain ⟨items, s', _, heq, hplain, hs'⟩ := hquiet s
  refine of_bind heq hplain (of_bind
    (rfl : report _ s' = ⟨[], ⟨s'.vars, s'.lifecycle.markCompleted⟩, .ok ()⟩) plain_nil ?_)
  have hyield : Quiet .openAiChatCompletions (yieldUsage setup) := quiet_yieldUsage
  obtain ⟨items', s'', _, heq', hplain', hstate'⟩ := hyield ⟨s'.vars, s'.lifecycle.markCompleted⟩
  exact of_bind heq' hplain' ⟨[], doneEvent, s'', by simp, plain_nil,
    hstate'.trans (Lifecycle.state_markCompleted (hs'.trans hs)), rfl, rfl⟩

/-- **The line that ends the reading**: with a completion exactly if it is `message_stop`. -/
lemma returns_conversionInput (hx : conversionStops setup.serde x)
    (hs : s.lifecycle.state = .pending) :
    Returns .openAiChatCompletions
      (Ends .openAiChatCompletions (x.hasType setup.serde "message_stop"))
      (conversionInput setup x) s := by
  cases reading_of setup.serde x with
  | failure error => exact returns_failOpenai error hs
  | done frame => cases hx
  | @text frame data error hdone hread hvalue =>
    rw [Input.hasType, hvalue]
    show Returns _ _ (anthropicLine setup frame data) s
    rw [anthropicLine, if_neg hdone, hread]
    exact returns_failOpenai _ hs
  | @json frame data event hdone hread hvalue =>
    have hstops : eventType frame event = "message_stop" ∨ eventType frame event = "error" := by
      simpa [conversionStops, Input.hasType, hvalue] using hx
    rw [Input.hasType, hvalue]
    show Returns _ _ (anthropicLine setup frame data) s
    rw [anthropicLine, if_neg hdone, hread]
    refine of_bind (rfl : report _ s = ⟨[], _, .ok ()⟩) plain_nil ?_
    have hs' := (Lifecycle.state_mergeReported (anthropicEventUsage event) none _).trans hs
    rcases hstops with hstop | herror
    · rw [Option.any_some, hstop]
      exact returns_onMessageStop hs'
    · rw [Option.any_some, herror]
      exact returns_failed rfl rfl hs'

/-- **A line ends the reading of the conversion.** -/
lemma conversion_returns (hx : frames.inputs.find? (conversionStops setup.serde) = some x) :
    Returns .openAiChatCompletions
      (Ends .openAiChatCompletions (x.hasType setup.serde "message_stop"))
      (anthropicStreamToOpenai setup frames) ⟨vars, {}⟩ := by
  rw [anthropicStreamToOpenai, forEachLine_eq]
  exact bind (returns_forEach (fun y hy => quiet_conversionInput hy) rfl hx
    fun s' hs' => returns_conversionInput (List.find?_some hx) hs')

/-- **The input ends the reading of the conversion.** -/
lemma conversion_returns_end (hnone : frames.inputs.find? (conversionStops setup.serde) = none) :
    Returns .openAiChatCompletions
      (Ends .openAiChatCompletions false) (anthropicStreamToOpenai setup frames) ⟨vars, {}⟩ := by
  rw [anthropicStreamToOpenai, forEachLine_eq]
  have hquiet : Quiet .openAiChatCompletions (forEach (conversionInput setup) frames.inputs) :=
    .forEach fun y hy => quiet_conversionInput (by simpa using List.find?_eq_none.1 hnone y hy)
  obtain ⟨items, s', _, heq, hplain, hs'⟩ := hquiet ⟨vars, {}⟩
  exact of_bind heq hplain (returns_failOpenai _ hs')

end

end ModelPort.Stream

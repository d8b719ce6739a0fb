import ModelPort.Stream.AnthropicEndings
import ModelPort.Stream.MessageEndings

/-!
# Do the translators report how the upstream ended?

Each of the four translators, run to its end, should leave the lifecycle decided, and in agreement
with the last item of its output (`ReportsEnd`). Only the translation from Anthropic to OpenAI does
so always.

* `message_reportsEnd`: the translation to Anthropic is left in the middle, with the lifecycle still
  pending, when the policy refuses the name of a tool call.
* `passthrough_reportsEnd`: a chunk whose `error` is `null` is reported as a failure, but passed on
  as an ordinary chunk.
* `reportsEnd_of_passedAsStop`, `passedAsStop_of_reportsEnd`: the Anthropic pass-through completes
  with the line that ends the message; it may be passed on under another name than `message_stop`,
  or dropped as repeated text.
-/

namespace ModelPort.Stream

open Generator Generator.Gen Gateway Translator

/-- The four translations, each run to its end. -/
def messageTranslation (setup : AnthropicSetup) (frames : Upstream) : Translation :=
  translate (openaiStreamToAnthropic setup frames) {}

def passthroughTranslation (serde : Serde) (requestedModel : String) (frames : Upstream) :
    Translation :=
  translate (openaiStreamPassthrough serde requestedModel frames) {}

def conversionTranslation (setup : OpenaiSetup) (frames : Upstream) : Translation :=
  translate (anthropicStreamToOpenai setup frames) { completionId := "chatcmpl-" ++ setup.newId 0 }

def normalizeTranslation (serde : Serde) (dedup : Bool) (frames : Upstream) : Translation :=
  translate (normalizeAnthropicStream serde dedup frames) {}

/-! ### OpenAI to Anthropic -/

lemma message_reportsEnd (setup : AnthropicSetup) (frames : Upstream) :
    ReportsEnd .anthropicMessages (messageTranslation setup frames) ↔
      (hear setup {} frames.inputs).stop ≠ .refused := by
  cases message_ends setup frames with
  | refused hstop houtp hplain hpend =>
    exact iff_of_false (fun h => h.decided hpend) (not_not_intro hstop)
  | told hstop houtp hplain hends => exact iff_of_true (reportsEnd_of_ends houtp hends) hstop

/-! ### OpenAI pass-through -/

lemma passthrough_reportsEnd (serde : Serde) (requestedModel : String) (frames : Upstream) :
    ReportsEnd .openAiChatCompletions (passthroughTranslation serde requestedModel frames) ↔
      (frames.inputs.find? (passthroughStops serde)).any (isNullError serde) = false := by
  cases hx : frames.inputs.find? (passthroughStops serde) with
  | none =>
    obtain ⟨before, event, houtp, -, completed, hends⟩ := (passthrough_returns_end hx).translate
    exact iff_of_true (reportsEnd_of_ends houtp hends) rfl
  | some x =>
    obtain ⟨before, event, houtp, -, hends⟩ := (passthrough_returns hx).translate
    rw [EndsAt] at hends
    rw [Option.any_some]
    cases hnull : isNullError serde x with
    | true =>
      rw [if_pos hnull] at hends
      refine iff_of_false (fun h => ?_) (by simp)
      have hlast : _ = some (Except.ok event) :=
        (congrArg List.getLast? houtp).trans List.getLast?_concat
      rcases h.failed_iff.1 hends.1 with ⟨event', hevent', hsign⟩ | ⟨error, herror⟩
      · cases hlast.symm.trans hevent'
        cases hends.2.symm.trans hsign
      · cases hlast.symm.trans herror
    | false =>
      rw [if_neg (by simp [hnull])] at hends
      obtain ⟨completed, hends, -⟩ := hends
      exact iff_of_true (reportsEnd_of_ends houtp hends) rfl

/-! ### Anthropic to OpenAI -/

lemma conversion_reportsEnd (setup : OpenaiSetup) (frames : Upstream) :
    ReportsEnd .openAiChatCompletions (conversionTranslation setup frames) := by
  cases hx : frames.inputs.find? (conversionStops setup.serde) with
  | none =>
    obtain ⟨before, event, houtp, -, hends⟩ := (conversion_returns_end hx).translate
    exact reportsEnd_of_ends houtp hends
  | some x =>
    obtain ⟨before, event, houtp, -, hends⟩ := (conversion_returns hx).translate
    exact reportsEnd_of_ends houtp hends

/-! ### Anthropic pass-through -/

section

variable {serde : Serde} {dedup : Bool} {frames : Upstream}

/-- The line that ends the message is passed on as such. -/
lemma reportsEnd_of_passedAsStop
    (h : (firstEnd serde dedup {} frames.inputs).all passedAsStop) :
    ReportsEnd .anthropicMessages (normalizeTranslation serde dedup frames) := by
  obtain ⟨o, hending, htr⟩ := normalize_ends serde dedup frames
  rw [normalizeTranslation, htr]
  cases hending with
  | @completed line hend _ hstate hlast =>
    rw [hend, Option.all_some, passedAsStop, Option.any_eq_true] at h
    obtain ⟨data, hdata, hname⟩ := h
    obtain ⟨before, hitems⟩ := hlast data hdata
    have hevent : (passedEvent line.1 data).event = some "message_stop" :=
      congrArg some (of_decide_eq_true hname)
    have hends : Ends .anthropicMessages true (passedEvent line.1 data) o.state.lifecycle :=
      ⟨hstate, by simp [succeeds, hevent], by simp [signalsError, hevent]⟩
    exact reportsEnd_of_ends (show _ = before.map Except.ok ++ _ by simp [hitems]) hends
  | @failed before error message hend hitems _ hstate =>
    have hends : Ends .anthropicMessages false (anthropicErrorEvent error) o.state.lifecycle :=
      ⟨⟨message, hstate⟩, rfl, rfl⟩
    exact reportsEnd_of_ends (show _ = before.map Except.ok ++ _ by simp [hitems]) hends

/-- The line that ends the message has to be passed on as such, unless nothing is left of it. -/
lemma passedAsStop_of_reportsEnd
    (h : ReportsEnd .anthropicMessages (normalizeTranslation serde dedup frames)) :
    (firstEnd serde dedup {} frames.inputs).all
      (fun line => line.2.isNone || passedAsStop line) := by
  obtain ⟨o, hending, htr⟩ := normalize_ends serde dedup frames
  rw [normalizeTranslation, htr] at h
  cases hending with
  | failed hend => rw [hend, Option.all_none]
  | @completed line hend _ hstate hlast =>
    obtain ⟨frame, left⟩ := line
    rw [hend, Option.all_some]
    cases left with
    | none => rfl
    | some data =>
      obtain ⟨before, hitems⟩ := hlast data rfl
      obtain ⟨event, hevent, hsucc⟩ := h.completed_iff.1 hstate
      simp only [hitems, List.map_append, List.map_cons, List.map_nil,
        List.getLast?_concat] at hevent
      cases hevent
      simpa [succeeds, passedEvent, eventWithMetadata, passedAsStop] using hsucc

end

/-- **The translators report how the upstream ended**, each under its condition. -/
theorem translators_report_end (setup : AnthropicSetup) (openai : OpenaiSetup) (serde : Serde)
    (requestedModel : String) (dedup : Bool) (frames : Upstream) :
    (ReportsEnd .anthropicMessages (messageTranslation setup frames) ↔
      (hear setup {} frames.inputs).stop ≠ .refused) ∧
    (ReportsEnd .openAiChatCompletions (passthroughTranslation serde requestedModel frames) ↔
      (frames.inputs.find? (passthroughStops serde)).any (isNullError serde) = false) ∧
    ReportsEnd .openAiChatCompletions (conversionTranslation openai frames) ∧
    ((firstEnd serde dedup {} frames.inputs).all passedAsStop →
      ReportsEnd .anthropicMessages (normalizeTranslation serde dedup frames)) ∧
    (ReportsEnd .anthropicMessages (normalizeTranslation serde dedup frames) →
      (firstEnd serde dedup {} frames.inputs).all
        (fun line => line.2.isNone || passedAsStop line)) :=
  ⟨message_reportsEnd setup frames, passthrough_reportsEnd serde requestedModel frames,
    conversion_reportsEnd openai frames, reportsEnd_of_passedAsStop, passedAsStop_of_reportsEnd⟩

/-- A parser that knows these texts. -/
def reading (texts : List (String × Json)) : Serde where
  fromStr text := ((texts.lookup text).map .ok).getD (.error "expected value at line 1 column 1")
  mismatch _ := "invalid type"
  toText _ := ""
  firstValue _ := none

/-- A frame with one line of data. -/
def frameOf (line : String) : SseFrame := ⟨none, none, none, [], line⟩

/-- A chunk that calls the tool `rm`. -/
def toolChunk : Json :=
  .obj [("choices", .arr [.obj [("delta", .obj [("tool_calls", .arr [.obj [("index", .int 0),
    ("function", .obj [("name", .str "rm")])]])])]])]

def toolChunkText : String :=
  "\x7b\"choices\":[\x7b\"delta\":\x7b\"tool_calls\":[\x7b\"index\":0,\"function\":\x7b\"name\":"
    ++ "\"rm\"\x7d\x7d]\x7d\x7d]\x7d"

/-- A request that declares the tool `ls` only, with strict validation. -/
def strictSetup : AnthropicSetup where
  serde := reading [(toolChunkText, toolChunk)]
  model := "m"
  messageId := "msg"
  deduplicateStreamText := false
  deduplicateToolArguments := false
  toolPolicy := {
    validation := .strict
    allowedNames := some ["ls"]
    inputValidators := []
    minimumCalls := 0
    maximumCalls := none }
  newToolId _ := "toolu"

/-- The upstream calls a tool that was not declared: the output ends with an error item, and the
lifecycle stays pending. -/
theorem undeclared_tool_leaves_pending :
    (messageTranslation strictSetup [.ok (frameOf toolChunkText)]).lifecycle.state = .pending ∧
      ¬ReportsEnd .anthropicMessages
        (messageTranslation strictSetup [.ok (frameOf toolChunkText)]) := by
  have hstate : (messageTranslation strictSetup [.ok (frameOf toolChunkText)]).lifecycle.state =
      .pending := by decide +kernel
  exact ⟨hstate, fun h => h.decided hstate⟩

end ModelPort.Stream

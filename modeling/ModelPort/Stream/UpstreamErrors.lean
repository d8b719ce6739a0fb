import ModelPort.Stream.Endings

/-!
# Are upstream errors delivered as success?

An error object that arrives before the end of a stream should reach the client as an error
(`DeliversError`): the lifecycle is not completed, no success terminal is sent, and an error event
is. A translator that returns after a last event delivers an error just when that event tells of a
failure (`deliversError_of_ends`).

* `conversion_deliversError`: the translation from Anthropic to OpenAI always does.
* `passthrough_deliversError`: the OpenAI pass-through does, unless a chunk whose `error` is `null`
  stops it first.
* `message_deliversError`, `normalize_deliversError`: the translation to Anthropic and the Anthropic
  pass-through do not look at error objects, and go by the first line that ends the reading or is
  called `message_stop`.
-/

namespace ModelPort.Stream

open Generator Generator.Gen Gateway Translator List

/-- The client is told of an error, and not of a success. -/
structure DeliversError (protocol : ClientProtocol) (t : Translation) : Prop where
  state : t.lifecycle.state ≠ .completed
  success : ∀ event, .ok event ∈ t.output → succeeds protocol event = false
  error : ∃ event, .ok event ∈ t.output ∧ signalsError protocol event

/-- A line with an error arrives, and what comes before it is no end. -/
def ErrorArrives (isError isEnd : Input → Bool) (frames : Upstream) : Prop :=
  ∃ earlier x later, frames.inputs = earlier ++ x :: later ∧ isError x ∧
    ∀ y ∈ earlier, isEnd y = false

/-- A chunk with an error object. -/
def Input.isOpenaiError (serde : Serde) (x : Input) : Bool :=
  (x.value serde).any fun chunk => (chunk.get "error").any (!·.isNull)

/-- An error in a frame's place, or the event `message_stop`. -/
def Input.isAnthropicEnd (serde : Serde) : Input → Bool
  | .failure _ => true
  | x => x.hasType serde "message_stop"

variable {frames : Upstream}

section

variable {protocol : ClientProtocol} {t : Translation} {before : List SseEvent}

/-- The line that stops the reading comes no later than the error. -/
lemma ErrorArrives.exists_stop {isError isEnd : Input → Bool}
    (h : ErrorArrives isError isEnd frames) (stops : Input → Bool)
    (hstops : ∀ x, isError x → stops x) :
    ∃ x, frames.inputs.find? stops = some x ∧ (isEnd x = false ∨ isError x) := by
  obtain ⟨earlier, x, later, hinputs, herror, hearl⟩ := h
  rw [hinputs, List.find?_append]
  cases hfind : earlier.find? stops with
  | some y => exact ⟨y, rfl, Or.inl (hearl y (mem_of_find?_eq_some hfind))⟩
  | none => exact ⟨x, by simp [hstops x herror], Or.inr herror⟩

lemma not_deliversError (h : ∀ event, .ok event ∈ t.output → signalsError protocol event = false) :
    ¬DeliversError protocol t := by
  rintro ⟨-, -, event, hevent, hsign⟩
  rw [h event hevent] at hsign
  cases hsign

lemma not_signals_of_plain {last : Except AppError SseEvent}
    (houtp : t.output = before.map .ok ++ [last]) (hplain : Plain protocol before)
    (hlast : ∀ event, last = .ok event → signalsError protocol event = false) :
    ∀ event, .ok event ∈ t.output → signalsError protocol event = false := by
  intro event hevent
  rw [houtp, mem_append, mem_singleton] at hevent
  rcases hevent with hevent | rfl
  · obtain ⟨event', hmem, heq⟩ := mem_map.1 hevent
    cases heq
    exact (hplain event hmem).2
  · exact hlast event rfl

/-- A stream with a last event delivers an error just when the event does. -/
lemma deliversError_of_ends {event : SseEvent} {completed : Bool}
    (houtp : t.output = before.map .ok ++ [.ok event]) (hplain : Plain protocol before)
    (hends : Ends protocol completed event t.lifecycle) :
    DeliversError protocol t ↔ completed = false := by
  obtain ⟨hstate, hsucc, herror⟩ := hends
  cases completed with
  | true => exact iff_of_false (fun h => h.state hstate) nofun
  | false =>
    obtain ⟨message, hstate⟩ := hstate
    refine iff_of_true ⟨by simp [hstate], fun event' hevent => ?_, event, ?_, herror⟩ rfl
    · rw [houtp, mem_append, mem_singleton] at hevent
      rcases hevent with hevent | hevent
      · obtain ⟨_, hmem, heq⟩ := mem_map.1 hevent
        cases heq
        exact (hplain event' hmem).1
      · cases hevent
        exact hsucc
    · rw [houtp]
      exact mem_append_right _ mem_cons_self

end

/-! ### The four translators -/

lemma message_deliversError (setup : AnthropicSetup) (frames : Upstream) :
    DeliversError .anthropicMessages (messageTranslation setup frames) ↔
      (hear setup {} frames.inputs).stop ≠ .refused ∧
        ((frames.inputs.find? (messageStops setup.serde)).any (·.finishes setup.serde) = false ∨
          (hear setup {} frames.inputs).vars.validTools setup = false) := by
  cases message_ends setup frames with
  | refused hstop houtp hplain hpend =>
    exact iff_of_false (not_deliversError (not_signals_of_plain houtp hplain nofun))
      fun h => h.1 hstop
  | told hstop houtp hplain hends =>
    rw [messageTranslation, deliversError_of_ends houtp hplain hends, Heard.completes,
      finished_hear frames.inputs rfl rfl hstop, Bool.and_eq_false_iff]
    exact iff_and_self.2 fun _ => hstop

lemma passthrough_deliversError (serde : Serde) (requestedModel : String)
    (h : ErrorArrives (·.isOpenaiError serde) Input.isEnd frames) :
    DeliversError .openAiChatCompletions (passthroughTranslation serde requestedModel frames) ↔
      (frames.inputs.find? (passthroughStops serde)).any (isNullError serde) = false := by
  obtain ⟨x, hx, hopen⟩ := h.exists_stop (passthroughStops serde) fun x herror => by
    obtain ⟨chunk, hvalue, hsome⟩ := (Option.any_eq_true _ _).1 herror
    rw [passthroughStops, hvalue]
    exact Option.isSome_of_any hsome
  have hreturns : Returns .openAiChatCompletions _
      (openaiStreamPassthrough serde requestedModel frames) ⟨{}, {}⟩ := passthrough_returns hx
  obtain ⟨before, event, houtp, hplain, hends⟩ := hreturns.translate
  rw [EndsAt] at hends
  rw [hx, Option.any_some]
  cases hnull : isNullError serde x with
  | true =>
    rw [if_pos hnull] at hends
    refine iff_of_false (not_deliversError (not_signals_of_plain houtp hplain ?_)) (by simp)
    rintro event' ⟨⟩
    exact hends.2
  | false =>
    rw [if_neg (by simp [hnull])] at hends
    obtain ⟨completed, hends, hend⟩ := hends
    have hnot : x.isEnd = false := by
      rcases hopen with hopen | hopen
      · exact hopen
      · cases reading_of serde x with
        | failure error | done frame => cases hopen
        | text hdone | json hdone => exact decide_eq_false hdone
    have hcompleted : completed = false := by
      cases completed with
      | true => rw [hend rfl] at hnot; cases hnot
      | false => rfl
    exact iff_of_true ((deliversError_of_ends houtp hplain hends).2 hcompleted) rfl

lemma conversion_deliversError (setup : OpenaiSetup)
    (h : ErrorArrives (·.hasType setup.serde "error") (·.isAnthropicEnd setup.serde) frames) :
    DeliversError .openAiChatCompletions (conversionTranslation setup frames) := by
  obtain ⟨x, hx, hopen⟩ := h.exists_stop (conversionStops setup.serde) fun x herror => by
    cases x with
    | failure error => rfl
    | line frame data => rw [conversionStops, herror, Bool.or_true]
  obtain ⟨before, event, houtp, hplain, hends⟩ := (conversion_returns hx).translate
  refine (deliversError_of_ends houtp hplain hends).2 ?_
  cases x with
  | failure error => rfl
  | line frame data =>
    rcases hopen with hopen | hopen
    · exact hopen
    · obtain ⟨event, hvalue, htype⟩ := (Option.any_eq_true _ _).1 hopen
      rw [Input.hasType, hvalue, Option.any_some, of_decide_eq_true htype]
      rfl

lemma normalize_deliversError (serde : Serde) (dedup : Bool) (frames : Upstream) :
    DeliversError .anthropicMessages (normalizeTranslation serde dedup frames) ↔
      (frames.inputs.find? (normalizeStops serde)).any (·.isMessageStop serde) = false := by
  obtain ⟨o, hending, htr⟩ := normalize_ends serde dedup frames
  rw [normalizeTranslation, htr]
  cases hending with
  | completed _ hstop hstate => exact iff_of_false (fun h => h.state hstate) (by simp [hstop])
  | @failed before error message _ hitems hnames hstate =>
    rw [← Bool.not_eq_true, ← hnames]
    refine ⟨?_, fun h => ⟨by simp [hstate], ?_, anthropicErrorEvent error, by simp [hitems], rfl⟩⟩
    · rintro h ⟨event, hevent, hname⟩
      have hsucc := h.success event (by simp [hitems, hevent])
      simp [succeeds, hname] at hsucc
    · intro event hevent
      rw [hitems, mem_map_of_injective fun _ _ h => Except.ok.inj h, mem_append,
        mem_singleton] at hevent
      rcases hevent with hevent | rfl
      · exact decide_eq_false fun hname => h ⟨event, hevent, hname⟩
      · rfl

/-- **An upstream error is delivered as an error**, by each translator under its condition. -/
theorem translators_deliver_error (setup : AnthropicSetup) (openai : OpenaiSetup) (serde : Serde)
    (requestedModel : String) (dedup : Bool) (frames : Upstream) :
    (ErrorArrives (·.isOpenaiError setup.serde) Input.isEnd frames →
      (DeliversError .anthropicMessages (messageTranslation setup frames) ↔
        (hear setup {} frames.inputs).stop ≠ .refused ∧
          ((frames.inputs.find? (messageStops setup.serde)).any (·.finishes setup.serde) = false ∨
            (hear setup {} frames.inputs).vars.validTools setup = false))) ∧
    (ErrorArrives (·.isOpenaiError serde) Input.isEnd frames →
      (DeliversError .openAiChatCompletions (passthroughTranslation serde requestedModel frames) ↔
        (frames.inputs.find? (passthroughStops serde)).any (isNullError serde) = false)) ∧
    (ErrorArrives (·.hasType openai.serde "error") (·.isAnthropicEnd openai.serde) frames →
      DeliversError .openAiChatCompletions (conversionTranslation openai frames)) ∧
    (ErrorArrives (·.hasType serde "error") (·.isAnthropicEnd serde) frames →
      (DeliversError .anthropicMessages (normalizeTranslation serde dedup frames) ↔
        (frames.inputs.find? (normalizeStops serde)).any (·.isMessageStop serde) = false)) :=
  ⟨fun _ => message_deliversError setup frames, passthrough_deliversError serde requestedModel,
    conversion_deliversError openai,
    fun _ => normalize_deliversError serde dedup frames⟩

/-- A chunk that is an error object. -/
def errorChunk : Json :=
  .obj [("choices", .arr []), ("error", .obj [("message", .str "overloaded")])]

/-- A request without tools, to an upstream that is overloaded. -/
def overloadedSetup : AnthropicSetup :=
  { strictSetup with
    serde := reading [("overloaded", errorChunk)]
    toolPolicy := { strictSetup.toolPolicy with allowedNames := none } }

/-- The upstream sends an error object and `[DONE]`: the client gets a complete message. -/
theorem error_chunk_completes :
    ErrorArrives (·.isOpenaiError overloadedSetup.serde) Input.isEnd
        [.ok (frameOf "overloaded"), .ok (frameOf "[DONE]")] ∧
      (messageTranslation overloadedSetup
        [.ok (frameOf "overloaded"), .ok (frameOf "[DONE]")]).lifecycle.state = .completed ∧
      ¬DeliversError .anthropicMessages (messageTranslation overloadedSetup
        [.ok (frameOf "overloaded"), .ok (frameOf "[DONE]")]) := by
  have hstate : (messageTranslation overloadedSetup
      [.ok (frameOf "overloaded"), .ok (frameOf "[DONE]")]).lifecycle.state = .completed := by
    decide +kernel
  refine ⟨⟨[], .line (frameOf "overloaded") "overloaded", [.line (frameOf "[DONE]") "[DONE]"], ?_,
    ?_, nofun⟩, hstate, fun h => h.state hstate⟩
  · rfl
  · rfl

end ModelPort.Stream

import ModelPort.Stream.Translation

/-!
# How a translated stream ends

The words in which the endings of the translators are stated: the event by which a client learns
that its stream is complete (`succeeds`) or has failed (`signalsError`), and when what a translator
reports agrees with what its client sees (`ReportsEnd`).

A translator mostly ends by returning after a last event (`Returns`), so its ending is read off
that event (`reportsEnd_of_ends`).
-/

namespace ModelPort.Stream

open Generator Generator.Gen Gateway Translator List

variable {event : SseEvent} {stops : Input → Bool} {inputs : List Input} {x : Input}

/-- The event that ends a complete stream. -/
def succeeds : ClientProtocol → SseEvent → Bool
  | .anthropicMessages, event => event.event = some "message_stop"
  | .openAiChatCompletions, event =>
    match event.data with
    | .text text => text = "[DONE]"
    | .json _ => false

/-- An event that tells the client of an error. -/
def signalsError : ClientProtocol → SseEvent → Bool
  | .anthropicMessages, event => event.event = some "error"
  | .openAiChatCompletions, event =>
    match event.data with
    | .text _ => false
    | .json value => (value.get "error").any (!·.isNull)

variable {protocol : ClientProtocol}

def EndsWithSuccess (protocol : ClientProtocol) (output : List (Except AppError SseEvent)) : Prop :=
  ∃ event, output.getLast? = some (.ok event) ∧ succeeds protocol event

/-- The output ends with an error event, or with an error item. -/
def EndsWithError (protocol : ClientProtocol) (output : List (Except AppError SseEvent)) : Prop :=
  (∃ event, output.getLast? = some (.ok event) ∧ signalsError protocol event) ∨
    ∃ error, output.getLast? = some (.error error)

/-- **A translator reports how the upstream ended**, and its client sees the same. -/
structure ReportsEnd (protocol : ClientProtocol) (t : Translation) : Prop where
  decided : t.lifecycle.state ≠ .pending
  completed_iff : t.lifecycle.state = .completed ↔ EndsWithSuccess protocol t.output
  failed_iff : (∃ error, t.lifecycle.state = .failed error) ↔ EndsWithError protocol t.output

/-- The last event says how the stream ended, and so does what is reported by then. -/
structure Ends (protocol : ClientProtocol) (completed : Bool) (event : SseEvent) (l : Lifecycle) :
    Prop where
  state : if completed then l.state = .completed else ∃ error, l.state = .failed error
  success : succeeds protocol event = completed
  error : signalsError protocol event = !completed

lemma reportsEnd_of_ends {t : Translation} {completed : Bool}
    {before : List (Except AppError SseEvent)} (houtp : t.output = before ++ [.ok event])
    (h : Ends protocol completed event t.lifecycle) : ReportsEnd protocol t := by
  obtain ⟨hstate, hsucc, herror⟩ := h
  have hlast : t.output.getLast? = some (.ok event) := by rw [houtp, List.getLast?_concat]
  have hends : EndsWithSuccess protocol t.output ↔ completed := by
    rw [EndsWithSuccess, hlast, ← hsucc]
    simp
  have hfails : EndsWithError protocol t.output ↔ completed = false := by
    rw [EndsWithError, hlast]
    simp [herror]
  cases completed with
  | true =>
    rw [if_pos rfl] at hstate
    exact ⟨by simp [hstate], by simp [hstate, hends], by simp [hstate, hfails]⟩
  | false =>
    obtain ⟨error, hstate⟩ := hstate
    exact ⟨by simp [hstate], by simp [hstate, hends], by simp [hstate, hfails]⟩

/-! ### Translators that go on -/

section

variable {σ α β : Type} {events : List SseEvent} {s : Running σ}

/-- None of these events tells the client how the stream ends. -/
def Plain (protocol : ClientProtocol) (events : List SseEvent) : Prop :=
  ∀ event ∈ events, succeeds protocol event = false ∧ signalsError protocol event = false

lemma plain_nil : Plain protocol [] := nofun

lemma plain_cons (hsucc : succeeds protocol event = false)
    (herror : signalsError protocol event = false) (h : Plain protocol events) :
    Plain protocol (event :: events) := forall_mem_cons.2 ⟨⟨hsucc, herror⟩, h⟩

lemma Plain.append {events' : List SseEvent} (h : Plain protocol events)
    (h' : Plain protocol events') : Plain protocol (events ++ events') :=
  fun event hevent => (mem_append.1 hevent).elim (h event) (h' event)

/-- Ends with a value, yields plain events, and does not report an end. -/
def Quiet (protocol : ClientProtocol) (x : Translator σ α) : Prop :=
  ∀ s, ∃ items s' a, x s = ⟨items, s', .ok a⟩ ∧ Plain protocol items ∧
    s'.lifecycle.state = s.lifecycle.state

lemma quiet_pure (a : α) : Quiet protocol (pure a : Translator σ α) :=
  fun s => ⟨[], s, a, rfl, plain_nil, rfl⟩

lemma quiet_vars : Quiet protocol (vars : Translator σ σ) :=
  fun s => ⟨[], s, s.vars, rfl, plain_nil, rfl⟩

lemma quiet_yield (hsucc : succeeds protocol event = false)
    (herror : signalsError protocol event = false) :
    Quiet protocol (yield event : Translator σ Unit) :=
  fun s => ⟨[event], s, (), rfl, plain_cons hsucc herror plain_nil, rfl⟩

lemma quiet_setVars (f : σ → σ) : Quiet protocol (setVars f) :=
  fun s => ⟨[], ⟨f s.vars, s.lifecycle⟩, (), rfl, plain_nil, rfl⟩

lemma quiet_report {f : Lifecycle → Lifecycle} (hf : ∀ l, (f l).state = l.state) :
    Quiet protocol (report f : Translator σ Unit) :=
  fun s => ⟨[], ⟨s.vars, f s.lifecycle⟩, (), rfl, plain_nil, hf _⟩

lemma quiet_report_observe (count : ℕ) (text : Bool) :
    Quiet protocol (report (·.observeResponseFragment count text) : Translator σ Unit) :=
  quiet_report fun _ => rfl

lemma quiet_report_merge (usage : Option TokenUsageBreakdown) (cost : Option ℚ) :
    Quiet protocol (report (·.mergeReported usage cost) : Translator σ Unit) :=
  quiet_report (Lifecycle.state_mergeReported usage cost)

lemma Quiet.bind {x : Translator σ β} {f : β → Translator σ α} (hx : Quiet protocol x)
    (hf : ∀ b, Quiet protocol (f b)) : Quiet protocol (x >>= f) := by
  intro s
  obtain ⟨items, s', b, heq, hplain, hstate⟩ := hx s
  obtain ⟨items', s'', a, heq', hplain', hstate'⟩ := hf b s'
  refine ⟨items ++ items', s'', a, ?_, hplain.append hplain', hstate'.trans hstate⟩
  rw [bind_of_ok heq, heq']

lemma Quiet.ite {c : Prop} [Decidable c] {x y : Translator σ α} (hx : Quiet protocol x)
    (hy : Quiet protocol y) : Quiet protocol (if c then x else y) := by
  split_ifs
  · exact hx
  · exact hy

lemma Quiet.forEach {ι : Type} {body : ι → Translator σ Unit} {xs : List ι}
    (h : ∀ x ∈ xs, Quiet protocol (body x)) : Quiet protocol (forEach body xs) := by
  induction xs with
  | nil => exact quiet_pure ()
  | cons x xs ih =>
    exact (h x mem_cons_self).bind fun _ => ih fun y hy => h y (mem_cons_of_mem _ hy)

end

/-! ### Translators that return -/

section

variable {σ : Type} {P : SseEvent → Lifecycle → Prop} {s : Running σ} {message : String}

/-- From `s`, the translator returns after plain events and a last one that satisfies `P` together
with what is reported by then. -/
def Returns (protocol : ClientProtocol) (P : SseEvent → Lifecycle → Prop) (x : Translator σ Unit)
    (s : Running σ) : Prop :=
  ∃ before event s', x s = ⟨before ++ [event], s', .error .returned⟩ ∧ Plain protocol before ∧
    P event s'.lifecycle

lemma returns_fail
    (hP : P event (s.lifecycle.markFailed message)) : Returns protocol P (fail message event) s :=
  ⟨[], event, ⟨s.vars, s.lifecycle.markFailed message⟩, by simp [fail, report], plain_nil, hP⟩

lemma returns_failed
    (hsucc : succeeds protocol event = false) (herror : signalsError protocol event)
    (hs : s.lifecycle.state = .pending) :
    Returns protocol (Ends protocol false) (fail message event) s :=
  returns_fail ⟨⟨message, Lifecycle.state_markFailed hs _⟩, hsucc, herror⟩

/-- What comes before is kept. -/
lemma Returns.of_bind {α : Type} {x : Translator σ α} {f : α → Translator σ Unit} {s' : Running σ}
    {items : List SseEvent} {a : α} (hx : x s = ⟨items, s', .ok a⟩) (hplain : Plain protocol items)
    (h : Returns protocol P (f a) s') : Returns protocol P (x >>= f) s := by
  obtain ⟨before, event, s'', heq, hplain', hP⟩ := h
  refine ⟨items ++ before, event, s'', ?_, hplain.append hplain', hP⟩
  rw [bind_of_ok hx, heq, append_assoc]

/-- A translator left by `return` runs nothing that follows. -/
lemma Returns.bind {x : Translator σ Unit} {f : Unit → Translator σ Unit}
    (h : Returns protocol P x s) : Returns protocol P (x >>= f) s := by
  obtain ⟨before, event, s', heq, h⟩ := h
  exact ⟨before, event, s', bind_of_error heq, h⟩

lemma Returns.mono {P' : SseEvent → Lifecycle → Prop} {x : Translator σ Unit}
    (h : Returns protocol P x s) (hP : ∀ event l, P event l → P' event l) :
    Returns protocol P' x s := by
  obtain ⟨before, event, s', heq, hplain, hevent⟩ := h
  exact ⟨before, event, s', heq, hplain, hP _ _ hevent⟩

lemma Returns.translate {x : Translator σ Unit} {vars : σ} (h : Returns protocol P x ⟨vars, {}⟩) :
    ∃ before event, (translate x vars).output = before.map .ok ++ [.ok event] ∧
      Plain protocol before ∧ P event (translate x vars).lifecycle := by
  obtain ⟨before, event, s', heq, hplain, hP⟩ := h
  refine ⟨before, event, ?_, hplain, ?_⟩
  · simp [Stream.translate, heq]
  · rw [Stream.translate, heq]
    exact hP

/-! ### Loops that a line stops -/

/-- **A loop over lines up to one that returns.** -/
lemma returns_forEach {body : Input → Translator σ Unit}
    (hgo : ∀ x, stops x = false → Quiet protocol (body x)) (hs : s.lifecycle.state = .pending)
    (hx : inputs.find? stops = some x)
    (hstop : ∀ s', s'.lifecycle.state = .pending → Returns protocol P (body x) s') :
    Returns protocol P (forEach body inputs) s := by
  obtain ⟨-, earlier, later, rfl, hearl⟩ := List.find?_eq_some_iff_append.1 hx
  have hquiet : Quiet protocol (forEach body earlier) :=
    .forEach fun y hy => hgo y (by simpa using hearl y hy)
  obtain ⟨items, s', _, heq, hplain, hs'⟩ := hquiet s
  rw [forEach_append]
  exact .of_bind heq hplain (hstop s' (hs'.trans hs)).bind

end

end ModelPort.Stream

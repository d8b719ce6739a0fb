import ModelPort.Stream.ClientEndings
import ModelPort.Stream.OpenAiStream

/-!
# The endings of OpenAI streams for Anthropic clients

What the translator has taken in when it stops reading is a function of the lines alone, `hear`:
its variables, and why no further line is read. A fragment that is the first to name
its tool call starts the call, so its name has to pass the policy; if it does not, the error
operator leaves the translator in the middle (`Stop.refused`).

* `takes_fragment`, `takes_choice`: the steps within a chunk take in what the
  functions on the variables say (`Takes`).
-/

namespace ModelPort.Stream

open Generator Generator.Gen Gateway Translator

variable {setup : AnthropicSetup} {s : Running MessageVars}

/-! ### What is heard -/

/-- A fragment of a tool call, and the number of calls that is reported when it starts the call. -/
structure Fragment where
  key : ℕ
  observed : ℕ
  id : Option String
  function : Option OpenAiFunctionDelta

def OpenAiStreamChoice.fragments (choice : OpenAiStreamChoice) : List Fragment :=
  (choice.delta.toolCalls.getD []).map
      (fun call => ⟨call.index, saturatingAdd call.index 1, call.id, call.function⟩)
    ++ choice.delta.functionCall.toList.map fun function =>
      ⟨functionCallKey, 1, none, some function⟩

section

variable (setup : AnthropicSetup)

/-- A tool call that is started, with its arguments sent unless they are held back. -/
def ToolState.sent (t : ToolState) : ToolState :=
  { t with
    started := true
    pendingArguments := if setup.deduplicateToolArguments then t.pendingArguments else "" }

namespace MessageVars

/-- The tool call of a fragment is put into the map; a new call takes the next index. -/
def put (v : MessageVars) (f : Fragment) (t : ToolState) : MessageVars :=
  { v with
    tools := v.tools.put f.key t
    nextIndex := if (v.tools.lookup f.key).isSome then v.nextIndex else v.nextIndex + 1 }

/-- A fragment is added to its tool call. A call that is named now is started, if the policy
accepts the name. -/
def fragment (v : MessageVars) (f : Fragment) : Except AppError MessageVars :=
  let tool := ((v.tools.lookup f.key).getD { index := v.nextIndex }).receive f.id f.function
    setup.deduplicateToolArguments
  if tool.started then .ok (v.put f (tool.sent setup))
  else if tool.name.isNone then .ok (v.put f tool)
  else (setup.toolPolicy.validateName tool.name).map fun _ => v.put f (tool.sent setup)

/-- The text of a choice, and whether its tool calls are looked at. -/
def content (v : MessageVars) : Option String → MessageVars × Bool
  | none => (v, true)
  | some content =>
    let new := textDelta v.textSeen content setup.deduplicateStreamText
    if new.1 = "" then ({ v with textSeen := new.2 }, false)
    else if v.textIndex.isSome then ({ v with textSeen := new.2 }, true)
    else
      ({ v with textSeen := new.2, nextIndex := v.nextIndex + 1, textIndex := some v.nextIndex },
        true)

def choice (v : MessageVars) (choice : OpenAiStreamChoice) : Except AppError MessageVars :=
  let new := (choice.finishReason.elim v (noteFinishReason · v)).content setup choice.delta.content
  if new.2 then choice.fragments.foldlM (fragment setup) new.1 else .ok new.1

def chunk (v : MessageVars) (chunk : OpenAiStreamChunk) : Except AppError MessageVars :=
  chunk.choices.foldlM (choice setup) { v with messageStarted := true }

end MessageVars

/-- Why no further line is read. -/
inductive Stop where
  /-- the policy refuses a tool call -/
  | refused
  /-- an error in a frame's place, or a line that is no chunk -/
  | failed
  /-- the end of the stream -/
  | ended
  deriving DecidableEq

/-- What was taken in. -/
structure Heard where
  vars : MessageVars
  stop : Stop

/-- What is taken in of these lines. -/
def hear (v : MessageVars) : List Input → Heard
  | [] => ⟨v, .ended⟩
  | .failure _ :: _ => ⟨v, if v.sawFinishReason then .ended else .failed⟩
  | .line _ data :: rest =>
    if data = "[DONE]" then ⟨{ v with messageStarted := true, streamDone := true }, .ended⟩
    else
      match setup.serde.readChunk data with
      | .error _ => ⟨v, .failed⟩
      | .ok chunk =>
        match v.chunk setup chunk with
        | .error _ => ⟨v, .refused⟩
        | .ok v' => if v'.streamDone then ⟨v', .ended⟩ else hear v' rest

/-- The tool calls pass the check at the end. -/
def MessageVars.validTools (v : MessageVars) : Bool :=
  match validateTools setup.toolPolicy setup.serde setup.deduplicateToolArguments
      v.upstreamFinishReason v.tools with
  | .ok () => true
  | .error _ => false

/-- The stream has ended. -/
def Heard.finished (h : Heard) : Bool :=
  h.stop = .ended && (h.vars.streamDone || h.vars.sawFinishReason) && h.vars.messageStarted

/-- The stream has ended, and the tool calls are valid. -/
def Heard.completes (h : Heard) : Bool := h.finished && h.vars.validTools setup

end

/-! ### The line that ends the message -/

/-- `[DONE]`, or a chunk with a reason to finish. -/
def Input.finishes (serde : Serde) : Input → Bool
  | .failure _ => false
  | .line _ data => data = "[DONE]" ||
      (serde.readChunk data).toOption.any (·.choices.any (·.finishReason.isSome))

/-- An error in a frame's place, or a line that is no chunk. -/
def Input.unreadable (serde : Serde) : Input → Bool
  | .failure _ => true
  | .line _ data => data ≠ "[DONE]" && (serde.readChunk data).toOption.isNone

/-- The lines that end the reading. -/
def messageStops (serde : Serde) (x : Input) : Bool := x.finishes serde || x.unreadable serde

section

variable {v v' v'' : MessageVars} {f g : Bool}

/-- From `v` to `v'` there was a reason to finish, or none. -/
structure Finishes (f : Bool) (v v' : MessageVars) : Prop where
  started : v'.messageStarted = v.messageStarted
  done : v'.streamDone = (v.streamDone || f)
  saw : v'.sawFinishReason = (v.sawFinishReason || f)

lemma Finishes.trans (h : Finishes f v v') (h' : Finishes g v' v'') : Finishes (f || g) v v'' where
  started := h'.started.trans h.started
  done := by rw [h'.done, h.done, Bool.or_assoc]
  saw := by rw [h'.saw, h.saw, Bool.or_assoc]

lemma finishes_false (hstarted : v'.messageStarted = v.messageStarted)
    (hdone : v'.streamDone = v.streamDone) (hsaw : v'.sawFinishReason = v.sawFinishReason) :
    Finishes false v v' :=
  ⟨hstarted, by rw [hdone, Bool.or_false], by rw [hsaw, Bool.or_false]⟩

/-- A loop has a reason to finish if one of its steps has. -/
lemma finishes_foldlM {ι : Type} {p : ι → Bool}
    {step : MessageVars → ι → Except AppError MessageVars}
    (hstep : ∀ x v v', step v x = .ok v' → Finishes (p x) v v') (xs : List ι)
    (h : xs.foldlM step v = .ok v') : Finishes (xs.any p) v v' := by
  induction xs generalizing v with
  | nil =>
    cases h
    exact finishes_false rfl rfl rfl
  | cons x xs ih =>
    obtain ⟨v1, hx, hxs⟩ := Except.bind_eq_ok.1 h
    exact (hstep x v v1 hx).trans (ih hxs)

lemma finishes_fragment {fragment : Fragment} (h : v.fragment setup fragment = .ok v') :
    Finishes false v v' := by
  simp only [MessageVars.fragment] at h
  split_ifs at h
  · cases h
    exact finishes_false rfl rfl rfl
  · cases h
    exact finishes_false rfl rfl rfl
  · cases hname : setup.toolPolicy.validateName _ with
    | error error =>
      rw [hname] at h
      cases h
    | ok name =>
      rw [hname] at h
      cases h
      exact finishes_false rfl rfl rfl

lemma finishes_content (setup : AnthropicSetup) (v : MessageVars) (content : Option String) :
    Finishes false v (v.content setup content).1 := by
  cases content with
  | none => exact finishes_false rfl rfl rfl
  | some content =>
    simp only [MessageVars.content]
    split_ifs
    all_goals exact finishes_false rfl rfl rfl

lemma finishes_choice {choice : OpenAiStreamChoice} (h : v.choice setup choice = .ok v') :
    Finishes choice.finishReason.isSome v v' := by
  have hnote : Finishes choice.finishReason.isSome v
      (choice.finishReason.elim v (noteFinishReason · v)) := by
    cases choice.finishReason with
    | none => exact finishes_false rfl rfl rfl
    | some reason => exact ⟨rfl, (Bool.or_true _).symm, (Bool.or_true _).symm⟩
  have hcont := hnote.trans (finishes_content setup _ choice.delta.content)
  rw [Bool.or_false] at hcont
  simp only [MessageVars.choice] at h
  split_ifs at h
  · have hfragments := hcont.trans (finishes_foldlM (p := fun _ => false)
      (fun _ _ _ => finishes_fragment) _ h)
    rwa [List.any_eq_false.2 (by simp), Bool.or_false] at hfragments
  · cases h
    exact hcont

/-- **A chunk finishes the message** if one of its choices has a reason to. -/
lemma finishes_chunk {chunk : OpenAiStreamChunk} (h : v.chunk setup chunk = .ok v') :
    Finishes (chunk.choices.any (·.finishReason.isSome)) { v with messageStarted := true } v' :=
  finishes_foldlM (p := fun choice => choice.finishReason.isSome) (fun _ _ _ => finishes_choice) _ h

/-- **The stream has ended** just when the first line that ends the reading ends the message. -/
lemma finished_hear (inputs : List Input) (hdone : v.streamDone = false)
    (hsaw : v.sawFinishReason = false) (hstop : (hear setup v inputs).stop ≠ .refused) :
    (hear setup v inputs).finished =
      (inputs.find? (messageStops setup.serde)).any (·.finishes setup.serde) := by
  induction inputs generalizing v with
  | nil => simp [hear, Heard.finished, hdone, hsaw]
  | cons x inputs ih =>
    cases x with
    | failure error =>
      simp [hear, Heard.finished, hsaw, messageStops, Input.unreadable, Input.finishes]
    | line frame data =>
      rw [hear] at hstop ⊢
      split_ifs at hstop ⊢ with hdata
      · simp [Heard.finished, messageStops, Input.finishes, hdata]
      · have hfin : (Input.line frame data).finishes setup.serde =
            (setup.serde.readChunk data).toOption.any (·.choices.any (·.finishReason.isSome)) := by
          rw [Input.finishes, decide_eq_false hdata, Bool.false_or]
        have hunr : (Input.line frame data).unreadable setup.serde =
            (setup.serde.readChunk data).toOption.isNone := by
          rw [Input.unreadable, decide_eq_true hdata, Bool.true_and]
        cases hread : setup.serde.readChunk data with
        | error error =>
          rw [hread] at hfin hunr
          rw [List.find?_cons_of_pos (by rw [messageStops, hunr]; exact Bool.or_true _),
            Option.any_some, hfin]
          rfl
        | ok chunk =>
          rw [hread] at hfin hunr hstop
          change _ = chunk.choices.any (·.finishReason.isSome) at hfin
          change _ = false at hunr
          dsimp only at hstop ⊢
          cases hchunk : v.chunk setup chunk with
          | error error =>
            rw [hchunk] at hstop
            exact absurd rfl hstop
          | ok v' =>
            rw [hchunk] at hstop
            have hv' := finishes_chunk hchunk
            have hdone' : v'.streamDone = chunk.choices.any (·.finishReason.isSome) := by
              rw [hv'.done, hdone, Bool.false_or]
            dsimp only at hstop ⊢
            split_ifs at hstop ⊢ with hend
            · rw [List.find?_cons_of_pos (by rw [messageStops, hfin, ← hdone', hend]; rfl),
                Option.any_some, hfin, ← hdone', hend, Heard.finished, hend, hv'.started]
              rfl
            · rw [Bool.not_eq_true] at hend
              rw [List.find?_cons_of_neg (by simp [messageStops, hfin, ← hdone', hend,
                hunr])]
              refine ih hend ?_ hstop
              rw [hv'.saw, hsaw, ← hdone', hend]
              rfl

end

/-! ### Steps within a chunk -/

variable {x : Translator MessageVars Unit} {items : List SseEvent} {name : String}

section

variable {α : Type} {r : Except AppError MessageVars}

/-- The events do not tell how the stream ends, and neither does what is reported. -/
structure Kept (items : List SseEvent) (l l' : Lifecycle) : Prop where
  plain : Plain .anthropicMessages items
  state : l'.state = l.state

lemma kept_nil (l : Lifecycle) : Kept [] l l := ⟨plain_nil, rfl⟩

lemma Kept.append {items' : List SseEvent} {l l' l'' : Lifecycle} (h : Kept items l l')
    (h' : Kept items' l' l'') : Kept (items ++ items') l l'' :=
  ⟨h.plain.append h'.plain, h'.state.trans h.state⟩

/-- From `s`, the step leads to these variables, or is left with this error. -/
inductive TakesAt (x : Translator MessageVars Unit) (s : Running MessageVars) :
    Except AppError MessageVars → Prop
  | ok {items : List SseEvent} {s' : Running MessageVars} (hrun : x s = ⟨items, s', .ok ()⟩)
      (hkept : Kept items s.lifecycle s'.lifecycle) : TakesAt x s (.ok s'.vars)
  | error {items : List SseEvent} {s' : Running MessageVars} {error : AppError}
      (hrun : x s = ⟨items, s', .error (.failed error)⟩)
      (hkept : Kept items s.lifecycle s'.lifecycle) : TakesAt x s (.error error)

lemma TakesAt.of_eq {y : Translator MessageVars Unit} {s1 : Running MessageVars}
    (hrun : x s = y s1) (hl : s1.lifecycle = s.lifecycle) (h : TakesAt y s1 r) : TakesAt x s r := by
  cases h with
  | ok hrun' hkept => exact .ok (hrun.trans hrun') (hl ▸ hkept)
  | error hrun' hkept => exact .error (hrun.trans hrun') (hl ▸ hkept)

/-- The step changes the variables as `f` says. -/
def Takes (x : Translator MessageVars Unit) (f : MessageVars → Except AppError MessageVars) :
    Prop :=
  ∀ s, TakesAt x s (f s.vars)

/-- What comes before is kept. -/
lemma TakesAt.after {x : Translator MessageVars α} {f : α → Translator MessageVars Unit}
    {s' : Running MessageVars} {a : α}
    (hx : x s = ⟨items, s', .ok a⟩) (hkept : Kept items s.lifecycle s'.lifecycle)
    (h : TakesAt (f a) s' r) : TakesAt (x >>= f) s r := by
  cases h with
  | error hrun hkept' => exact .error ((bind_of_ok hx).trans (by rw [hrun])) (hkept.append hkept')
  | ok hrun hkept' => exact .ok ((bind_of_ok hx).trans (by rw [hrun])) (hkept.append hkept')

lemma Takes.bind {y : Unit → Translator MessageVars Unit}
    {f g : MessageVars → Except AppError MessageVars} (hx : Takes x f) (hy : Takes (y ()) g) :
    Takes (x >>= y) fun v => f v >>= g := by
  intro s
  have hfirst := hx s
  show TakesAt _ s (f s.vars >>= g)
  generalize f s.vars = first at hfirst
  cases hfirst with
  | error hrun hkept => exact .error (bind_of_error hrun) hkept
  | ok hrun hkept => exact .after hrun hkept (hy _)

lemma takes_forEach {ι : Type} {body : ι → Translator MessageVars Unit}
    {f : MessageVars → ι → Except AppError MessageVars} (h : ∀ x, Takes (body x) (f · x))
    (xs : List ι) : Takes (forEach body xs) fun v => xs.foldlM f v := by
  induction xs with
  | nil => exact fun s => .ok rfl (kept_nil _)
  | cons x xs ih => exact (h x).bind ih

section

variable {v : MessageVars} {f : Fragment} {tool : ToolState} {l : Lifecycle}

lemma setTool_put (t : ToolState) :
    setTool f.key t ⟨v.put f tool, l⟩ = ⟨[], ⟨v.put f t, l⟩, .ok ()⟩ := by
  simp [setTool, setVars, MessageVars.put, OrdMap.put_put]

variable (setup v f l) in
lemma yieldPendingArguments_run (hstarted : tool.started) :
    ∃ items, Plain .anthropicMessages items ∧
      yieldPendingArguments setup f.key tool ⟨v.put f tool, l⟩ =
        ⟨items, ⟨v.put f (tool.sent setup), l⟩, .ok (tool.sent setup)⟩ := by
  obtain ⟨index, id, name, started, seen, raw, pending, all⟩ := tool
  obtain rfl : started := hstarted
  rw [yieldPendingArguments, ToolState.sent]
  by_cases hc : (setup.deduplicateToolArguments || decide (pending = ""))
  · have hsent : (if setup.deduplicateToolArguments = true then pending else "") = pending := by
      simp only [Bool.or_eq_true, decide_eq_true_eq] at hc
      rcases hc with hc | hc
      · rw [if_pos hc]
      · rw [hc, ite_self]
    rw [if_pos hc, hsent]
    exact ⟨[], plain_nil, rfl⟩
  · have hsent : (if setup.deduplicateToolArguments = true then pending else "") = "" :=
      if_neg fun h => hc (by rw [h, Bool.true_or])
    rw [if_neg hc, hsent]
    exact ⟨_, plain_cons rfl rfl plain_nil, (bind_of_ok (setTool_put _)).trans rfl⟩

lemma startToolState_error {error : AppError}
    (hname : setup.toolPolicy.validateName tool.name = .error error) :
    startToolState setup f.key tool ⟨v.put f tool, l⟩ =
      ⟨[], ⟨v.put f { tool with started := true }, l⟩, .error (.failed error)⟩ := by
  rw [startToolState, bind_of_ok (setTool_put _), hname]
  rfl

lemma startToolState_ok (hname : setup.toolPolicy.validateName tool.name = .ok name) :
    ∃ items, Plain .anthropicMessages items ∧ startToolState setup f.key tool ⟨v.put f tool, l⟩ =
      ⟨items, ⟨v.put f { tool with started := true }, l⟩, .ok { tool with started := true }⟩ := by
  rw [startToolState, bind_of_ok (setTool_put _), hname]
  exact ⟨_, plain_cons rfl rfl plain_nil, rfl⟩

lemma takes_startNamedTool (hstarted : tool.started = false) (hname : tool.name.isNone = false) :
    TakesAt (startNamedTool setup f.key f.observed tool) ⟨v.put f tool, l⟩
      ((setup.toolPolicy.validateName tool.name).map fun _ => v.put f (tool.sent setup)) := by
  have hrun : startNamedTool setup f.key f.observed tool ⟨v.put f tool, l⟩ =
      (startToolState setup f.key tool >>= fun tool => do
        let _ ← yieldPendingArguments setup f.key tool)
        ⟨v.put f tool, l.observeResponseFragment f.observed (v.textSeen ≠ "")⟩ := by
    rw [startNamedTool, if_neg (by simp [hstarted, hname])]
    rfl
  cases hvalid : setup.toolPolicy.validateName tool.name with
  | error error =>
    exact .error (hrun.trans (bind_of_error (startToolState_error hvalid))) ⟨plain_nil, rfl⟩
  | ok name =>
    obtain ⟨items, hplain, hstart⟩ := startToolState_ok (f := f) (v := v)
      (l := l.observeResponseFragment f.observed (v.textSeen ≠ "")) hvalid
    obtain ⟨items', hplain', hyield⟩ := yieldPendingArguments_run setup v f
      (l.observeResponseFragment f.observed (v.textSeen ≠ ""))
      (show ({ tool with started := true } : ToolState).started = true from rfl)
    rw [bind_of_ok hstart, bind_of_ok hyield] at hrun
    exact .ok hrun ⟨hplain.append (hplain'.append plain_nil), rfl⟩

/-- **A fragment is taken in**, or its tool call is refused. -/
lemma takes_fragment (f : Fragment) :
    Takes (receiveToolFragment setup f.key f.observed f.id f.function) (·.fragment setup f) := by
  rintro ⟨v, l⟩
  have hrun : receiveToolFragment setup f.key f.observed f.id f.function ⟨v, l⟩ =
      (yieldPendingIfStarted setup f.key
          (((v.tools.lookup f.key).getD { index := v.nextIndex }).receive f.id f.function
            setup.deduplicateToolArguments) >>= startNamedTool setup f.key f.observed)
        ⟨v.put f (((v.tools.lookup f.key).getD { index := v.nextIndex }).receive f.id f.function
            setup.deduplicateToolArguments), l⟩ := rfl
  simp only [MessageVars.fragment]
  generalize ((v.tools.lookup f.key).getD { index := v.nextIndex }).receive f.id f.function
    setup.deduplicateToolArguments = tool at hrun ⊢
  rw [yieldPendingIfStarted] at hrun
  by_cases hstarted : tool.started
  · obtain ⟨items, hplain, hyield⟩ := yieldPendingArguments_run setup v f l hstarted
    rw [if_pos hstarted, bind_of_ok hyield, startNamedTool] at hrun
    rw [if_pos hstarted]
    exact .ok hrun ⟨hplain.append plain_nil, rfl⟩
  · rw [if_neg hstarted, pure_bind] at hrun
    rw [if_neg hstarted]
    by_cases hname : tool.name.isNone
    · rw [startNamedTool, if_pos (by simp [hname])] at hrun
      rw [if_pos hname]
      exact .ok hrun (kept_nil _)
    · rw [if_neg hname]
      exact .of_eq hrun rfl
        (takes_startNamedTool (by simpa using hstarted) (Bool.eq_false_of_not_eq_true hname))

end

lemma receiveContent_run (setup : AnthropicSetup) (content : Option String)
    (s : Running MessageVars) : ∃ items s', receiveContent setup content s =
        ⟨items, s', .ok (s.vars.content setup content).2⟩ ∧
      s'.vars = (s.vars.content setup content).1 ∧ Kept items s.lifecycle s'.lifecycle := by
  cases content with
  | none => exact ⟨[], s, rfl, rfl, kept_nil _⟩
  | some content =>
    simp only [receiveContent, MessageVars.content, vars, setVars, get_bind, bind_assoc, pure_bind,
      modify_bind]
    split_ifs with hnew htext
    · exact ⟨_, _, rfl, rfl, kept_nil _⟩
    · obtain ⟨index, hindex⟩ := Option.isSome_iff_exists.1 htext
      rw [hindex]
      exact ⟨_, _, rfl, rfl, plain_cons rfl rfl plain_nil, rfl⟩
    · rw [Option.not_isSome_iff_eq_none.1 htext]
      exact ⟨_, _, rfl, rfl, plain_cons rfl rfl (plain_cons rfl rfl plain_nil), rfl⟩

lemma takes_fragments (choice : OpenAiStreamChoice) :
    Takes (forEach (receiveToolCall setup) (choice.delta.toolCalls.getD []) >>= fun _ =>
        receiveFunctionCall setup choice.delta.functionCall)
      fun v => choice.fragments.foldlM (MessageVars.fragment setup) v := by
  have hcall : ∀ call, Takes (receiveToolCall setup call) fun v => v.fragment setup
      ⟨call.index, saturatingAdd call.index 1, call.id, call.function⟩ := fun call =>
    takes_fragment ⟨call.index, saturatingAdd call.index 1, call.id, call.function⟩
  have hcalls : Takes (forEach (receiveToolCall setup) (choice.delta.toolCalls.getD [])) fun v =>
      (choice.delta.toolCalls.getD []).foldlM (fun v call => v.fragment setup
        ⟨call.index, saturatingAdd call.index 1, call.id, call.function⟩) v :=
    takes_forEach hcall _
  have hfunction : Takes (receiveFunctionCall setup choice.delta.functionCall) fun v =>
      choice.delta.functionCall.toList.foldlM (fun v function => v.fragment setup
        ⟨functionCallKey, 1, none, some function⟩) v := by
    cases choice.delta.functionCall with
    | none => exact fun s => .ok rfl (kept_nil _)
    | some function =>
      simp only [Option.toList_some, List.foldlM_cons, List.foldlM_nil, bind_pure]
      exact takes_fragment ⟨functionCallKey, 1, none, some function⟩
  simp only [OpenAiStreamChoice.fragments, List.foldlM_append, List.foldlM_map]
  exact hcalls.bind hfunction

/-- **A choice is taken in.** -/
lemma takes_choice (setup : AnthropicSetup) (choice : OpenAiStreamChoice) :
    Takes (receiveChoice setup choice) (·.choice setup choice) := by
  rintro ⟨v, l⟩
  obtain ⟨items, s', hcont, hvars, hkept⟩ := receiveContent_run setup
    choice.delta.content ⟨choice.finishReason.elim v (noteFinishReason · v), l⟩
  have hnote : setVars (fun v => choice.finishReason.elim v (noteFinishReason · v)) ⟨v, l⟩ =
      ⟨[], ⟨choice.finishReason.elim v (noteFinishReason · v), l⟩, .ok ()⟩ := rfl
  refine .after hnote (kept_nil _) (.after hcont hkept ?_)
  show TakesAt _ _ (v.choice setup choice)
  rw [MessageVars.choice, ← hvars]
  split_ifs with hgo
  · exact takes_fragments choice s'
  · exact .ok rfl (kept_nil _)

end

/-! ### The loop over the lines -/

section

variable {h : Heard}

/-- How the loop ends, if this was heard. -/
def Reads (h : Heard) (o : Outcome (Running MessageVars) SseEvent Leave Unit) : Prop :=
  match h.stop with
  | .refused => (∃ error, o.result = .error (.failed error)) ∧ Plain .anthropicMessages o.items ∧
      o.state.lifecycle.state = .pending
  | .failed => o.result = .error .returned ∧ ∃ before event, o.items = before ++ [event] ∧
      Plain .anthropicMessages before ∧
      Ends .anthropicMessages false event o.state.lifecycle
  | .ended => (o.result = .ok () ∨ o.result = .error .broke) ∧ Plain .anthropicMessages o.items ∧
      o.state.vars = h.vars ∧ o.state.lifecycle.state = .pending

lemma Reads.after {o : Outcome (Running MessageVars) SseEvent Leave Unit} (h' : Reads h o)
    (hplain : Plain .anthropicMessages items) : Reads h ⟨items ++ o.items, o.state, o.result⟩ := by
  rw [Reads] at h' ⊢
  cases hstop : h.stop with
  | failed =>
    rw [hstop] at h'
    obtain ⟨hres, before, event, hitems, hplain', hends⟩ := h'
    exact ⟨hres, items ++ before, event, by rw [hitems, List.append_assoc],
      hplain.append hplain', hends⟩
  | refused | ended =>
    rw [hstop] at h'
    exact ⟨h'.1, hplain.append h'.2.1, h'.2.2⟩

lemma returns_failAnthropic (error : AppError) (hs : s.lifecycle.state = .pending) :
    Returns .anthropicMessages (Ends .anthropicMessages false) (failAnthropic error) s :=
  returns_failed rfl rfl hs

lemma startMessage_run (setup : AnthropicSetup) (s : Running MessageVars) :
    ∃ items, Plain .anthropicMessages items ∧ startMessage setup s =
      ⟨items, ⟨{ s.vars with messageStarted := true }, s.lifecycle⟩, .ok ()⟩ := by
  obtain ⟨⟨started, index, text, seen, tools, reason, upstream, done, saw⟩, l⟩ := s
  cases started with
  | true => exact ⟨[], plain_nil, rfl⟩
  | false => exact ⟨_, plain_cons rfl rfl plain_nil, rfl⟩

lemma reportChunkUsage_run (chunk : OpenAiStreamChunk) (s : Running MessageVars) :
    ∃ l, reportChunkUsage chunk s = ⟨[], ⟨s.vars, l⟩, .ok ()⟩ ∧ l.state = s.lifecycle.state := by
  rw [reportChunkUsage]
  cases chunk.usage with
  | none => exact ⟨s.lifecycle, rfl, rfl⟩
  | some usage => exact ⟨_, rfl, Lifecycle.state_mergeReported _ _ _⟩

/-- **A chunk is taken in**, and may end the reading. -/
lemma receiveChunk_run (setup : AnthropicSetup) (chunk : OpenAiStreamChunk)
    (s : Running MessageVars) :
    ∃ items s', Plain .anthropicMessages items ∧
      s'.lifecycle.state = s.lifecycle.state ∧ match s.vars.chunk setup chunk with
      | .error error => receiveChunk setup chunk s = ⟨items, s', .error (.failed error)⟩
      | .ok v => s'.vars = v ∧ receiveChunk setup chunk s =
          ⟨items, s', if v.streamDone then .error .broke else .ok ()⟩ := by
  obtain ⟨l, hreport, hstate⟩ := reportChunkUsage_run chunk s
  obtain ⟨items, hplain, hstart⟩ := startMessage_run setup ⟨s.vars, l⟩
  have hchoices := takes_forEach (takes_choice setup) chunk.choices
    ⟨{ s.vars with messageStarted := true }, l⟩
  have hrun : receiveChunk setup chunk s = _ := bind_of_ok hreport
  rw [bind_of_ok hstart] at hrun
  change TakesAt _ _ (s.vars.chunk setup chunk) at hchoices
  generalize s.vars.chunk setup chunk = result at hchoices
  cases hchoices with
  | error hrun' hkept =>
    rw [bind_of_error hrun'] at hrun
    exact ⟨_, _, hplain.append hkept.plain, hkept.state.trans hstate, hrun⟩
  | @ok items' s' hrun' hkept =>
    have hleave : leaveIfDone s' =
        ⟨[], s', if s'.vars.streamDone then .error .broke else .ok ()⟩ := by
      simp only [leaveIfDone, vars, get_bind, pure_bind, bind_assoc]
      split_ifs <;> rfl
    rw [bind_of_ok hrun', hleave] at hrun
    exact ⟨_, s', hplain.append (hkept.plain.append plain_nil), hkept.state.trans hstate, rfl, hrun⟩

/-- **The loop over the lines takes in what is heard.** -/
lemma reads_inputs (inputs : List Input) (hs : s.lifecycle.state = .pending) :
    Reads (hear setup s.vars inputs)
      (forEach (onInput messageFailure fun _ => messageLine setup) inputs s) := by
  induction inputs generalizing s with
  | nil => exact ⟨.inl rfl, plain_nil, rfl, hs⟩
  | cons x inputs ih =>
    have hfail : ∀ error, onInput messageFailure (fun _ => messageLine setup) x s =
        failAnthropic error s → Reads ⟨s.vars, .failed⟩
          (forEach (onInput messageFailure fun _ => messageLine setup) (x :: inputs) s) := by
      intro error hrun
      obtain ⟨before, event, s', hfail, hends⟩ := returns_failAnthropic error hs
      rw [forEach, bind_of_error (hrun.trans hfail)]
      exact ⟨rfl, before, event, rfl, hends⟩
    cases x with
    | failure error =>
      rw [hear]
      split_ifs with hsaw
      · have hrun : messageFailure error s = ⟨[], s, .error .broke⟩ := by
          simp [messageFailure, vars, hsaw]
        rw [forEach, onInput, bind_of_error hrun]
        exact ⟨.inr rfl, plain_nil, rfl, hs⟩
      · exact hfail error (by simp [onInput, messageFailure, vars, hsaw])
    | line frame data =>
      rw [hear]
      split_ifs with hdone
      · obtain ⟨items, hplain, hstart⟩ := startMessage_run setup s
        have hrun : messageLine setup data s = ⟨items ++ [], ⟨{ s.vars with
            messageStarted := true, streamDone := true }, s.lifecycle⟩, .error .broke⟩ := by
          rw [messageLine, if_pos hdone, bind_of_ok hstart]
          rfl
        rw [forEach, onInput, bind_of_error hrun]
        exact ⟨.inr rfl, hplain.append plain_nil, rfl, hs⟩
      · cases hchunk : setup.serde.readChunk data with
        | error error => exact hfail _ (by rw [onInput, messageLine, if_neg hdone, hchunk])
        | ok chunk =>
          obtain ⟨items, s', hplain, hstate, hrun⟩ := receiveChunk_run setup chunk s
          have hs' := hstate.trans hs
          have hline : messageLine setup data s = receiveChunk setup chunk s := by
            rw [messageLine, if_neg hdone, hchunk]
          dsimp only
          cases hres : s.vars.chunk setup chunk with
          | error error =>
            rw [hres] at hrun
            rw [forEach, onInput, bind_of_error (hline.trans hrun)]
            exact ⟨⟨error, rfl⟩, hplain, hs'⟩
          | ok v =>
            rw [hres] at hrun
            obtain ⟨rfl, hrun⟩ := hrun
            dsimp only
            split_ifs with hend
            · rw [if_pos hend] at hrun
              rw [forEach, onInput, bind_of_error (hline.trans hrun)]
              exact ⟨.inr rfl, hplain, rfl, hs'⟩
            · rw [if_neg hend] at hrun
              rw [forEach, onInput, bind_of_ok (hline.trans hrun)]
              exact (ih hs').after hplain

/-! ### The end of the message -/

lemma validName_of_validateEach {policy : ToolResponsePolicy} {serde : Serde} {deduplicate : Bool}
    {tools : OrdMap ToolState} {ids : List String}
    (hvalid : validateTools.validateEach policy serde deduplicate ids tools = .ok ()) :
    ∀ entry ∈ tools, ∃ name, policy.validateName entry.2.name = .ok name := by
  induction tools generalizing ids with
  | nil => exact nofun
  | cons head tools ih =>
    obtain ⟨name, hname, hvalid⟩ := Except.bind_eq_ok.1 hvalid
    obtain ⟨ids', -, hvalid⟩ := Except.bind_eq_ok.1 hvalid
    obtain ⟨_, -, hrest⟩ := Except.bind_eq_ok.1 hvalid
    rintro entry (_ | ⟨_, hentry⟩)
    · exact ⟨name, hname⟩
    · exact ih hrest entry hentry

lemma quiet_closeTool {entry : ℕ × ToolState}
    (hname : setup.toolPolicy.validateName entry.2.name = .ok name) :
    Quiet .anthropicMessages (closeTool setup entry) := by
  have hstart : Quiet .anthropicMessages (startToolState setup entry.1 entry.2) := by
    rw [startToolState, hname]
    exact (quiet_setVars _).bind fun _ => (quiet_pure name).bind fun _ =>
      (quiet_yield rfl rfl).bind fun _ => quiet_pure _
  have hpend : ∀ tool, Quiet .anthropicMessages (yieldPendingArguments setup entry.1 tool) :=
    fun _ => .ite (quiet_pure _)
      ((quiet_setVars _).bind fun _ => (quiet_yield rfl rfl).bind fun _ => quiet_pure _)
  have hfinal : ∀ tool, Quiet .anthropicMessages (yieldFinalArguments setup entry.1 tool) := by
    intro tool
    rw [yieldFinalArguments]
    split
    · exact quiet_yield rfl rfl
    · exact (hpend _).bind fun _ => quiet_pure _
  exact .bind (.ite hstart (quiet_pure _)) fun tool =>
    Quiet.ite ((hfinal tool).bind fun _ => quiet_yield rfl rfl) (quiet_pure _)

/-- The last event says whether the message is complete. -/
def Tells (setup : AnthropicSetup) (h : Heard)
    (o : Outcome (Running MessageVars) SseEvent Leave Unit) : Prop :=
  ∃ before event, o.items = before ++ [event] ∧ (o.result = .ok () ∨ o.result = .error .returned) ∧
    Plain .anthropicMessages before ∧
    Ends .anthropicMessages (h.completes setup) event o.state.lifecycle

lemma closeMessage_tells (hs : s.lifecycle.state = .pending) (hcomp : h.completes setup)
    (hvalid : validateTools setup.toolPolicy setup.serde setup.deduplicateToolArguments
      s.vars.upstreamFinishReason s.vars.tools = .ok ()) :
    Tells setup h (closeMessage setup s) := by
  obtain ⟨_, heach, -⟩ := Except.bind_eq_ok.1 hvalid
  have htools : Quiet .anthropicMessages (forEach (closeTool setup) s.vars.tools) := by
    refine .forEach fun entry hentry => ?_
    obtain ⟨name, hname⟩ := validName_of_validateEach heach entry hentry
    exact quiet_closeTool hname
  have htext : Quiet .anthropicMessages (closeText s.vars.textIndex) := by
    cases s.vars.textIndex with
    | none => exact quiet_pure ()
    | some index => exact quiet_yield rfl rfl
  have hquiet : Quiet .anthropicMessages (closeText s.vars.textIndex >>= fun _ =>
      forEach (closeTool setup) s.vars.tools >>= fun _ =>
        (yield (messageDeltaEvent s.vars.finishReason 0) : Translator MessageVars Unit)) :=
    htext.bind fun _ => htools.bind fun _ => quiet_yield rfl rfl
  obtain ⟨items, s', _, hrun, hplain, hstate⟩ := hquiet
    ⟨s.vars, (s.lifecycle.observeResponseFragment s.vars.tools.length
      (s.vars.textSeen ≠ "")).markCompleted⟩
  have hlast := bind_of_ok (f := fun _ => (yield messageStopEvent : Translator MessageVars Unit))
    hrun
  simp only [bind_assoc] at hlast
  have hclose : closeMessage setup s = ⟨items ++ [messageStopEvent], s', .ok ()⟩ := hlast
  rw [hclose]
  refine ⟨items, messageStopEvent, rfl, .inl rfl, hplain, ?_, ?_, ?_⟩
  · rw [if_pos hcomp, hstate]
    exact Lifecycle.state_markCompleted hs
  all_goals
    rw [hcomp]
    rfl

lemma messageEnd_tells (setup : AnthropicSetup) (hvars : s.vars = h.vars) (hstop : h.stop = .ended)
    (hs : s.lifecycle.state = .pending) : Tells setup h (messageEnd setup s) := by
  have hfail : ∀ error, h.completes setup = false → Tells setup h (failAnthropic error s) := by
    intro error hcomp
    obtain ⟨before, event, s', hrun, hplain, hends⟩ := returns_failAnthropic error hs
    rw [hrun]
    exact ⟨before, event, rfl, .inr rfl, hplain, hcomp ▸ hends⟩
  have hcomp : h.completes setup =
      ((s.vars.streamDone || s.vars.sawFinishReason) && s.vars.messageStarted &&
        match validateTools setup.toolPolicy setup.serde setup.deduplicateToolArguments
          s.vars.upstreamFinishReason s.vars.tools with
        | .ok () => true
        | .error _ => false) := by
    rw [Heard.completes, Heard.finished, hstop, hvars]
    rfl
  simp only [messageEnd, vars, bind_assoc, get_bind, pure_bind, ← Bool.not_or]
  cases hended : s.vars.streamDone || s.vars.sawFinishReason with
  | false => exact hfail _ (by rw [hcomp, hended]; rfl)
  | true =>
    cases hstarted : s.vars.messageStarted with
    | false => exact hfail _ (by rw [hcomp, hended, hstarted]; rfl)
    | true =>
      rw [hended, hstarted] at hcomp
      cases hvalid : validateTools setup.toolPolicy setup.serde setup.deduplicateToolArguments
          s.vars.upstreamFinishReason s.vars.tools with
      | error error => exact hfail _ (by rw [hcomp, hvalid]; rfl)
      | ok _ =>
        rw [hvalid] at hcomp
        exact closeMessage_tells hs hcomp hvalid

/-- **How the translation of an OpenAI stream ends**, with what was heard. -/
inductive MessageEnding (setup : AnthropicSetup) (h : Heard) (t : Translation) : Prop
  | refused {before : List SseEvent} {error : AppError} (hstop : h.stop = .refused)
      (houtp : t.output = before.map .ok ++ [.error error])
      (hplain : Plain .anthropicMessages before) (hpend : t.lifecycle.state = .pending)
  | told {before : List SseEvent} {event : SseEvent} (hstop : h.stop ≠ .refused)
      (houtp : t.output = before.map .ok ++ [.ok event]) (hplain : Plain .anthropicMessages before)
      (hends : Ends .anthropicMessages (h.completes setup) event t.lifecycle)

lemma ending_of_tells (hstop : h.stop ≠ .refused)
    (htells : Tells setup h (x ⟨{}, {}⟩)) : MessageEnding setup h (translate x {}) := by
  obtain ⟨before, event, hitems, hres, hplain, hends⟩ := htells
  refine .told hstop ?_ hplain hends
  rcases hres with hres | hres <;> simp [translate, hitems, hres]

/-- **The translation of an OpenAI stream ends as what was heard says.** -/
theorem message_ends (setup : AnthropicSetup) (frames : Upstream) :
    MessageEnding setup (hear setup {} frames.inputs)
      (translate (openaiStreamToAnthropic setup frames) {}) := by
  have hloop : Reads (hear setup {} frames.inputs) (forEachLine messageFailure
      (fun _ => messageLine setup) frames ⟨{}, {}⟩) := by
    rw [forEachLine_eq]
    exact reads_inputs (s := ⟨{}, {}⟩) frames.inputs rfl
  generalize hear setup {} frames.inputs = h at hloop ⊢
  rcases hx : forEachLine messageFailure (fun _ => messageLine setup) frames ⟨{}, {}⟩ with
    ⟨items, s, result⟩
  rw [hx, Reads] at hloop
  cases hstop : h.stop with
  | refused =>
    simp only [hstop] at hloop
    obtain ⟨⟨error, rfl⟩, hplain, hs⟩ := hloop
    have hrun : openaiStreamToAnthropic setup frames ⟨{}, {}⟩ = _ :=
      bind_of_error (show afterBreak _ _ = ⟨items, s, .error (.failed error)⟩ by
        rw [afterBreak, hx])
    have houtp : (translate (openaiStreamToAnthropic setup frames) {}).output =
        items.map .ok ++ [.error error] := by simp [translate, hrun]
    exact .refused hstop houtp hplain (by simp [translate, hrun, hs])
  | failed =>
    simp only [hstop] at hloop
    obtain ⟨rfl, before, event, rfl, hplain, hends⟩ := hloop
    have hrun : openaiStreamToAnthropic setup frames ⟨{}, {}⟩ = _ :=
      bind_of_error (show afterBreak _ _ = ⟨before ++ [event], s, .error .returned⟩ by
        rw [afterBreak, hx])
    refine ending_of_tells (by simp [hstop]) ?_
    rw [hrun]
    have hcomp : h.completes setup = false := by rw [Heard.completes, Heard.finished, hstop]; rfl
    exact ⟨before, event, rfl, .inr rfl, hplain, hcomp ▸ hends⟩
  | ended =>
    simp only [hstop] at hloop
    obtain ⟨hres, hplain, hvars, hs⟩ := hloop
    obtain ⟨before, event, hitems, hend, hplain', hends⟩ := messageEnd_tells setup hvars hstop hs
    have hrun : openaiStreamToAnthropic setup frames ⟨{}, {}⟩ = _ :=
      bind_of_ok (show afterBreak _ _ = ⟨items, s, .ok ()⟩ by
        rw [afterBreak, hx]
        rcases hres with rfl | rfl <;> rfl)
    refine ending_of_tells (by simp [hstop]) ?_
    rw [hrun]
    exact ⟨items ++ before, event, by rw [hitems, List.append_assoc], hend,
      hplain.append hplain', hends⟩

end

end ModelPort.Stream

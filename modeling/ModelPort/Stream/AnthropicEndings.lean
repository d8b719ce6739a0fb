import ModelPort.Stream.AnthropicStream
import ModelPort.Stream.ClientEndings

/-!
# The endings of streams passed on to Anthropic clients

The pass-through of Anthropic streams does not look at what it passes on, except for the end of
the message and for repeated text. The first line that ends the message completes the stream
(`firstEnd`); it is the last that is passed on, unless nothing is left of it. Without such a line
an error event is added (`normalize_ends`).
-/

namespace ModelPort.Stream

open Generator Generator.Gen Gateway Translator List

/-! ### The end of the message in the lines -/

/-- What is left of an event, and the open blocks after it. -/
def Blocks.passed (dedup : Bool) (data : Json) (b : Blocks) : Option Json × Blocks :=
  let left := (b.opened data).deduplicate dedup data
  (left.1, left.1.elim left.2 left.2.closed)

/-- The first line that ends the message, if it comes before an error in a frame's place, with what
is left of it. -/
def firstEnd (serde : Serde) (dedup : Bool) (b : Blocks) :
    List Input → Option (SseFrame × Option Json)
  | [] => none
  | .failure _ :: _ => none
  | .line frame data :: rest =>
    match (Input.line frame data).value serde with
    | none => firstEnd serde dedup b rest
    | some event =>
      let left := b.passed dedup event
      if endsMessage frame event then some (frame, left.1)
      else firstEnd serde dedup left.2 rest

/-- Something is left of the line, and passed on as `message_stop`. -/
def passedAsStop (line : SseFrame × Option Json) : Bool :=
  line.2.any (passedName line.1 · = "message_stop")

/-- A line that is named or typed `message_stop`. -/
def Input.isMessageStop (serde : Serde) : Input → Bool
  | .failure _ => false
  | .line frame data => frame.event = some "message_stop" ||
      ((Input.line frame data).value serde).any (·.getString "type" = some "message_stop")

/-- The lines after which an Anthropic stream is decided: an error in a frame's place, and what is
named or typed `message_stop`. -/
def normalizeStops (serde : Serde) : Input → Bool
  | .failure _ => true
  | x => x.isMessageStop serde

/-! ### The translator follows -/

section

variable {b : Blocks} {ended : Bool} {s : Running NormalizeVars}

/-- The state of the translator after some lines. -/
structure Tracks (b : Blocks) (ended : Bool) (s : Running NormalizeVars) : Prop where
  blocks : s.vars.blocks = b
  stop : s.vars.sawMessageStop = ended
  event : ended → s.vars.sawEvent
  state : s.lifecycle.state = if ended then .completed else .pending

/-- Yields nothing and leads from `R` to `R'`. -/
def Leads {σ : Type} (R R' : Running σ → Prop) (x : Translator σ Unit) : Prop :=
  ∀ s, R s → ∃ s', x s = ⟨[], s', .ok ()⟩ ∧ R' s'

lemma Leads.bind {σ : Type} {R R' R'' : Running σ → Prop} {x : Translator σ Unit}
    {f : Unit → Translator σ Unit} (hx : Leads R R' x) (hf : Leads R' R'' (f ())) :
    Leads R R'' (x >>= f) := by
  intro s hs
  obtain ⟨s', heq, hs'⟩ := hx s hs
  obtain ⟨s'', heq', hs''⟩ := hf s' hs'
  exact ⟨s'', by rw [bind_of_ok heq, heq']; rfl, hs''⟩

lemma leads_count {c : Prop} [Decidable c] {f : NormalizeVars → NormalizeVars}
    {g : NormalizeVars → Lifecycle → Lifecycle}
    (hf : ∀ v, (f v).blocks = v.blocks ∧ (f v).sawEvent = v.sawEvent ∧
      (f v).sawMessageStop = v.sawMessageStop)
    (hg : ∀ v l, (g v l).state = l.state) :
    Leads (Tracks b ended) (Tracks b ended)
      (if c then do
        setVars f
        let s ← vars
        report (g s)
      else pure ()) := by
  intro s hs
  split_ifs
  · obtain ⟨hblocks, hevent, hstop⟩ := hf s.vars
    exact ⟨⟨f s.vars, g (f s.vars) s.lifecycle⟩, rfl, hblocks.trans hs.blocks, hstop.trans hs.stop,
      fun h => hevent.trans (hs.event h), (hg _ _).trans hs.state⟩
  · exact ⟨s, rfl, hs⟩

lemma leads_noteMessageDelta (data : Json) :
    Leads (Tracks b ended) (Tracks b ended) (noteMessageDelta data) := by
  intro s hs
  rw [noteMessageDelta]
  split_ifs
  · exact ⟨_, rfl, ⟨hs.blocks, hs.stop, hs.event, hs.state⟩⟩
  · exact ⟨s, rfl, hs⟩

lemma leads_noteBlockStart (data : Json) :
    Leads (Tracks b ended) (Tracks (b.opened data) ended) (noteBlockStart data) := by
  have hopen : Leads (Tracks b ended) (Tracks (b.opened data) ended)
      (setVars fun s => { s with blocks := s.blocks.opened data }) := fun s hs =>
    ⟨_, rfl, ⟨congrArg (Blocks.opened data) hs.blocks, hs.stop, hs.event, hs.state⟩⟩
  exact hopen.bind (leads_count (fun _ => ⟨rfl, rfl, rfl⟩) fun _ _ => rfl)

variable {serde : Serde} {dedup : Bool} (frame : SseFrame)

/-- The end of the message, if the event is one. -/
lemma leads_noteMessageStop (data : Json) :
    Leads (fun s => Tracks b ended s ∧ s.vars.sawEvent)
      (Tracks b (ended || endsMessage frame data)) (noteMessageStop frame data) := by
  intro s hs
  rw [noteMessageStop]
  split_ifs with hends
  · refine ⟨_, rfl, ⟨hs.1.blocks, by rw [hends, Bool.or_true]; rfl, fun _ => hs.2, ?_⟩⟩
    rw [hends, Bool.or_true]
    show s.lifecycle.markCompleted.state = _
    have hstate := hs.1.state
    cases ended with
    | true =>
      rw [Lifecycle.markCompleted, if_neg (by rw [hstate]; decide)]
      exact hstate
    | false => exact Lifecycle.state_markCompleted hstate
  · rw [Bool.not_eq_true] at hends
    rw [hends, Bool.or_false]
    exact ⟨s, rfl, hs.1⟩

lemma leads_notes (data : Json) :
    Leads (Tracks b ended) (Tracks (b.opened data) (ended || endsMessage frame data))
      (do
        report (·.mergeReported (anthropicEventUsage data) none)
        setVars fun s => { s with sawEvent := true }
        noteMessageStop frame data
        noteBlockStart data
        noteText data
        noteMessageDelta data) := by
  have husage : Leads (Tracks b ended) (Tracks b ended)
      (report (·.mergeReported (anthropicEventUsage data) none)) := fun s hs =>
    ⟨_, rfl, ⟨hs.blocks, hs.stop, hs.event, (Lifecycle.state_mergeReported _ _ _).trans hs.state⟩⟩
  have hevent : Leads (Tracks b ended) (fun s => Tracks b ended s ∧ s.vars.sawEvent)
      (setVars fun s => { s with sawEvent := true }) := fun s hs =>
    ⟨_, rfl, ⟨hs.blocks, hs.stop, fun _ => rfl, hs.state⟩, rfl⟩
  have htext : Leads (Tracks (b.opened data) (ended || endsMessage frame data)) _ (noteText data) :=
    leads_count (fun _ => ⟨rfl, rfl, rfl⟩) fun _ _ => rfl
  exact husage.bind (hevent.bind ((leads_noteMessageStop frame data).bind
    ((leads_noteBlockStart data).bind (htext.bind (leads_noteMessageDelta data)))))

abbrev normalizeInput (serde : Serde) (dedup : Bool) : Input → Translator NormalizeVars Unit :=
  onInput normalizeFailure (normalizeLine serde dedup)

/-- An event that is passed on. -/
def passedEvent (data : Json) : SseEvent :=
  eventWithMetadata frame (some (passedName frame data)) (.json data)

/-- **An event is passed on**, as far as something is left of it; it is the last if the message has
ended. -/
lemma normalizeEvent_run (dedup : Bool) (data : Json) (hs : Tracks b ended s) :
    ∃ s', normalizeEvent dedup frame data s =
        ⟨((b.passed dedup data).1.map (passedEvent frame)).toList, s',
          if (b.passed dedup data).1.isSome && (ended || endsMessage frame data)
          then .error .returned else .ok ()⟩ ∧
      Tracks (b.passed dedup data).2 (ended || endsMessage frame data) s' := by
  obtain ⟨s', heq, hs'⟩ := leads_notes frame data s hs
  have hevent : normalizeEvent dedup frame data s =
      passIfLeft frame ((b.opened data).deduplicate dedup data).1
        ⟨{ s'.vars with blocks := ((b.opened data).deduplicate dedup data).2 },
          s'.lifecycle⟩ := by
    have hassoc := bind_of_ok heq (f := fun _ =>
      deduplicateText dedup data >>= passIfLeft frame)
    simp only [bind_assoc] at hassoc
    refine Eq.trans hassoc ?_
    simp [deduplicateText, vars, setVars, hs'.blocks]
  have hstop := hs'.stop
  rw [hevent, Blocks.passed]
  cases ((b.opened data).deduplicate dedup data).1 with
  | none => exact ⟨_, rfl, rfl, hs'.stop, hs'.event, hs'.state⟩
  | some left =>
    refine ⟨⟨{ s'.vars with blocks := _ }, s'.lifecycle⟩, ?_, rfl, hs'.stop, hs'.event, hs'.state⟩
    cases hended : ended || endsMessage frame data <;>
      simp [passIfLeft, passEvent, passedEvent, setVars, vars, hstop, hended]

/-- A line that is no event is passed on as it is. -/
lemma normalizeLine_text (dedup : Bool) {line : String}
    (hvalue : (Input.line frame line).value serde = none)
    (hs : Tracks b ended s) :
    ∃ s', normalizeLine serde dedup frame line s =
        ⟨[eventWithMetadata frame (some (frame.event.getD "message")) (.text line)], s', .ok ()⟩ ∧
      Tracks b ended s' := by
  cases reading_of serde (.line frame line) with
  | done => exact ⟨s, rfl, hs⟩
  | text hdone hread =>
    rw [normalizeLine, if_neg hdone, hread]
    exact ⟨_, rfl, hs.blocks, hs.stop, fun _ => rfl, hs.state⟩
  | json hdone hread hsome => cases hsome.symm.trans hvalue

lemma normalizeLine_event {line : String} {data : Json}
    (hvalue : (Input.line frame line).value serde = some data) :
    normalizeLine serde dedup frame line =
      normalizeEvent dedup frame data := by
  cases reading_of serde (.line frame line) with
  | done => cases hvalue
  | text hdone hread hnone => cases hnone.symm.trans hvalue
  | json hdone hread hsome =>
    cases hsome.symm.trans hvalue
    rw [normalizeLine, if_neg hdone, hread]

/-! ### The loop over the lines -/

/-- The lines are read, and the end is checked. -/
abbrev normalizeInputs (serde : Serde) (dedup : Bool) (inputs : List Input) :
    Translator NormalizeVars Unit :=
  forEach (normalizeInput serde dedup) inputs >>= fun _ => normalizeEnd

variable {o : Outcome (Running NormalizeVars) SseEvent Leave Unit}

/-- The translator is not left by an error. -/
def Settles (o : Outcome (Running NormalizeVars) SseEvent Leave Unit) : Prop :=
  o.result = .ok () ∨ o.result = .error .returned

/-- **Once the message has ended the stream stays complete**, whatever lines follow. -/
lemma completes_of_ended (serde : Serde) (dedup : Bool) (inputs : List Input)
    (hs : Tracks b true s) :
    (normalizeInputs serde dedup inputs s).state.lifecycle.state = .completed ∧
      Settles (normalizeInputs serde dedup inputs s) := by
  have hstate := hs.state
  induction inputs generalizing b s with
  | nil =>
    have hrun : normalizeEnd s = ⟨[], s, .ok ()⟩ := by
      simp [normalizeEnd, vars, hs.stop, hs.event rfl]
    rw [normalizeInputs, forEach, pure_bind, hrun]
    exact ⟨hstate, .inl rfl⟩
  | cons x rest ih =>
    rw [normalizeInputs, forEach, bind_assoc]
    cases x with
    | failure error =>
      have hrun : normalizeFailure error s = ⟨[], s, .error .returned⟩ := by
        simp [normalizeFailure, vars, hs.stop]
      rw [normalizeInput, onInput, bind_of_error hrun]
      exact ⟨hstate, .inr rfl⟩
    | line frame line =>
      simp only [normalizeInput, onInput]
      cases hvalue : (Input.line frame line).value serde with
      | none =>
        obtain ⟨s', hrun, hs'⟩ := normalizeLine_text frame dedup hvalue hs
        rw [bind_of_ok hrun]
        exact ih hs' hs'.state
      | some data =>
        obtain ⟨s', hrun, hs'⟩ := normalizeEvent_run frame dedup data hs
        rw [normalizeLine_event frame hvalue]
        split_ifs at hrun with hlast
        · rw [bind_of_error hrun]
          exact ⟨hs'.state, .inr rfl⟩
        · rw [bind_of_ok hrun]
          exact ih hs' hs'.state

/-- **How the pass-through ends**, from the lines. -/
inductive NormalizeEnding (serde : Serde) (dedup : Bool) (b : Blocks)
    (inputs : List Input) (o : Outcome (Running NormalizeVars) SseEvent Leave Unit) : Prop
  /-- by the first line that ends the message -/
  | completed {line : SseFrame × Option Json}
      (hend : firstEnd serde dedup b inputs = some line)
      (hstop : (inputs.find? (normalizeStops serde)).any (·.isMessageStop serde))
      (hstate : o.state.lifecycle.state = .completed)
      (hlast : ∀ data ∈ line.2, ∃ before, o.items = before ++ [passedEvent line.1 data])
  /-- with an error event -/
  | failed {before : List SseEvent} {error : AppError} {message : String}
      (hend : firstEnd serde dedup b inputs = none)
      (hitems : o.items = before ++ [anthropicErrorEvent error])
      (hnames : (∃ event ∈ before, event.event = some "message_stop") ↔
        (inputs.find? (normalizeStops serde)).any (·.isMessageStop serde))
      (hstate : o.state.lifecycle.state = .failed message)

/-- The error event is added if the message has not ended. -/
lemma ending_fail {inputs : List Input} {error : AppError} (hs : Tracks b false s)
    (hend : firstEnd serde dedup b inputs = none)
    (hstop : (inputs.find? (normalizeStops serde)).any (·.isMessageStop serde) = false) :
    NormalizeEnding serde dedup b inputs (failAnthropic error s) ∧
      Settles (failAnthropic error s) := by
  have hrun : failAnthropic error s = ⟨[anthropicErrorEvent error],
      ⟨s.vars, s.lifecycle.markFailed error.display⟩, .error .returned⟩ := by
    simp [failAnthropic, fail, report]
  rw [hrun]
  refine ⟨.failed hend (List.nil_append _).symm ?_
    (Lifecycle.state_markFailed hs.state _), .inr rfl⟩
  simp [hstop]

/-- A line is passed on that does not end the message. -/
lemma NormalizeEnding.cons {b' : Blocks} {x : Input} {rest : List Input} {items : List SseEvent}
    (h : NormalizeEnding serde dedup b' rest o)
    (hend : firstEnd serde dedup b (x :: rest) =
      firstEnd serde dedup b' rest)
    (hstops : normalizeStops serde x = x.isMessageStop serde)
    (hnames : (∃ event ∈ items, event.event = some "message_stop") ↔
      x.isMessageStop serde) :
    NormalizeEnding serde dedup b (x :: rest)
      ⟨items ++ o.items, o.state, o.result⟩ := by
  have hfind : ((x :: rest).find? (normalizeStops serde)).any (·.isMessageStop serde) =
      (x.isMessageStop serde ||
        (rest.find? (normalizeStops serde)).any (·.isMessageStop serde)) := by
    cases hx : x.isMessageStop serde <;> simp [hstops, hx]
  cases h with
  | completed hend' hstop hstate hlast =>
    refine .completed (hend.trans hend') (by rw [hfind, hstop, Bool.or_true]) hstate ?_
    intro data hdata
    obtain ⟨before, hitems⟩ := hlast data hdata
    exact ⟨items ++ before, by rw [hitems, append_assoc]⟩
  | failed hend' hitems hnames' hstate =>
    refine .failed (hend.trans hend') (by rw [hitems, append_assoc]) ?_ hstate
    rw [hfind, Bool.or_eq_true, ← hnames, ← hnames']
    simp only [mem_append, or_and_right, exists_or]

lemma getString_withText (data : Json) (text : String) :
    (withText data text).getString "type" = data.getString "type" := by
  rw [withText, Json.getString, Json.get_replace_ne (by decide), Json.getString]

/-- What is left of an event has its type. -/
lemma getString_passed {data left : Json}
    (h : (b.passed dedup data).1 = some left) :
    left.getString "type" = data.getString "type" := by
  simp only [Blocks.passed, Blocks.deduplicate] at h
  split at h
  · cases h
    rfl
  · split_ifs at h
    cases h
    exact getString_withText _ _

lemma passedName_ne {data left : Json} (hends : endsMessage frame data = false)
    (htype : left.getString "type" = data.getString "type") :
    passedName frame left ≠ "message_stop" := by
  rw [endsMessage, Bool.or_eq_false_iff, decide_eq_false_iff_not, decide_eq_false_iff_not] at hends
  rw [passedName, htype]
  cases hframe : frame.event with
  | some name => simpa [hframe] using hends.2
  | none =>
    cases hdata : data.getString "type" with
    | none => simp
    | some type => simpa [hdata] using hends.1

lemma isMessageStop_event {line : String} {data : Json}
    (hvalue : (Input.line frame line).value serde = some data) :
    (Input.line frame line).isMessageStop serde = endsMessage frame data := by
  rw [Input.isMessageStop, hvalue, endsMessage, Option.any_some, Bool.or_comm]

/-- The line that ends the message. -/
lemma ending_stop {line : String} {data : Json} (rest : List Input)
    (hvalue : (Input.line frame line).value serde = some data)
    (hends : endsMessage frame data) (hs : Tracks b false s) :
    NormalizeEnding serde dedup b (.line frame line :: rest)
        ((normalizeEvent dedup frame data >>= fun _ =>
          normalizeInputs serde dedup rest) s) ∧
      Settles ((normalizeEvent dedup frame data >>= fun _ =>
          normalizeInputs serde dedup rest) s) := by
  obtain ⟨s', hrun, hs'⟩ := normalizeEvent_run frame dedup data hs
  rw [hends] at hs'
  rw [hends, Bool.false_or, Bool.and_true] at hrun
  have hstop := (isMessageStop_event frame hvalue).trans hends
  have hfind : ((Input.line frame line :: rest).find? (normalizeStops serde)).any
      (·.isMessageStop serde) := by
    rw [find?_cons_of_pos (show normalizeStops serde (.line frame line) = true from hstop)]
    exact hstop
  have hend : firstEnd serde dedup b (.line frame line :: rest) =
      some (frame, (b.passed dedup data).1) := by
    rw [firstEnd, hvalue]
    exact if_pos hends
  cases hleft : (b.passed dedup data).1 with
  | none =>
    rw [hleft] at hrun hend
    obtain ⟨hstate, hset⟩ := completes_of_ended serde dedup rest hs'
    rw [bind_of_ok hrun]
    exact ⟨.completed hend hfind hstate nofun, hset⟩
  | some left =>
    rw [hleft] at hrun hend
    rw [bind_of_error hrun]
    refine ⟨.completed hend hfind hs'.state ?_, .inr rfl⟩
    rintro _ ⟨⟩
    exact ⟨[], rfl⟩

/-- **The translator ends as the lines say.** -/
lemma normalizeInputs_ends (serde : Serde) (dedup : Bool) (inputs : List Input)
    (hs : Tracks b false s) :
    NormalizeEnding serde dedup b inputs
        (normalizeInputs serde dedup inputs s) ∧
      Settles (normalizeInputs serde dedup inputs s) := by
  induction inputs generalizing b s with
  | nil =>
    have hrun : normalizeEnd s = failAnthropic
        (.upstreamProtocol "Anthropic stream ended without a message_stop event") s := by
      simp [normalizeEnd, vars, hs.stop]
    rw [normalizeInputs, forEach, pure_bind, hrun]
    exact ending_fail hs rfl rfl
  | cons x rest ih =>
    rw [normalizeInputs, forEach, bind_assoc]
    cases x with
    | failure error =>
      have hrun : (normalizeFailure error >>= fun _ => normalizeInputs serde dedup
          rest) s = failAnthropic error s := by
        simp [normalizeFailure, vars, hs.stop, failAnthropic, fail, report]
      simp only [normalizeInput, onInput]
      rw [hrun]
      exact ending_fail hs rfl rfl
    | line frame line =>
      simp only [normalizeInput, onInput]
      cases hvalue : (Input.line frame line).value serde with
      | none =>
        obtain ⟨s', hrun, hs'⟩ := normalizeLine_text frame dedup hvalue hs
        rw [bind_of_ok hrun]
        refine ⟨(ih hs').1.cons (by rw [firstEnd, hvalue]) rfl ?_, (ih hs').2⟩
        cases hname : frame.event <;>
          simp [Input.isMessageStop, hvalue, eventWithMetadata, hname]
      | some data =>
        rw [normalizeLine_event frame hvalue]
        cases hends : endsMessage frame data with
        | true => exact ending_stop frame rest hvalue hends hs
        | false =>
          obtain ⟨s', hrun, hs'⟩ := normalizeEvent_run frame dedup data hs
          rw [hends] at hs'
          rw [hends, Bool.false_or, Bool.and_false] at hrun
          rw [bind_of_ok hrun]
          refine ⟨(ih hs').1.cons ?_ rfl ?_, (ih hs').2⟩
          · rw [firstEnd, hvalue]
            exact if_neg (by simp [hends])
          · rw [isMessageStop_event frame hvalue, hends]
            refine iff_of_false ?_ (by simp)
            rintro ⟨event, hevent, hname⟩
            obtain ⟨left, hleft, rfl⟩ := Option.map_eq_some_iff.1 (Option.mem_toList.1 hevent)
            exact passedName_ne frame hends (getString_passed hleft) (Option.some.inj hname)

/-- **The pass-through ends as the lines say.** -/
theorem normalize_ends (serde : Serde) (dedup : Bool) (frames : Upstream) :
    ∃ o, NormalizeEnding serde dedup {} frames.inputs o ∧
      translate (normalizeAnthropicStream serde dedup frames) {} =
        ⟨o.items.map .ok, o.state.lifecycle⟩ := by
  obtain ⟨hending, hset⟩ := normalizeInputs_ends serde dedup frames.inputs
    (⟨rfl, rfl, nofun, rfl⟩ : Tracks {} false ⟨{}, {}⟩)
  refine ⟨_, hending, ?_⟩
  rw [translate, normalizeAnthropicStream, forEachLine_eq]
  rcases hset with hres | hres <;> simp [hres]

end

end ModelPort.Stream

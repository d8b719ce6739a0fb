import ModelPort.Gateway.Response
import ModelPort.Stream.Translation

/-!
# The finalization of a streamed response

A streamed response holds a guard with the context of its finalization. Three exits compete for it:
the end of the body, an error of the body, and the drop of the response, which may come at any
point, also before the first poll. Meanwhile the translator marks the lifecycle.

* `GuardedBody.step`: what one event does.
* `stream_finalized_once`: every response is finalized once, with the right verdict.
-/

namespace ModelPort.Stream

open Gateway StreamTerminalOutcome

variable {c : StreamFinalizationContext}

/-- What is recorded about the provider of a stream. -/
structure ProviderOutcome where
  success : Bool
  statusCode : ℕ
  errorMessage : Option String

def upstreamFailureStatus (error : String) : ℕ :=
  if contains (asciiLower error) "timed out" then 504 else 502

def providerTerminalOutcome (outcome : StreamTerminalOutcome) (state : UpstreamStreamState) :
    Option ProviderOutcome :=
  match outcome with
  | .completed => some ⟨true, 200, none⟩
  | .upstreamFailed error =>
    some ⟨false, upstreamFailureStatus error, some (auditSafeStreamError error)⟩
  | .deliveryFailed _ | .downstreamCancelled _ =>
    match state with
    | .completed => some ⟨true, 200, none⟩
    | .failed error =>
      some ⟨false, upstreamFailureStatus error, some (auditSafeStreamError error)⟩
    | .pending => none

/-- What a finalization records: the usage of the request, and an outcome of its provider. -/
structure Finalization where
  usage : UsageEventInput
  provider : Option ProviderOutcome

/-- The records of `StreamFinalizationContext::finalize`. -/
def finalizationOf (c : StreamFinalizationContext) (outcome : StreamTerminalOutcome)
    (l : Lifecycle) (latencyMs : ℕ) : Finalization where
  usage := c.finalUsage outcome (if c.trustUpstreamCost then l.providerReportedCost else none)
    l.usage l latencyMs l.firstSemanticLatencyMs
  provider := providerTerminalOutcome outcome l.state

/-- A mark that a translator makes. -/
inductive Mark where
  | completed
  | failed (error : String)
  deriving DecidableEq

def Mark.apply : Mark → Lifecycle → Lifecycle
  | .completed, l => l.markCompleted
  | .failed error, l => l.markFailed error

/-- What can happen to a streamed response, with the time at which it is finalized. -/
inductive BodyEvent where
  | mark (m : Mark)
  | report (usage : Option TokenUsageBreakdown) (cost : Option ℚ)
  | chunk
  | eof (latencyMs : ℕ)
  | error (message : String) (latencyMs : ℕ)
  | drop (latencyMs : ℕ)

/-- The response of `response_with_stream_finalizer`. -/
structure GuardedBody where
  lifecycle : Lifecycle := {}
  guard : StreamFinalizationGuard
  finalized : List Finalization := []

namespace GuardedBody

/-- `StreamFinalizationGuard::finish`, and its drop: the context is taken once. -/
def finish (outcome : StreamTerminalOutcome) (latencyMs : ℕ) (s : GuardedBody) : GuardedBody :=
  match s.guard with
  | some c => { s with
      guard := none
      finalized := s.finalized ++ [finalizationOf c outcome s.lifecycle latencyMs] }
  | none => s

def step (s : GuardedBody) : BodyEvent → GuardedBody
  | .mark m => { s with lifecycle := m.apply s.lifecycle }
  | .report usage cost => { s with lifecycle := s.lifecycle.mergeReported usage cost }
  | .chunk => s
  | .eof latencyMs => s.finish (afterEof s.lifecycle.state) latencyMs
  | .error message latencyMs => s.finish (afterBodyError message s.lifecycle.state) latencyMs
  | .drop latencyMs => s.finish (.downstreamCancelled s.lifecycle.state) latencyMs

def run (s : GuardedBody) (events : List BodyEvent) : GuardedBody := events.foldl step s

end GuardedBody

/-- The first mark that is made before the response is over. -/
def firstMark : List BodyEvent → Option Mark
  | .mark m :: _ => some m
  | [] | .eof _ :: _ | .error _ _ :: _ | .drop _ :: _ => none
  | _ :: events => firstMark events

/-- The body is read to its end. -/
def readToEnd : List BodyEvent → Bool
  | .eof _ :: _ => true
  | [] | .error _ _ :: _ | .drop _ :: _ => false
  | _ :: events => readToEnd events

/-- **The right verdict**, for the first mark and whether the body was read to its end. -/
structure Verdict (mark : Option Mark) (toEnd : Bool) (f : Finalization) : Prop where
  request : f.usage.success ↔ toEnd ∧ mark = some .completed
  recorded : f.provider.isSome ↔ mark.isSome ∨ toEnd
  provider : ∀ p ∈ f.provider, (p.success ↔ mark = some .completed)

/-- The state of a lifecycle after a first mark. -/
def stateAfter : Option Mark → UpstreamStreamState
  | none => .pending
  | some .completed => .completed
  | some (.failed error) => .failed error

section

variable {l : Lifecycle} {mark : Option Mark}

section

variable (hstate : l.state = stateAfter mark)

include hstate

lemma verdict_eof (latencyMs : ℕ) :
    Verdict mark true (finalizationOf c (afterEof l.state) l latencyMs) := by
  rcases mark with _ | _ | error <;> constructor <;>
    simp [finalizationOf, StreamFinalizationContext.finalUsage, hstate, stateAfter, afterEof,
      success, providerTerminalOutcome]

lemma verdict_error (message : String) (latencyMs : ℕ) :
    Verdict mark false (finalizationOf c (afterBodyError message l.state) l latencyMs) := by
  rcases mark with _ | _ | error <;> constructor <;>
    simp [finalizationOf, StreamFinalizationContext.finalUsage, hstate, stateAfter,
      afterBodyError, success, providerTerminalOutcome]

lemma verdict_drop (latencyMs : ℕ) :
    Verdict mark false (finalizationOf c (.downstreamCancelled l.state) l latencyMs) := by
  rcases mark with _ | _ | error <;> constructor <;>
    simp [finalizationOf, StreamFinalizationContext.finalUsage, hstate, stateAfter, success,
      providerTerminalOutcome]

end

/-- A first mark stays. -/
lemma state_apply (m : Mark) (hstate : l.state = stateAfter mark) :
    (m.apply l).state = stateAfter (mark.or (some m)) := by
  rcases mark with _ | _ | error <;> cases m <;>
    simp [Mark.apply, Lifecycle.markCompleted, Lifecycle.markFailed, hstate, stateAfter]

end

namespace GuardedBody

variable {s : GuardedBody}

/-- Once the guard is empty, nothing is finalized. -/
lemma finalized_run_of_none (hguard : s.guard = none) (events : List BodyEvent) :
    (s.run events).finalized = s.finalized := by
  induction events generalizing s with
  | nil => rfl
  | cons e events ih =>
    have hstep : (s.step e).guard = none ∧ (s.step e).finalized = s.finalized := by
      cases e <;> simp only [step, finish, hguard, and_self]
    exact (ih hstep.1).trans hstep.2

/-- The guard is taken at an exit, and what follows changes nothing. -/
lemma finalized_run_finish (hguard : s.guard = some c) (hnone : s.finalized = [])
    {mark : Option Mark} {toEnd : Bool} {outcome : StreamTerminalOutcome} {latencyMs : ℕ}
    (h : Verdict mark toEnd (finalizationOf c outcome s.lifecycle latencyMs))
    (events : List BodyEvent) : ∃ f, ((s.finish outcome latencyMs).run events).finalized = [f] ∧
      Verdict (mark.or none) toEnd f := by
  rw [finish, hguard, finalized_run_of_none rfl, hnone, Option.or_none]
  exact ⟨_, rfl, h⟩

/-- **A response that is still read** is finalized once, whatever comes. -/
lemma finalized_run (hguard : s.guard = some c) (hnone : s.finalized = []) {mark : Option Mark}
    (hstate : s.lifecycle.state = stateAfter mark) (events : List BodyEvent) (latencyMs : ℕ) :
    ∃ f, (s.run (events ++ [.drop latencyMs])).finalized = [f] ∧
      Verdict (mark.or (firstMark events)) (readToEnd events) f := by
  induction events generalizing s mark with
  | nil => exact finalized_run_finish hguard hnone (verdict_drop hstate latencyMs) []
  | cons e events ih =>
    cases e with
    | mark m =>
      have hmark := ih (s := s.step (.mark m)) hguard hnone (state_apply m hstate)
      rwa [Option.or_assoc] at hmark
    | report usage cost =>
      refine ih (s := s.step (.report usage cost)) hguard hnone ?_
      exact (Lifecycle.state_mergeReported usage cost _).trans hstate
    | chunk => exact ih hguard hnone hstate
    | eof ms => exact finalized_run_finish hguard hnone (verdict_eof hstate ms) _
    | error message ms =>
      exact finalized_run_finish hguard hnone (verdict_error hstate message ms) _
    | drop ms => exact finalized_run_finish hguard hnone (verdict_drop hstate ms) _

end GuardedBody

/-- **A streamed response is finalized exactly once, with the right verdict**: whatever happens to
it until it is dropped, the request is recorded successful exactly if the body was read to its end
and the first mark was `Completed`, and an outcome of the provider exactly if there was a mark or
the body ended. -/
theorem stream_finalized_once (c : StreamFinalizationContext) (events : List BodyEvent)
    (latencyMs : ℕ) :
    ∃ f, (GuardedBody.run { guard := some c } (events ++ [.drop latencyMs])).finalized = [f] ∧
      (f.usage.success ↔ readToEnd events ∧ firstMark events = some .completed) ∧
      (f.provider.isSome ↔ (firstMark events).isSome ∨ readToEnd events) ∧
      ∀ p ∈ f.provider, (p.success ↔ firstMark events = some .completed) := by
  obtain ⟨f, hf, hverdict⟩ := GuardedBody.finalized_run (s := { guard := some c }) (c := c) rfl rfl
    (rfl : _ = stateAfter none) events latencyMs
  exact ⟨f, hf, hverdict.request, hverdict.recorded, hverdict.provider⟩

end ModelPort.Stream

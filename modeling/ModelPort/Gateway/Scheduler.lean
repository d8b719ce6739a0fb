import ModelPort.Gateway.Handler
import ModelPort.Lib.Counts
import ModelPort.Lib.Runs

/-!
# The scheduler of local execution

`LocalScheduler` lets one request at a time run on local hardware. Its semaphore has a single
permit; its state, behind a lock of its own, holds the two queues and counts running and queued
requests by user. A call of `acquire` is a sequence of critical sections: `advance` carries out
the next one, and `Phase` says where a call stands between two of them. `System` holds any number
of calls, which take their critical sections in any order.

A call waits for its turn in `Phase.parked`, its only await point. It may be woken there at any
moment, whether by a notification or by the end of its wait. A future dropped at that point runs
none of the code after it (`Phase.cancelled`): its entry stays in the queue.

* `bookkeeping_iff`: the books agree with the calls that really wait exactly as long as no call
  was dropped while it waited.
-/

namespace ModelPort.Gateway

open List

variable {call : AcquireCall} {ph ph' : Phase} {s : Scheduler} {a : Acquisition} {sys : System}

/-! ### State -/

/-- `LocalSchedulerConfig`; durations in nanoseconds. -/
structure LocalSchedulerConfig where
  executingPerUser : ℕ
  queuedPerUser : ℕ
  globalInteractiveQueue : ℕ
  globalBatchQueue : ℕ
  overflowAfter : ℕ
  strictWait : ℕ
  deriving DecidableEq

/-- An entry of a queue. -/
structure QueuedRequest where
  id : ℕ
  enqueued : ℕ
  deriving DecidableEq

/-- Queues, counts and leases. -/
structure SchedulerState where
  runningByUser : Counts String
  queuedByUser : Counts String
  interactive : List QueuedRequest
  batch : List QueuedRequest
  nextId : ℕ
  serviceTimeMs : ℕ

namespace SchedulerState

/-- The queue of a class. -/
def queue (s : SchedulerState) : WorkloadClass → List QueuedRequest
  | .interactive => s.interactive
  | .batch => s.batch

/-- The state with another queue for a class. -/
def setQueue (s : SchedulerState) (queue : List QueuedRequest) : WorkloadClass → SchedulerState
  | .interactive => { s with interactive := queue }
  | .batch => { s with batch := queue }

variable (s : SchedulerState) (queue : List QueuedRequest)

lemma queue_setQueue (c d : WorkloadClass) :
    (s.setQueue queue c).queue d = if d = c then queue else s.queue d := by
  cases c <;> cases d <;> rfl

@[simp] lemma runningByUser_setQueue (c : WorkloadClass) :
    (s.setQueue queue c).runningByUser = s.runningByUser := by
  cases c <;> rfl

@[simp] lemma queuedByUser_setQueue (c : WorkloadClass) :
    (s.setQueue queue c).queuedByUser = s.queuedByUser := by
  cases c <;> rfl

end SchedulerState

/-- What the calls share: the free permits of the semaphore, the state, and the clock. -/
structure Scheduler where
  permits : ℕ
  state : SchedulerState
  /-- nanoseconds -/
  clock : ℕ

/-- `LocalScheduler::new`: `DEFAULT_SERVICE_TIME` is five seconds. -/
def Scheduler.new : Scheduler where
  permits := 1
  state :=
    { runningByUser := .empty
      queuedByUser := .empty
      interactive := []
      batch := []
      nextId := 0
      serviceTimeMs := 5000 }
  clock := 0

/-- The arguments of a call of `acquire`. -/
structure AcquireCall where
  userId : String
  mode : HybridMode
  workload : WorkloadClass
  cloudAvailable : Bool
  deriving DecidableEq

/-- Where a call stands, between two of its critical sections. -/
inductive Phase where
  /-- nothing done yet -/
  | arrived
  /-- the first attempt got the permit -/
  | fastPermit
  /-- the user already runs as many requests as it may; the permit is still held -/
  | fastRefused
  /-- the first attempt failed; the wait is estimated next -/
  | estimating
  | enqueuing
  | enqueued (id : ℕ)
  /-- at the head of the loop -/
  | polling (id deadline : ℕ)
  | atFront (id deadline : ℕ)
  /-- the permit was granted; the entry is still in the queue -/
  | granted (id : ℕ)
  /-- the permit was granted and the entry removed -/
  | dequeued
  | checkingDeadline (id deadline : ℕ)
  /-- at the await point -/
  | parked (id deadline : ℕ)
  /-- the wait is over; the entry is still in the queue -/
  | expired (id : ℕ)
  | timedOut
  /-- returned without a lease -/
  | returned (result : Except AppError LocalAdmission)
  /-- returned with a lease that is alive -/
  | leased (started : ℕ)
  /-- the lease is being dropped; the permit is still held -/
  | releasing
  | released
  /-- the future was dropped at its await point -/
  | cancelled (id : ℕ)

namespace Phase

/-- The call holds the permit. -/
def holdsPermit : Phase → Bool
  | .fastPermit | .fastRefused | .granted _ | .dequeued | .leased _ | .releasing => true
  | _ => false

/-- The call has returned a lease that is alive. -/
def holdsLease : Phase → Bool
  | .leased _ => true
  | _ => false

/-- The id under which the call waits in its queue. -/
def waitingId : Phase → Option ℕ
  | .enqueued id | .polling id _ | .atFront id _ | .granted id | .checkingDeadline id _
  | .parked id _ | .expired id => some id
  | _ => none

/-- The id of an entry that the call has put in its queue and not removed. -/
def entryId : Phase → Option ℕ
  | .cancelled id => some id
  | phase => phase.waitingId

end Phase

/-! ### One critical section -/

section

variable (config : LocalSchedulerConfig)

def retryAfterSeconds (serviceTimeMs : ℕ) : ℕ := min (max ((serviceTimeMs + 999) / 1000) 1) 60

/-- A mode that sends a request to the cloud rather than letting it wait. -/
def prefersOverflow (call : AcquireCall) : Bool :=
  (call.mode = .localFirst ∨ call.mode = .balanced) ∧ call.cloudAvailable

/-- `estimated_wait`, in milliseconds. -/
def estimatedWaitMs (s : SchedulerState) (workload : WorkloadClass) : ℕ :=
  let ahead := s.interactive.length + (if workload = .batch then s.batch.length else 0)
    + s.runningByUser.total
  min (s.serviceTimeMs * ahead) u64Max

/-- The number of requests a queue takes. -/
def queueLimit : WorkloadClass → ℕ
  | .interactive => config.globalInteractiveQueue
  | .batch => config.globalBatchQueue

/-- `WorkloadClass` under `{:?}`. -/
def workloadName : WorkloadClass → String
  | .interactive => "Interactive"
  | .batch => "Batch"

def isFront (s : SchedulerState) (id : ℕ) (workload : WorkloadClass) (userId : String) : Bool :=
  if config.executingPerUser ≤ s.runningByUser.get userId then false
  else
    match workload with
    | .interactive => s.interactive.head?.any fun item => item.id = id
    | .batch => s.interactive.isEmpty && s.batch.head?.any fun item => item.id = id

/-- The state part of `remove_queued`. -/
def removeQueued (s : SchedulerState) (id : ℕ) (workload : WorkloadClass) (userId : String) :
    SchedulerState :=
  let s := s.setQueue ((s.queue workload).eraseP fun item => item.id = id) workload
  { s with queuedByUser := s.queuedByUser.decr userId }

/-- A new entry at the end of a queue. -/
def pushQueued (s : SchedulerState) (clock : ℕ) (workload : WorkloadClass) (userId : String) :
    SchedulerState :=
  let id := saturatingAdd s.nextId 1
  let s := s.setQueue (s.queue workload ++ [⟨id, clock⟩]) workload
  { s with nextId := id, queuedByUser := s.queuedByUser.incr userId }

/-- The state part of dropping a lease. -/
def dropLease (s : SchedulerState) (elapsedMs : ℕ) (userId : String) : SchedulerState :=
  let elapsedMs := max (min elapsedMs u64Max) 1
  { s with
    runningByUser := s.runningByUser.decr userId
    serviceTimeMs :=
      if s.serviceTimeMs = 0 then elapsedMs
      else saturatingAdd (min (s.serviceTimeMs * 4) u64Max) elapsedMs / 5 }

/-- The critical section in which a call is put in its queue, sent away, or refused. -/
def enqueue (call : AcquireCall) (s : Scheduler) : Phase × Scheduler :=
  if config.queuedPerUser ≤ s.state.queuedByUser.get call.userId then
    (.returned (.error (.rateLimited "per-user local queue limit exceeded (2 queued)"
      (retryAfterSeconds s.state.serviceTimeMs))), s)
  else if queueLimit config call.workload ≤ (s.state.queue call.workload).length then
    if prefersOverflow call then (.returned (.ok .overflowToCloud), s)
    else
      (.returned (.error (.rateLimited
        ("global " ++ workloadName call.workload ++ " local queue limit exceeded")
        (retryAfterSeconds s.state.serviceTimeMs))), s)
  else
    (.enqueued (saturatingAdd s.state.nextId 1),
      { s with state := pushQueued s.state s.clock call.workload call.userId })

/-- `try_acquire_owned`, and the phase after it. -/
def tryAcquire (s : Scheduler) (success failure : Phase) : Phase × Scheduler :=
  if s.permits = 0 then (failure, s) else (success, { s with permits := s.permits - 1 })

/-- The outcome of a wait that was too long. -/
def timeoutResult (call : AcquireCall) (s : SchedulerState) : Except AppError LocalAdmission :=
  if call.mode ≠ .localStrict ∧ call.cloudAvailable then .ok .overflowToCloud
  else
    .error (.rateLimited "local_strict request exceeded the 60 second local wait limit"
      (retryAfterSeconds s.serviceTimeMs))

/-- The next critical section of a call: of `acquire`, and once it has returned a lease, of the
lease's `drop`. -/
def advance (call : AcquireCall) (phase : Phase) (s : Scheduler) : Phase × Scheduler :=
  match phase with
  | .arrived => tryAcquire s .fastPermit .estimating
  | .fastPermit =>
    if s.state.runningByUser.get call.userId < config.executingPerUser then
      (.leased s.clock,
        { s with state :=
          { s.state with runningByUser := s.state.runningByUser.incr call.userId } })
    else
      (.fastRefused,
        { s with state :=
          { s.state with runningByUser := s.state.runningByUser.touch call.userId } })
  | .fastRefused => (.estimating, { s with permits := s.permits + 1 })
  | .estimating =>
    if prefersOverflow call
        ∧ config.overflowAfter < estimatedWaitMs s.state call.workload * 1000000 then
      (.returned (.ok .overflowToCloud), s)
    else (.enqueuing, s)
  | .enqueuing => enqueue config call s
  | .enqueued id =>
    let wait := if call.mode = .localStrict then config.strictWait else config.overflowAfter
    (.polling id (s.clock + wait), s)
  | .polling id deadline =>
    if isFront config s.state id call.workload call.userId then (.atFront id deadline, s)
    else (.checkingDeadline id deadline, s)
  | .atFront id deadline => tryAcquire s (.granted id) (.checkingDeadline id deadline)
  | .granted id =>
    (.dequeued, { s with state := removeQueued s.state id call.workload call.userId })
  | .dequeued =>
    (.leased s.clock,
      { s with state :=
        { s.state with runningByUser := s.state.runningByUser.incr call.userId } })
  | .checkingDeadline id deadline =>
    if deadline ≤ s.clock then (.expired id, s) else (.parked id deadline, s)
  | .parked id deadline => (.polling id deadline, s)
  | .expired id =>
    (.timedOut, { s with state := removeQueued s.state id call.workload call.userId })
  | .timedOut => (.returned (timeoutResult call s.state), s)
  | .leased started =>
    (.releasing,
      { s with state := dropLease s.state ((s.clock - started) / 1000000) call.userId })
  | .releasing => (.released, { s with permits := s.permits + 1 })
  | .returned result => (.returned result, s)
  | .released => (.released, s)
  | .cancelled id => (.cancelled id, s)

end

/-! ### Any number of calls -/

/-- A call and where it stands. -/
structure Acquisition where
  call : AcquireCall
  phase : Phase

open Acquisition

/-- The calls made so far and what they share. -/
structure System where
  scheduler : Scheduler
  calls : List Acquisition

/-- What can happen next. -/
inductive SchedulerEvent where
  /-- a new call -/
  | arrive (call : AcquireCall)
  /-- time passes -/
  | tick (nanoseconds : ℕ)
  /-- the call with this number carries out its next critical section -/
  | run (i : ℕ)
  /-- the future of the call with this number is dropped -/
  | cancel (i : ℕ)

namespace System

/-- No call yet. -/
def new : System := ⟨.new, []⟩

/-- A future is dropped. A call can only be dropped at its await point, and nothing of its code
runs then. -/
def cancel (sys : System) (i : ℕ) : System :=
  match sys.calls[i]? with
  | some ⟨call, .parked id _⟩ => { sys with calls := sys.calls.set i ⟨call, .cancelled id⟩ }
  | _ => sys

/-- One event. -/
def perform (config : LocalSchedulerConfig) (sys : System) : SchedulerEvent → System
  | .arrive call => { sys with calls := sys.calls ++ [⟨call, .arrived⟩] }
  | .tick d => { sys with scheduler := { sys.scheduler with clock := sys.scheduler.clock + d } }
  | .run i =>
    match sys.calls[i]? with
    | some ⟨call, phase⟩ =>
      let (phase, scheduler) := advance config call phase sys.scheduler
      ⟨scheduler, sys.calls.set i ⟨call, phase⟩⟩
    | none => sys
  | .cancel i => sys.cancel i

/-- The system after these events. -/
def after (config : LocalSchedulerConfig) (events : List SchedulerEvent) : System :=
  events.foldl (perform config) new

end System

/-! ### What one critical section does -/

namespace Acquisition

/-- The call holds the permit. -/
def permit (a : Acquisition) : Bool := a.phase.holdsPermit

/-- The call has a lease that is alive. -/
def lease (a : Acquisition) : Bool := a.phase.holdsLease

/-- A lease of this user. -/
def leaseOf (u : String) (a : Acquisition) : Bool := a.call.userId = u && a.phase.holdsLease

/-- A call of this user with an entry in a queue. -/
def entryOf (u : String) (a : Acquisition) : Bool := a.call.userId = u && a.phase.entryId.isSome

/-- A call with the entry `id` in the queue of `c`. -/
def entryIn (c : WorkloadClass) (id : ℕ) (a : Acquisition) : Bool :=
  a.call.workload = c && a.phase.entryId = some id

end Acquisition

/-- The ids in the queue of a class. -/
def SchedulerState.ids (s : SchedulerState) (c : WorkloadClass) : List ℕ :=
  (s.queue c).map QueuedRequest.id

open SchedulerState

/-- The shared state has the lease and the entry of a call on its books. -/
structure Booked (s : SchedulerState) (a : Acquisition) : Prop where
  lease : a.lease → 0 < s.runningByUser.get a.call.userId
  queued : a.phase.entryId.isSome → 0 < s.queuedByUser.get a.call.userId
  entry : ∀ id, a.phase.entryId = some id → id ∈ s.ids a.call.workload

/-- One or none. -/
def one (b : Bool) : ℕ := if b then 1 else 0

@[simp] lemma one_true : one true = 1 := rfl

@[simp] lemma one_false : one false = 0 := rfl

/-- Permit, counts and queues have moved by what a call took or gave back. -/
structure Balance (a b : Acquisition) (s s' : Scheduler) : Prop where
  permits : s'.permits + one b.permit = s.permits + one a.permit
  running : ∀ u, s'.state.runningByUser.get u + one (a.leaseOf u) =
    s.state.runningByUser.get u + one (b.leaseOf u)
  total : s'.state.runningByUser.total + one a.lease = s.state.runningByUser.total + one b.lease
  queued : ∀ u, s'.state.queuedByUser.get u + one (a.entryOf u) =
    s.state.queuedByUser.get u + one (b.entryOf u)
  entries : ∀ c id, (s'.state.ids c).count id + one (a.entryIn c id) =
    (s.state.ids c).count id + one (b.entryIn c id)

open Balance

/-- The permit moves between the semaphore and the call. -/
lemma Balance.permitOnly {n : ℕ}
    (hpermit : n + one ph'.holdsPermit = s.permits + one ph.holdsPermit)
    (hlease : ph'.holdsLease = ph.holdsLease) (hentry : ph'.entryId = ph.entryId) :
    Balance ⟨call, ph⟩ ⟨call, ph'⟩ s { s with permits := n } where
  permits := hpermit
  running u := by simp [leaseOf, hlease]
  total := by simp [lease, hlease]
  queued u := by simp [entryOf, hentry]
  entries c id := by simp [entryIn, hentry]

lemma Balance.idle (s : Scheduler)
    (hpermit : ph'.holdsPermit = ph.holdsPermit) (hlease : ph'.holdsLease = ph.holdsLease)
    (hentry : ph'.entryId = ph.entryId) : Balance ⟨call, ph⟩ ⟨call, ph'⟩ s s :=
  permitOnly (by rw [hpermit]) hlease hentry

lemma balance_tryAcquire {success failure : Phase} (s : Scheduler)
    (hfailure : Balance ⟨call, ph⟩ ⟨call, failure⟩ s s)
    (hpermit : one success.holdsPermit = one ph.holdsPermit + 1)
    (hlease : success.holdsLease = ph.holdsLease) (hentry : success.entryId = ph.entryId) :
    Balance ⟨call, ph⟩ ⟨call, (tryAcquire s success failure).1⟩ s
      (tryAcquire s success failure).2 := by
  unfold tryAcquire
  split
  · exact hfailure
  · refine permitOnly ?_ hlease hentry
    dsimp only
    omega

/-- A lease begins: the running count of its user goes up. -/
lemma balance_lease (s : Scheduler)
    (hpermit : ph'.holdsPermit = ph.holdsPermit) (hlease : ph.holdsLease = false)
    (hlease' : ph'.holdsLease) (hentry : ph'.entryId = ph.entryId) :
    Balance ⟨call, ph⟩ ⟨call, ph'⟩ s { s with state :=
        { s.state with runningByUser := s.state.runningByUser.incr call.userId } } where
  permits := by simp [permit, hpermit]
  running u := by
    simp [leaseOf, hlease, hlease', Counts.get_incr, one, eq_comm]
  total := by simp [lease, hlease, hlease', Counts.total_incr]
  queued u := by simp [entryOf, hentry]
  entries c id := by
    simp [entryIn, hentry, ids, queue]

lemma ids_removeQueued (s : SchedulerState) (id : ℕ) (c d : WorkloadClass) (u : String) :
    (removeQueued s id c u).ids d = if d = c then (s.ids c).erase id else s.ids d := by
  have hqueue : (removeQueued s id c u).queue d =
      (s.setQueue ((s.queue c).eraseP fun item => item.id = id) c).queue d := by
    cases d <;> rfl
  unfold ids
  rw [hqueue, queue_setQueue]
  split
  · rw [erase_eq_eraseP, eraseP_map]
    congr 2
    funext item
    by_cases hitem : item.id = id <;> simp [hitem, Ne.symm]
  · rfl

lemma ids_pushQueued (s : SchedulerState) (clock : ℕ) (c d : WorkloadClass) (u : String) :
    (pushQueued s clock c u).ids d =
      if d = c then s.ids c ++ [saturatingAdd s.nextId 1] else s.ids d := by
  have hqueue : (pushQueued s clock c u).queue d =
      (s.setQueue (s.queue c ++ [⟨saturatingAdd s.nextId 1, clock⟩]) c).queue d := by
    cases d <;> rfl
  unfold ids
  rw [hqueue, queue_setQueue]
  split <;> simp

lemma balance_removeQueued {id : ℕ} (s : Scheduler)
    (hpermit : ph'.holdsPermit = ph.holdsPermit) (hlease : ph'.holdsLease = ph.holdsLease)
    (hentry : ph.entryId = some id) (hentry' : ph'.entryId = none)
    (hbook : Booked s.state ⟨call, ph⟩) :
    Balance ⟨call, ph⟩ ⟨call, ph'⟩ s
      { s with state := removeQueued s.state id call.workload call.userId } where
  permits := by simp [permit, hpermit]
  running u := by simp [leaseOf, hlease, removeQueued]
  total := by simp [lease, hlease, removeQueued]
  queued u := by
    have hpos := hbook.queued (by simp [hentry])
    have := Counts.get_decr hpos u
    simp [entryOf, hentry, hentry', removeQueued, one, ← this, eq_comm]
  entries c j := by
    have hmem := hbook.entry id hentry
    have hcount : 0 < (s.state.ids call.workload).count id := count_pos_iff.2 hmem
    simp only [ids_removeQueued, entryIn, hentry, hentry', one]
    by_cases hc : c = call.workload
    · subst hc
      by_cases hj : id = j
      · subst hj
        simp only [if_true, count_erase_self, decide_true, Bool.and_self, reduceCtorEq,
          decide_false, Bool.and_false, if_false]
        omega
      · simp [hj, count_erase_of_ne (Ne.symm hj)]
    · simp [hc, Ne.symm hc]

/-- **One critical section** moves permit, counts and queues by what the call took or gave
back. -/
lemma advance_balance (config : LocalSchedulerConfig) (call : AcquireCall) (phase : Phase)
    (s : Scheduler) (hbook : Booked s.state ⟨call, phase⟩) :
    Balance ⟨call, phase⟩ ⟨call, (advance config call phase s).1⟩ s
      (advance config call phase s).2 := by
  cases phase with
  | arrived => exact balance_tryAcquire s (idle s rfl rfl rfl) rfl rfl rfl
  | fastPermit =>
    simp only [advance]
    split
    · exact balance_lease s rfl rfl rfl rfl
    · exact
        { permits := rfl
          running := fun u => by simp [leaseOf, Phase.holdsLease]
          total := by simp [lease, Phase.holdsLease]
          queued := fun _ => rfl
          entries := fun _ _ => rfl }
  | fastRefused => exact permitOnly rfl rfl rfl
  | estimating =>
    simp only [advance]
    split <;> exact idle s rfl rfl rfl
  | enqueuing =>
    simp only [advance, enqueue]
    split
    · exact idle s rfl rfl rfl
    split
    · split <;> exact idle s rfl rfl rfl
    · -- an entry is put in its queue
      have hentry : Phase.enqueuing.entryId = none := rfl
      have hentry' : (Phase.enqueued (saturatingAdd s.state.nextId 1)).entryId = some _ := rfl
      exact
        { permits := rfl
          running := fun u => by simp [leaseOf, Phase.holdsLease, pushQueued]
          total := by simp [lease, Phase.holdsLease, pushQueued]
          queued := fun u => by
            simp [entryOf, hentry, hentry', pushQueued, one, Counts.get_incr, eq_comm]
          entries := fun c j => by
            simp only [ids_pushQueued, entryIn, hentry, hentry']
            by_cases hc : c = call.workload
            · subst hc
              by_cases hj : saturatingAdd s.state.nextId 1 = j <;> simp [hj]
            · simp [hc, Ne.symm hc] }
  | enqueued id => exact idle s rfl rfl rfl
  | polling id deadline =>
    simp only [advance]
    split <;> exact idle s rfl rfl rfl
  | atFront id deadline => exact balance_tryAcquire s (idle s rfl rfl rfl) rfl rfl rfl
  | granted id => exact balance_removeQueued s rfl rfl rfl rfl hbook
  | dequeued => exact balance_lease s rfl rfl rfl rfl
  | checkingDeadline id deadline =>
    simp only [advance]
    split <;> exact idle s rfl rfl rfl
  | parked id deadline => exact idle s rfl rfl rfl
  | expired id => exact balance_removeQueued s rfl rfl rfl rfl hbook
  | timedOut | returned => exact idle s rfl rfl rfl
  | leased started =>
    have hpos := hbook.lease rfl
    exact
      { permits := rfl
        running := fun u => by
          simp [leaseOf, Phase.holdsLease, advance, dropLease, one,
            ← Counts.get_decr hpos u, eq_comm]
        total := by
          simp [lease, Phase.holdsLease, advance, dropLease, ← Counts.total_decr hpos]
        queued := fun _ => rfl
        entries := fun _ _ => rfl }
  | releasing => exact permitOnly rfl rfl rfl
  | released | cancelled => exact idle s rfl rfl rfl

/-! ### Runs -/

namespace System

/-- Permit, counts and queues agree with the phases of the calls. A call that was dropped while
it waited still has its entry. -/
structure Balanced (sys : System) : Prop where
  permits : sys.scheduler.permits + sys.calls.countP Acquisition.permit = 1
  running : ∀ u, sys.scheduler.state.runningByUser.get u =
    sys.calls.countP (Acquisition.leaseOf u)
  total : sys.scheduler.state.runningByUser.total = sys.calls.countP Acquisition.lease
  queued : ∀ u, sys.scheduler.state.queuedByUser.get u = sys.calls.countP (Acquisition.entryOf u)
  entries : ∀ c id, (sys.scheduler.state.ids c).count id =
    sys.calls.countP (Acquisition.entryIn c id)

variable {i : ℕ}

lemma countP_set {α : Type} (p : α → Bool) {l : List α} {a : α} (h : l[i]? = some a)
    (b : α) : (l.set i b).countP p + one (p a) = l.countP p + one (p b) := by
  obtain ⟨hi, rfl⟩ := List.getElem?_eq_some_iff.1 h
  have hset := (set_perm_cons_eraseIdx hi b).countP_eq p
  have hget := (getElem_cons_eraseIdx_perm hi).countP_eq p
  simp only [countP_cons] at hset hget
  simp only [one]
  omega

variable {b : Acquisition}

/-- A count moves with the call that is replaced. -/
lemma countP_moved {p : Acquisition → Bool} {n n' : ℕ}
    (hn : n = sys.calls.countP p) (ha : sys.calls[i]? = some a)
    (hmoved : n' + one (p a) = n + one (p b)) : n' = (sys.calls.set i b).countP p := by
  have hcount := countP_set p ha b
  omega

namespace Balanced

/-- What the books say about one of the calls. -/
lemma booked (h : sys.Balanced) (ha : a ∈ sys.calls) : Booked sys.scheduler.state a where
  lease hlease := by
    rw [h.running]
    exact countP_pos_iff.2 ⟨a, ha, by
      simpa [leaseOf, lease] using hlease⟩
  queued hsome := by
    rw [h.queued]
    exact countP_pos_iff.2 ⟨a, ha, by simpa [entryOf] using hsome⟩
  entry id hid := by
    rw [← count_pos_iff, h.entries]
    exact countP_pos_iff.2 ⟨a, ha, by simp [entryIn, hid]⟩

/-- A call takes or gives back what the shared state gains or loses. -/
lemma replace (h : sys.Balanced) (ha : sys.calls[i]? = some a)
    (hbal : Balance a b sys.scheduler s) : Balanced ⟨s, sys.calls.set i b⟩ where
  permits := by
    have hcount := countP_set permit ha b
    have hmoved := hbal.permits
    have hbef := h.permits
    dsimp only
    omega
  running u := countP_moved (h.running u) ha (hbal.running u)
  total := countP_moved h.total ha hbal.total
  queued u := countP_moved (h.queued u) ha (hbal.queued u)
  entries c id := countP_moved (h.entries c id) ha (hbal.entries c id)

/-- **One event** keeps the balance. -/
lemma perform (h : sys.Balanced) (config : LocalSchedulerConfig) (e : SchedulerEvent) :
    (sys.perform config e).Balanced := by
  cases e with
  | arrive call =>
    have hlease : lease ⟨call, .arrived⟩ = false := rfl
    have hentry : Phase.arrived.entryId = none := rfl
    constructor
    · simpa [System.perform, permit, Phase.holdsPermit] using h.permits
    · simpa [System.perform, leaseOf, Phase.holdsLease] using h.running
    · simpa [System.perform, hlease] using h.total
    · simpa [System.perform, entryOf, hentry] using h.queued
    · simpa [System.perform, entryIn, hentry] using h.entries
  | tick d => exact { h with }
  | run i =>
    simp only [System.perform]
    split
    · rename_i call phase hi
      exact h.replace hi (advance_balance config call phase _ (h.booked (mem_of_getElem? hi)))
    · exact h
  | cancel i =>
    simp only [System.perform, System.cancel]
    split
    · rename_i call id deadline hi
      exact h.replace hi (idle _ rfl rfl rfl)
    · exact h

/-- **Every run** keeps the balance. -/
lemma after (config : LocalSchedulerConfig) (events : List SchedulerEvent) :
    (System.after config events).Balanced := by
  unfold System.after
  induction events using List.reverseRecOn with
  | nil => exact ⟨rfl, fun _ => rfl, rfl, fun _ => rfl, fun c _ => by cases c <;> rfl⟩
  | append_singleton events e ih =>
    rw [foldl_append]
    exact ih.perform config e

end Balanced

end System

/-! ### The books -/

namespace Acquisition

/-- A call of this user that waits. -/
def waitingOf (u : String) (a : Acquisition) : Bool := a.call.userId = u && a.phase.waitingId.isSome

/-- A call that waits in the queue of `c` under `id`. -/
def waitingIn (c : WorkloadClass) (id : ℕ) (a : Acquisition) : Bool :=
  a.call.workload = c && a.phase.waitingId = some id

/-- A call that stands at its await point. -/
def parked (a : Acquisition) : Bool :=
  match a.phase with
  | .parked _ _ => true
  | _ => false

/-- A call that was dropped there. -/
def cancelled (a : Acquisition) : Bool :=
  match a.phase with
  | .cancelled _ => true
  | _ => false

lemma entryId_of_not_cancelled (h : a.cancelled = false) : a.phase.entryId = a.phase.waitingId := by
  obtain ⟨call, phase⟩ := a
  cases phase <;> first | rfl | cases h

end Acquisition

namespace System

/-- The ids of the calls that wait in a class. -/
def waitingIds (sys : System) (c : WorkloadClass) : List ℕ :=
  sys.calls.filterMap fun a => if a.call.workload = c then a.phase.waitingId else none

/-- The books agree with the calls: the queues hold exactly the calls that wait, the counts by
user are theirs, there is at most one lease and it is the one that is counted, and a call is
turned away for a full queue only if as many calls really wait. -/
structure Bookkeeping (config : LocalSchedulerConfig) (sys : System) : Prop where
  queues : ∀ c, (sys.scheduler.state.ids c).Perm (sys.waitingIds c)
  queued : ∀ u, sys.scheduler.state.queuedByUser.get u =
    sys.calls.countP (Acquisition.waitingOf u)
  running : sys.scheduler.state.runningByUser.total = sys.calls.countP Acquisition.lease
  atMostOne : sys.calls.countP Acquisition.lease ≤ 1
  userLimit : ∀ call retryAfter, (enqueue config call sys.scheduler).1 =
      .returned (.error (.rateLimited "per-user local queue limit exceeded (2 queued)"
        retryAfter)) →
    config.queuedPerUser ≤ sys.calls.countP (Acquisition.waitingOf call.userId)
  globalLimit : ∀ call retryAfter,
    (enqueue config call sys.scheduler).1 = .returned (.ok .overflowToCloud) ∨
      (enqueue config call sys.scheduler).1 = .returned (.error (.rateLimited
        ("global " ++ workloadName call.workload ++ " local queue limit exceeded")
        retryAfter)) →
    queueLimit config call.workload ≤ (sys.waitingIds call.workload).length

/-- The event drops a call at its await point. -/
def drops (sys : System) : SchedulerEvent → Bool
  | .cancel i => sys.calls[i]?.any Acquisition.parked
  | _ => false

variable (config : LocalSchedulerConfig)

/-- A critical section neither drops a call nor revives one. -/
lemma cancelled_advance (call : AcquireCall) (phase : Phase) (s : Scheduler) :
    cancelled ⟨call, (advance config call phase s).1⟩ =
      cancelled ⟨call, phase⟩ := by
  cases phase <;> simp only [advance, tryAcquire, enqueue] <;>
    first
    | rfl
    | (split <;> first | rfl | (split <;> first | rfl | (split <;> rfl)))

lemma countP_cancelled_perform (sys : System) (e : SchedulerEvent) :
    (sys.perform config e).calls.countP cancelled =
      sys.calls.countP cancelled + one (sys.drops e) := by
  cases e with
  | arrive call => simp [perform, drops, cancelled]
  | tick d => simp [perform, drops]
  | run i =>
    simp only [perform, drops, one_false]
    split
    · rename_i call phase hi
      have hcount := countP_set cancelled hi ⟨call, (advance config call phase sys.scheduler).1⟩
      rw [cancelled_advance] at hcount
      dsimp only
      omega
    · rfl
  | cancel i =>
    simp only [perform, cancel, drops]
    split
    · rename_i call id deadline hi
      have hcount := countP_set cancelled hi ⟨call, .cancelled id⟩
      simp only [cancelled, one_false] at hcount
      simp only [hi, Option.any_some, parked]
      omega
    · rename_i hnot
      have hnone : sys.calls[i]?.any parked = false := by
        rcases hi : sys.calls[i]? with _ | ⟨call, phase⟩
        · rfl
        · cases phase <;> first | rfl | exact absurd hi (hnot _ _ _)
      rw [hnone, one_false, Nat.add_zero]

/-- A call has been dropped exactly if some event of the run dropped it. -/
lemma countP_cancelled_eq_zero_iff (events : List SchedulerEvent) :
    (after config events).calls.countP cancelled = 0 ↔
      ∀ earlier e later, events = earlier ++ e :: later →
        (after config earlier).drops e = false := by
  change _ ↔ Runs.Throughout (perform config) (fun sys e => sys.drops e = false) new events
  induction events using List.reverseRecOn with
  | nil => exact iff_of_true rfl Runs.throughout_nil
  | append_singleton events last ih =>
    have hafter : after config (events ++ [last]) = (after config events).perform config last := by
      simp [after]
    rw [hafter, countP_cancelled_perform, Nat.add_eq_zero_iff, ih, Runs.throughout_concat]
    refine and_congr_right fun _ => ?_
    change _ ↔ (after config events).drops last = false
    cases (after config events).drops last <;> simp

lemma count_waitingIds (sys : System) (c : WorkloadClass) (id : ℕ) :
    (sys.waitingIds c).count id = sys.calls.countP (waitingIn c id) := by
  unfold waitingIds
  induction sys.calls with
  | nil => rfl
  | cons a calls ih =>
    rw [countP_cons, ← ih]
    by_cases hc : a.call.workload = c
    · cases hid : a.phase.waitingId with
      | none => simp [hid, waitingIn]
      | some j => simp [hc, hid, waitingIn, count_cons]
    · simp [hc, waitingIn]

/-- At most one call holds a lease: a lease holds the permit. -/
lemma Balanced.lease_le_one (h : sys.Balanced) : sys.calls.countP lease ≤ 1 := by
  have hpermit : sys.calls.countP lease ≤ sys.calls.countP permit := by
    refine countP_mono_left fun a _ ha => ?_
    obtain ⟨call, phase⟩ := a
    cases phase <;> first | rfl | cases ha
  have := h.permits
  omega

/-- The books agree as long as no call was dropped while it waited. -/
lemma Balanced.bookkeeping (h : sys.Balanced) (config : LocalSchedulerConfig)
    (hnone : ∀ a ∈ sys.calls, a.cancelled = false) : sys.Bookkeeping config := by
  have hqueues : ∀ c, (sys.scheduler.state.ids c).Perm (sys.waitingIds c) := by
    intro c
    refine perm_iff_count.2 fun id => ?_
    rw [h.entries, count_waitingIds]
    refine countP_congr fun a ha => ?_
    simp [entryIn, waitingIn, entryId_of_not_cancelled (hnone a ha)]
  have hqueued : ∀ u, sys.scheduler.state.queuedByUser.get u =
      sys.calls.countP (waitingOf u) := by
    intro u
    rw [h.queued]
    refine countP_congr fun a ha => ?_
    simp [entryOf, waitingOf, entryId_of_not_cancelled (hnone a ha)]
  exact
    { queues := hqueues
      queued := hqueued
      running := h.total
      atMostOne := h.lease_le_one
      userLimit := fun call retryAfter href => by
        rw [← hqueued]
        unfold enqueue at href
        split at href
        · assumption
        split at href
        · split at href
          · simp at href
          · cases hw : call.workload <;> simp [workloadName, hw] at href
        · simp at href
      globalLimit := fun call retryAfter href => by
        rw [← (hqueues call.workload).length_eq, ids, length_map]
        unfold enqueue at href
        split at href
        · cases hw : call.workload <;> simp [workloadName, hw] at href
        split at href
        · assumption
        · simp at href }

/-- A call that was dropped while it waited leaves an entry that is nobody's. -/
lemma Balanced.not_perm (h : sys.Balanced) (ha : a ∈ sys.calls) (hcancelled : a.cancelled) :
    ¬ (sys.scheduler.state.ids a.call.workload).Perm (sys.waitingIds a.call.workload) := by
  obtain ⟨call, phase⟩ := a
  obtain ⟨id, rfl⟩ : ∃ id, phase = .cancelled id := by
    cases phase with
    | cancelled id => exact ⟨id, rfl⟩
    | _ => cases hcancelled
  intro hperm
  have hcount := hperm.count_eq id
  rw [h.entries, count_waitingIds] at hcount
  -- every waiting call has an entry, and so has the dropped one
  obtain ⟨before, later, hcalls⟩ := append_of_mem ha
  have hmono : ∀ l : List Acquisition, l.countP (waitingIn call.workload id) ≤
      l.countP (entryIn call.workload id) := by
    refine fun l => countP_mono_left fun b _ hb => ?_
    obtain ⟨call', phase'⟩ := b
    cases phase' <;> simp_all [waitingIn, entryIn, Phase.waitingId, Phase.entryId]
  have hyes : entryIn call.workload id ⟨call, .cancelled id⟩ := by
    simp [entryIn, Phase.entryId]
  have hno : waitingIn call.workload id ⟨call, .cancelled id⟩ = false := by
    simp [waitingIn, Phase.waitingId]
  have h1 := hmono before
  have h2 := hmono later
  simp only [hcalls, countP_append, countP_cons, hyes, hno, if_true,
    Bool.false_eq_true, if_false] at hcount
  omega

end System

/-- **The books of the scheduler**: after every run, they agree with the calls if and only if no
event of the run dropped a call at its await point. -/
theorem bookkeeping_iff (config : LocalSchedulerConfig) (events : List SchedulerEvent) :
    (System.after config events).Bookkeeping config ↔
      ∀ earlier e later, events = earlier ++ e :: later →
        (System.after config earlier).drops e = false := by
  rw [← System.countP_cancelled_eq_zero_iff, countP_eq_zero]
  have hbalanced := System.Balanced.after config events
  constructor
  · intro hbooks a ha hcancelled
    exact hbalanced.not_perm ha hcancelled (hbooks.queues a.call.workload)
  · intro hnone
    exact hbalanced.bookkeeping config fun a ha => by simpa using hnone a ha

/-- **The permit is never lost or doubled**, whichever futures are dropped: it is free or one call
holds it, the running counts are the leases of the users, and the queues hold the calls that wait
or were dropped as they waited. -/
theorem permit_conserved (config : LocalSchedulerConfig) (events : List SchedulerEvent) :
    let sys := System.after config events
    sys.scheduler.permits + sys.calls.countP Acquisition.permit = 1 ∧
      (∀ u, sys.scheduler.state.runningByUser.get u = sys.calls.countP (Acquisition.leaseOf u)) ∧
      ∀ c id, (sys.scheduler.state.ids c).count id =
        sys.calls.countP (Acquisition.entryIn c id) := by
  have h := System.Balanced.after config events
  exact ⟨h.permits, h.running, h.entries⟩

/-- The limits that `from_env` insists on, and the default for batch requests. -/
def baselineScheduler : LocalSchedulerConfig where
  executingPerUser := 1
  queuedPerUser := 2
  globalInteractiveQueue := 16
  globalBatchQueue := 16
  overflowAfter := 5000000000
  strictWait := 60000000000

/-- A strict interactive call of a user. -/
def strictCall (userId : String) : AcquireCall where
  userId := userId
  mode := .localStrict
  workload := .interactive
  cloudAvailable := false

/-- One user runs; two calls of another user wait and are dropped at their await points; the
running request ends. -/
def droppedWhileWaiting : List SchedulerEvent :=
  [.arrive (strictCall "a"), .run 0, .run 0]
    ++ .arrive (strictCall "b") :: List.replicate 7 (.run 1)
    ++ .arrive (strictCall "b") :: List.replicate 6 (.run 2)
    ++ [.cancel 1, .cancel 2, .run 0, .run 0]

/-- Nobody runs or waits any more, yet the next call of that user that does not get the permit at
once is refused for two queued calls, and a call of any other user stands behind two entries that
nothing will ever remove. -/
theorem dropped_calls_fill_the_queue :
    let sys := System.after baselineScheduler droppedWhileWaiting
    (sys.calls.countP Acquisition.lease = 0 ∧ sys.waitingIds .interactive = []) ∧
      sys.scheduler.state.ids .interactive = [1, 2] ∧
      (enqueue baselineScheduler (strictCall "b") sys.scheduler).1 =
        .returned (.error (.rateLimited "per-user local queue limit exceeded (2 queued)" 4)) ∧
      ¬ sys.Bookkeeping baselineScheduler := by
  have hids : (System.after baselineScheduler droppedWhileWaiting).scheduler.state.ids
      .interactive = [1, 2] := by decide +kernel
  have hwaiting : (System.after baselineScheduler droppedWhileWaiting).waitingIds
      .interactive = [] := by decide +kernel
  have hretry : retryAfterSeconds
      (System.after baselineScheduler droppedWhileWaiting).scheduler.state.serviceTimeMs = 4 := by
    decide +kernel
  refine ⟨⟨by decide +kernel, hwaiting⟩, hids, ?_, fun hbooks => ?_⟩
  · rw [enqueue, if_pos (by decide +kernel), hretry]
  · have hperm := hbooks.queues .interactive
    rw [hids, hwaiting] at hperm
    simp at hperm

end ModelPort.Gateway

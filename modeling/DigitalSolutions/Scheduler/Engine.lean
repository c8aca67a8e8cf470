import DigitalSolutions.Foundation.Machine
import DigitalSolutions.Scheduler.Store

namespace DigitalSolutions
namespace Scheduler

open Foundation Persistence

/-!
# The scheduler engine

A worker is one call of the engine: a tick, a recovery, a single job, or an
operator's request.  It stands before one awaited statement at a time.  Any
number of workers run at once, any statement may throw before or after it has
taken effect, and any worker may stop for good.

`runJob` is called from inside the loops of a tick, so a worker inside
`runJob` carries what its caller has yet to do.
-/

structure RunJobInput where
  key : String
  trigger : Trigger
  scheduledFor : Option Time
  dryRun : Bool
  idempotencyKey : Option IdempotencyKey
  parentRunId : Option Draw

/-- A lock that a worker has acquired.  The instant of the acquisition is
only read by the results. -/
structure Lock where
  jobKey : String
  owner : Draw
  acquiredAt : Time

/-- What `runJob` works with once its run has been created. -/
structure Execution where
  job : ScheduledJob
  input : RunJobInput
  now : Time
  scheduledFor : Time
  run : ScheduledJobRun

/-- The statements of `runJob`. -/
inductive RunPoint
  | synchronizing (job : ScheduledJob) (input : RunJobInput) (now : Time) (rest : List ScheduledJob)
  | readingDefinition (job : ScheduledJob) (input : RunJobInput) (now : Time)
  | readingParent (job : ScheduledJob) (input : RunJobInput) (now : Time) (create : CreateRun)
  | creating (job : ScheduledJob) (input : RunJobInput) (now : Time) (create : CreateRun)
  | acquiring (execution : Execution)
  | markingConflict (execution : Execution)
  | reportingConflict (execution : Execution)
  /-- The lock is there; the clock is read next. -/
  | locked (execution : Execution) (lock : Lock)
  | starting (execution : Execution) (lock : Lock) (startedAt : Time)
  | handling (execution : Execution) (lock : Lock) (startedAt handlerStart : Time)
  | succeeding (execution : Execution) (lock : Lock) (startedAt completedAt : Time)
    (summary : JobSummary)
  | reportingSuccess (execution : Execution) (lock : Lock) (startedAt : Time)
  /-- The catch block. -/
  | failing (execution : Execution) (lock : Lock) (startedAt completedAt : Time) (message : String)
  | reportingFailure (execution : Execution) (lock : Lock) (retryable : Bool) (message : String)
  /-- The finally block. -/
  | releasing (lock : Lock) (rethrows : Bool)

/-- What follows `recoverAbandonedRuns`: nothing, or the rest of a tick. -/
inductive AfterRecovery
  | done
  | due (trigger : Trigger)

inductive Caller
  | alone
  | recovering (now : Time) (rest : List ScheduledJobRun) (after : AfterRecovery)
  | retrying (now : Time) (trigger : Trigger) (rest : List ScheduledJobRun)
  | scheduling (now : Time) (trigger : Trigger) (rest : List ScheduledJobDefinition)

/-- What follows `synchronizeJobs` outside `runJob`. -/
inductive AfterSynchronizing
  | due (trigger : Trigger)
  | enable (key : String) (enabled : Bool) (actorId : Id)

inductive Worker
  | running (point : RunPoint) (caller : Caller)
  | synchronizing (now : Time) (rest : List ScheduledJob) (after : AfterSynchronizing)
  | listingRunning (now : Time) (after : AfterRecovery)
  | abandoning (now : Time) (run : ScheduledJobRun) (startedAt : Time) (retryable : Bool)
    (rest : List ScheduledJobRun) (after : AfterRecovery)
  | reportingAbandoned (now : Time) (run : ScheduledJobRun) (retryable : Bool)
    (rest : List ScheduledJobRun) (after : AfterRecovery)
  | listingRetries (now : Time) (trigger : Trigger)
  | consuming (now : Time) (trigger : Trigger) (run : ScheduledJobRun) (rest : List ScheduledJobRun)
  | listingDue (now : Time) (trigger : Trigger)
  | enabling (key : String) (enabled : Bool) (actorId : Id)
  | reportingEnabled (key : String) (enabled : Bool) (actorId : Id)
  /-- The read of `acknowledgeFailure` and of `retryFailure`. -/
  | findingFailure (runId : Draw) (actorId : Id) (retries : Bool)
  | acknowledging (run : ScheduledJobRun) (actorId : Id)
  | reportingAcknowledged (run : ScheduledJobRun) (actorId : Id)
  | requestingRetry (run : ScheduledJobRun) (actorId : Id)

inductive SchedulerEvent
  | lockConflict (jobKey : String) (runId : Draw) (trigger : Trigger)
  | jobSucceeded (jobKey : String) (runId : Draw) (trigger : Trigger) (dryRun : Bool)
  | retryScheduled (jobKey : String) (runId : Draw) (errorCode : String) (failureClass : FailureClass)
    (attempt : Nat)
  | jobFailed (jobKey : String) (runId : Draw) (errorCode : String) (failureClass : FailureClass)
    (attempt : Nat)
  | jobAbandoned (jobKey : String) (runId : Draw) (retryable : Bool)
  | jobEnabled (actorId : Id) (jobKey : String)
  | jobDisabled (actorId : Id) (jobKey : String)
  | failureAcknowledged (actorId : Id) (runId : Draw) (jobKey : String)
  | retryRequested (actorId : Id) (runId : Draw) (jobKey : String)

/-- What the engine is wired to.  A lock provider forms the key of a lock by
putting a prefix before the key of the job. -/
structure Engine (Locks : Type) where
  registry : Registry
  locks : LeaseStore Locks String Draw
  lockPrefix : String

variable {Locks : Type}

def Engine.lockKey (engine : Engine Locks) (jobKey : String) : String := engine.lockPrefix ++ jobKey

/-- An engine whose locks are kept in memory, as outside production. -/
def memoryEngine (registry : Registry) : Engine (String -> Option (Draw × Int)) where
  registry
  locks := LeaseStore.ofMap
  lockPrefix := "bke:scheduler:lock:"

structure State (Locks : Type) where
  now : Time
  definitions : Definitions
  runs : Runs
  events : List SchedulerEvent
  locks : Locks
  workers : Nat -> Option Worker
  /-- What the next identifier will be. -/
  draws : Draw
  /-- The runs whose handler has been started, latest first. -/
  started : List Draw
  /-- Which worker has acquired a lock under which token. -/
  acquired : List (Draw × Nat)

def State.opening (now : Time) (locks : Locks) : State Locks :=
  ⟨now, Table.empty, Table.empty, [], locks, fun _ => none, 0, [], []⟩

/-! ## The loops between the statements -/

/-- `runJob` up to its first statement; `none` is SCHEDULED_JOB_NOT_FOUND. -/
def beginRun (registry : Registry) (clock : Time) (input : RunJobInput) (caller : Caller) :
    Option Worker :=
  (registry.get input.key).map (fun job =>
    .running (.synchronizing job input clock registry.jobs) caller)

/-- The automatic retry of a run. -/
def retryInput (now : Time) (run : ScheduledJobRun) : RunJobInput where
  key := run.jobKey
  trigger := .retry
  scheduledFor := some now
  dryRun := false
  idempotencyKey := some (.retry run.id (run.attempt + 1))
  parentRunId := some run.id

/-- The retry of a run that an operator asks for. -/
def manualRetryInput (now : Time) (run : ScheduledJobRun) (draw : Draw) : RunJobInput :=
  { retryInput now run with idempotencyKey := some (.manualRetry run.id draw) }

def afterRecovery (now : Time) : AfterRecovery -> Option Worker
  | .done => none
  | .due trigger => some (.listingRetries now trigger)

/-- The loop of `recoverAbandonedRuns`, up to the next abandoned run. -/
def recoverNext (registry : Registry) (now : Time) (after : AfterRecovery) :
    List ScheduledJobRun -> Option Worker
  | [] => afterRecovery now after
  | run :: rest =>
    match run.startedAt with
    | none => recoverNext registry now after rest
    | some startedAt =>
      match registry.get run.jobKey with
      | none => none
      | some job =>
        if now ≤ startedAt + milliseconds job.timeoutSeconds then recoverNext registry now after rest
        else some (.abandoning now run startedAt (run.attempt < job.maxAttempts) rest after)

def retryNext (now : Time) (trigger : Trigger) : List ScheduledJobRun -> Option Worker
  | [] => some (.listingDue now trigger)
  | run :: rest => some (.consuming now trigger run rest)

def dueInput (now : Time) (trigger : Trigger) (definition : ScheduledJobDefinition) : RunJobInput where
  key := definition.key
  trigger
  scheduledFor := some (scheduledWindow now definition.cadenceSeconds)
  dryRun := false
  idempotencyKey := none
  parentRunId := none

def dueNext (registry : Registry) (clock now : Time) (trigger : Trigger) :
    List ScheduledJobDefinition -> Option Worker
  | [] => none
  | definition :: rest =>
    beginRun registry clock (dueInput now trigger definition) (.scheduling now trigger rest)

/-- `runJob` has returned. -/
def resume (registry : Registry) (clock : Time) : Caller -> Option Worker
  | .alone => none
  | .recovering now rest after => recoverNext registry now after rest
  | .retrying now trigger rest => retryNext now trigger rest
  | .scheduling now trigger rest => dueNext registry clock now trigger rest

/-- The error code of the catch block decides whether the lock is released. -/
def releasesLock (message : String) : Bool := safeJobErrorCode message ≠ timeoutMessage

/-- The finally block of `runJob`. -/
def finish (registry : Registry) (clock : Time) (lock : Lock) (releases rethrows : Bool)
    (caller : Caller) : Option Worker :=
  if releases then some (.running (.releasing lock rethrows) caller)
  else if rethrows then none
  else resume registry clock caller

/-- `retryable` in the catch block. -/
def Execution.retryable (execution : Execution) (message : String) : Bool :=
  (classifyJobFailure message).retried && execution.run.attempt < execution.job.maxAttempts

def Execution.retryAt (execution : Execution) (completedAt : Time) (message : String) : Option Time :=
  if execution.retryable message then
    some (completedAt + retryDelayMs execution.run.attempt completedAt)
  else none

/-- Windows are scheduled by these two triggers. -/
def Trigger.windowed (trigger : Trigger) : Bool := trigger = .scheduled || trigger = .cron

/-- The row that `runJob` asks for, before the parent is known. -/
def newRun (job : ScheduledJob) (input : RunJobInput) (now : Time) (draws : Draw) : CreateRun :=
  let scheduledFor := input.scheduledFor.getD
    (if input.trigger.windowed then scheduledWindow now job.cadenceSeconds else now)
  { jobKey := job.key
    scheduledFor
    trigger := input.trigger
    dryRun := input.dryRun
    correlationId := draws
    idempotencyKey := input.idempotencyKey.getD
      (if input.trigger.windowed then .scheduled job.key scheduledFor input.dryRun
      else .triggered job.key input.trigger (draws + 1))
    parentRunId := input.parentRunId
    attempt := 1 }

/-! ## One statement -/

def State.emit (state : State Locks) (event : SchedulerEvent) : State Locks :=
  { state with events := event :: state.events }

def State.withRuns (state : State Locks) (runs : Option Runs) : Option (State Locks) :=
  runs.map (fun runs => { state with runs })

/-- The first job of a `synchronizeJobs` loop that is not finished. -/
def State.synchronizeFirst (state : State Locks) (now : Time) (rest : List ScheduledJob) : State Locks :=
  match rest with
  | [] => state
  | job :: _ =>
    { state with
      definitions := synchronizeDefinition job (scheduledWindow now job.cadenceSeconds) state.definitions }

/-- What a statement of `runJob` does to everything shared.  It is `none` when
the store itself throws. -/
def RunPoint.effect (engine : Engine Locks) (workerId : Nat) (state : State Locks) :
    RunPoint -> Option (State Locks)
  | .synchronizing _ _ now rest => some (state.synchronizeFirst now rest)
  | .readingDefinition job _ _ => if (state.definitions.lookup job.key).isSome then some state else none
  | .readingParent .. => some state
  | .creating _ _ _ create => state.withRuns ((createRun create state.draws state.runs).map Prod.fst)
  | .acquiring execution =>
    match engine.locks.acquire state.now (engine.lockKey execution.job.key)
        (milliseconds execution.job.lockSeconds) state.draws state.locks with
    | some locks => some { state with locks, acquired := (state.draws, workerId) :: state.acquired }
    | none => some state
  | .markingConflict execution =>
    state.withRuns (markLockConflict execution.run.id execution.now state.runs)
  | .reportingConflict execution =>
    some (state.emit (.lockConflict execution.job.key execution.run.id execution.input.trigger))
  | .locked .. => some state
  | .starting execution lock startedAt =>
    state.withRuns (markRunning execution.run.id startedAt lock.owner state.runs)
  | .handling .. => some state
  | .succeeding execution _ startedAt completedAt summary =>
    (state.withRuns (markSucceeded execution.run.id completedAt (completedAt - startedAt)
      (boundedJobSummary summary) state.runs)).map (fun next =>
        { next with
          definitions := definitionSucceeded execution.job.key completedAt
            (nextScheduledAt execution.scheduledFor execution.job.cadenceSeconds completedAt)
            next.definitions })
  | .reportingSuccess execution _ _ =>
    some (state.emit (.jobSucceeded execution.job.key execution.run.id execution.input.trigger
      execution.input.dryRun))
  | .failing execution _ startedAt completedAt message =>
    (state.withRuns (markFailed execution.run.id completedAt (completedAt - startedAt)
      (safeJobErrorCode message) (classifyJobFailure message) (execution.retryAt completedAt message)
      state.runs)).map (fun next =>
        { next with
          definitions := definitionFailed execution.job.key completedAt
            ((execution.retryAt completedAt message).getD
              (nextScheduledAt execution.scheduledFor execution.job.cadenceSeconds completedAt))
            next.definitions })
  | .reportingFailure execution _ retryable message =>
    some (state.emit (if retryable then
      .retryScheduled execution.job.key execution.run.id (safeJobErrorCode message)
        (classifyJobFailure message) execution.run.attempt
    else
      .jobFailed execution.job.key execution.run.id (safeJobErrorCode message)
        (classifyJobFailure message) execution.run.attempt))
  | .releasing lock _ =>
    some { state with
      locks := engine.locks.release (engine.lockKey lock.jobKey) lock.owner state.locks }

/-- Where `runJob` goes after a statement that went through, seen from the
state that the statement met. -/
def RunPoint.next (engine : Engine Locks) (state : State Locks) (caller : Caller) :
    RunPoint -> Option Worker
  | .synchronizing job input now rest =>
    if rest.length ≤ 1 then some (.running (.readingDefinition job input now) caller)
    else some (.running (.synchronizing job input now (rest.drop 1)) caller)
  | .readingDefinition job input now =>
    match state.definitions.lookup job.key with
    | none => none
    | some definition =>
      if definition.enabled = false then resume engine.registry state.now caller
      else if input.dryRun && !job.dryRunSupported then none
      else if input.parentRunId.isSome then
        some (.running (.readingParent job input now (newRun job input now state.draws)) caller)
      else some (.running (.creating job input now (newRun job input now state.draws)) caller)
  | .readingParent job input now create =>
    let parent := input.parentRunId.bind (fun runId => getRun runId state.runs)
    some (.running (.creating job input now
      { create with attempt := (parent.map ScheduledJobRun.attempt).getD 0 + 1 }) caller)
  | .creating job input now create =>
    match createRun create state.draws state.runs with
    | some (_, true) =>
      some (.running (.acquiring ⟨job, input, now, create.scheduledFor, create.row state.draws⟩) caller)
    | _ => resume engine.registry state.now caller
  | .acquiring execution =>
    match engine.locks.acquire state.now (engine.lockKey execution.job.key)
        (milliseconds execution.job.lockSeconds) state.draws state.locks with
    | some _ => some (.running (.locked execution ⟨execution.job.key, state.draws, state.now⟩) caller)
    | none => some (.running (.markingConflict execution) caller)
  | .markingConflict execution => some (.running (.reportingConflict execution) caller)
  | .reportingConflict _ => resume engine.registry state.now caller
  | .locked execution lock => some (.running (.starting execution lock state.now) caller)
  | .starting execution lock startedAt =>
    some (.running (.handling execution lock startedAt state.now) caller)
  | .handling execution lock startedAt handlerStart =>
    some (.running (.handling execution lock startedAt handlerStart) caller)
  | .succeeding execution lock startedAt _ _ =>
    if execution.job.auditPolicy = .all || execution.input.trigger = .manual then
      some (.running (.reportingSuccess execution lock startedAt) caller)
    else finish engine.registry state.now lock true false caller
  | .reportingSuccess _ lock _ => finish engine.registry state.now lock true false caller
  | .failing execution lock _ _ message =>
    some (.running (.reportingFailure execution lock (execution.retryable message) message) caller)
  | .reportingFailure _ lock _ message =>
    finish engine.registry state.now lock (releasesLock message) false caller
  | .releasing _ rethrows => if rethrows then none else resume engine.registry state.now caller

/-- Where `runJob` goes after a statement that threw. -/
def RunPoint.thrown (engine : Engine Locks) (state : State Locks) (caller : Caller) (message : String) :
    RunPoint -> Option Worker
  | .succeeding execution lock startedAt _ _ | .reportingSuccess execution lock startedAt =>
    some (.running (.failing execution lock startedAt state.now message) caller)
  | .failing _ lock _ _ original | .reportingFailure _ lock _ original =>
    finish engine.registry state.now lock (releasesLock original) true caller
  | .releasing _ rethrows => if rethrows then none else resume engine.registry state.now caller
  | _ => none

def Worker.effect (engine : Engine Locks) (workerId : Nat) (state : State Locks) :
    Worker -> Option (State Locks)
  | .running point _ => point.effect engine workerId state
  | .synchronizing now rest _ => some (state.synchronizeFirst now rest)
  | .listingRunning .. | .listingRetries .. | .listingDue .. | .findingFailure .. => some state
  | .abandoning now run startedAt _ _ _ =>
    state.withRuns (markAbandoned run.id now (now - startedAt) state.runs)
  | .reportingAbandoned _ run retryable _ _ =>
    some (state.emit (.jobAbandoned run.jobKey run.id retryable))
  | .consuming _ _ run _ => some { state with runs := consumeRetrySource run.id state.runs }
  | .enabling key enabled _ =>
    (setEnabled key enabled (if enabled then some state.now else none) state.definitions).map
      (fun definitions => { state with definitions })
  | .reportingEnabled key enabled actorId =>
    some (state.emit (if enabled then .jobEnabled actorId key else .jobDisabled actorId key))
  | .acknowledging run actorId => state.withRuns (acknowledgeFailure run.id actorId state.now state.runs)
  | .reportingAcknowledged run actorId =>
    some (state.emit (.failureAcknowledged actorId run.id run.jobKey))
  | .requestingRetry run actorId => some (state.emit (.retryRequested actorId run.id run.jobKey))

/-- The states of a run that an operator may retry or acknowledge. -/
def failureStates (retries : Bool) : List RunStatus :=
  if retries then [.failed, .abandoned, .retrying] else [.failed, .abandoned]

def Worker.next (engine : Engine Locks) (state : State Locks) : Worker -> Option Worker
  | .running point caller => point.next engine state caller
  | .synchronizing now rest after =>
    if rest.length ≤ 1 then
      match after with
      | .due trigger => some (.listingRunning now (.due trigger))
      | .enable key enabled actorId => some (.enabling key enabled actorId)
    else some (.synchronizing now (rest.drop 1) after)
  | .listingRunning now after => recoverNext engine.registry now after (listRunning 100 state.runs)
  | .abandoning now run _ retryable rest after => some (.reportingAbandoned now run retryable rest after)
  | .reportingAbandoned now run retryable rest after =>
    if retryable then
      beginRun engine.registry state.now (retryInput now run) (.recovering now rest after)
    else recoverNext engine.registry now after rest
  | .listingRetries now trigger => retryNext now trigger (listDueRetries now 20 state.runs)
  | .consuming now trigger run rest =>
    if consumesRetrySource run.id state.runs then
      beginRun engine.registry state.now (retryInput now run) (.retrying now trigger rest)
    else retryNext now trigger rest
  | .listingDue now trigger =>
    dueNext engine.registry state.now now trigger (listDueDefinitions now 50 state.definitions)
  | .enabling key enabled actorId => some (.reportingEnabled key enabled actorId)
  | .reportingEnabled .. | .reportingAcknowledged .. => none
  | .findingFailure runId actorId retries =>
    match getRun runId state.runs with
    | none => none
    | some run =>
      if run.status ∈ failureStates retries then
        some (if retries then .requestingRetry run actorId else .acknowledging run actorId)
      else none
  | .acknowledging run actorId => some (.reportingAcknowledged run actorId)
  | .requestingRetry run _ =>
    beginRun engine.registry state.now (manualRetryInput state.now run state.draws) .alone

def Worker.thrown (engine : Engine Locks) (state : State Locks) (message : String) :
    Worker -> Option Worker
  | .running point caller => point.thrown engine state caller message
  | _ => none

/-- The run whose handler is called right after a statement. -/
def Worker.starts : Worker -> Option Draw
  | .running (.starting execution _ _) _ => some execution.run.id
  | _ => none

/-! ## The machine -/

inductive SchedulerAction
  | runJob (workerId : Nat) (key : String) (trigger : Trigger) (dryRun : Bool)
  | runDueJobs (workerId : Nat) (trigger : Trigger)
  | recoverAbandonedRuns (workerId : Nat)
  | setJobEnabled (workerId : Nat) (key : String) (enabled : Bool) (actorId : Id)
  | acknowledgeFailure (workerId : Nat) (runId : Draw) (actorId : Id)
  | retryFailure (workerId : Nat) (runId : Draw) (actorId : Id)
  /-- The statement a worker stands before goes through. -/
  | advance (workerId : Nat)
  /-- It throws, after it has taken effect or before. -/
  | throws (workerId : Nat) (message : String) (committed : Bool)
  | handlerReturns (workerId : Nat) (summary : JobSummary)
  | handlerThrows (workerId : Nat) (message : String)
  /-- The timer of a handler fires. -/
  | timeout (workerId : Nat)
  /-- The process of a worker stops. -/
  | crash (workerId : Nat)
  | pass (later : Time)

/-- The statement that a call of the engine stands before. -/
def SchedulerAction.call (registry : Registry) (clock : Time) : SchedulerAction -> Option (Nat × Worker)
  | .runJob workerId key trigger dryRun =>
    (beginRun registry clock ⟨key, trigger, none, dryRun, none, none⟩ .alone).map (workerId, ·)
  | .runDueJobs workerId trigger => some (workerId, .synchronizing clock registry.jobs (.due trigger))
  | .recoverAbandonedRuns workerId => some (workerId, .listingRunning clock .done)
  | .setJobEnabled workerId key enabled actorId =>
    (registry.get key).map (fun _ =>
      (workerId, .synchronizing clock registry.jobs (.enable key enabled actorId)))
  | .acknowledgeFailure workerId runId actorId => some (workerId, .findingFailure runId actorId false)
  | .retryFailure workerId runId actorId => some (workerId, .findingFailure runId actorId true)
  | _ => none

namespace State

def place (state : State Locks) (workerId : Nat) (worker : Option Worker) : State Locks :=
  { state with workers := Function.update state.workers workerId worker, draws := state.draws + 2 }

def begun (state : State Locks) (runId : Option Draw) : State Locks :=
  { state with started := runId.toList ++ state.started }

end State

def advance (engine : Engine Locks) (workerId : Nat) (state : State Locks) (worker : Worker) :
    State Locks :=
  match worker.effect engine workerId state with
  | some done => (done.begun worker.starts).place workerId (worker.next engine state)
  | none => state.place workerId (worker.thrown engine state "No record was found")

def throwFrom (engine : Engine Locks) (workerId : Nat) (state : State Locks) (worker : Worker)
    (message : String) (committed : Bool) : State Locks :=
  if committed then
    ((worker.effect engine workerId state).getD state).place workerId (worker.thrown engine state message)
  else state.place workerId (worker.thrown engine state message)

/-- A worker that only reads the clock, or waits for its handler, has no
statement that could throw. -/
def Worker.awaits : Worker -> Bool
  | .running (.locked ..) _ | .running (.handling ..) _ => false
  | _ => true

inductive Refusal
  | refused
  deriving DecidableEq

def schedulerStep (engine : Engine Locks) (state : State Locks) :
    SchedulerAction -> Except Refusal (State Locks)
  | .advance workerId =>
    match state.workers workerId with
    | some (.running (.handling ..) _) => .error .refused
    | some worker => .ok (advance engine workerId state worker)
    | none => .error .refused
  | .throws workerId message committed =>
    match state.workers workerId with
    | some worker =>
      if worker.awaits then .ok (throwFrom engine workerId state worker message committed)
      else .error .refused
    | none => .error .refused
  | .handlerReturns workerId summary =>
    match state.workers workerId with
    | some (.running (.handling execution lock startedAt _) caller) =>
      .ok (state.place workerId
        (some (.running (.succeeding execution lock startedAt state.now summary) caller)))
    | _ => .error .refused
  | .handlerThrows workerId message =>
    match state.workers workerId with
    | some (.running (.handling execution lock startedAt _) caller) =>
      .ok (state.place workerId
        (some (.running (.failing execution lock startedAt state.now message) caller)))
    | _ => .error .refused
  | .timeout workerId =>
    match state.workers workerId with
    | some (.running (.handling execution lock startedAt handlerStart) caller) =>
      if handlerStart + milliseconds execution.job.timeoutSeconds ≤ state.now then
        .ok (state.place workerId
          (some (.running (.failing execution lock startedAt state.now timeoutMessage) caller)))
      else .error .refused
    | _ => .error .refused
  | .crash workerId => .ok (state.place workerId none)
  | .pass later => if state.now ≤ later then .ok { state with now := later } else .error .refused
  | action =>
    match action.call engine.registry state.now with
    | none => .error .refused
    | some (workerId, worker) =>
      if (state.workers workerId).isSome then .error .refused
      else .ok (state.place workerId (some worker))

/-- The scheduler of an engine. -/
def scheduler (engine : Engine Locks) : Machine (State Locks) SchedulerAction Refusal where
  step := schedulerStep engine

/-- The scheduler with one job, from an empty history. -/
def paymentOperationsRun (actions : List SchedulerAction) : State (String -> Option (Draw × Int)) :=
  (scheduler (memoryEngine paymentOperationsRegistry)).run (State.opening 1000000000 (fun _ => none))
    actions

/-- A tick that calls the handler of the only job. -/
def handledTick : List SchedulerAction := .runDueJobs 0 .cron :: List.replicate 10 (.advance 0)

end Scheduler
end DigitalSolutions

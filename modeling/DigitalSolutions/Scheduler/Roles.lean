import DigitalSolutions.Scheduler.Steps

namespace DigitalSolutions
namespace Scheduler

open Foundation Persistence

/-!
# The roles of a worker

The results look at a worker through a few roles: the run it executes, the run
whose child it is about to create, the lock it has acquired, the runs it has
listed.  This module says how the roles move from one statement to the next,
and from one state of the scheduler to the next.
-/

variable {Locks : Type} {engine : Engine Locks} {before after : State Locks}
variable {action : SchedulerAction} {worker later : Worker}
variable {registry : Registry} {input : RunJobInput} {caller : Caller} {job : ScheduledJob}
variable {clock now : Time} {point point' : RunPoint} {create : CreateRun} {id : Nat}

/-! ## Roles of a worker -/

/-- The run whose handler the worker is about to call, has called, or whose
outcome it may yet record. -/
def Worker.executes : Worker -> Option Execution
  | .running (.acquiring execution) _ | .running (.markingConflict execution) _
  | .running (.locked execution _) _ | .running (.starting execution _ _) _
  | .running (.handling execution _ _ _) _ | .running (.succeeding execution _ _ _ _) _
  | .running (.reportingSuccess execution _ _) _ | .running (.failing execution _ _ _ _) _ =>
    some execution
  | _ => none

/-- The run whose handler the worker has yet to call. -/
def Worker.prepares : Worker -> Option Execution
  | .running (.acquiring execution) _ | .running (.markingConflict execution) _
  | .running (.locked execution _) _ | .running (.starting execution _ _) _ => some execution
  | _ => none

/-- The call of `runJob` that has not created its run yet. -/
def Worker.requests : Worker -> Option (ScheduledJob × RunJobInput)
  | .running (.synchronizing job input _ _) _ | .running (.readingDefinition job input _) _
  | .running (.readingParent job input _ _) _ | .running (.creating job input _ _) _ => some (job, input)
  | _ => none

/-- The call of `runJob` whose row is written out already. -/
def Worker.drafts : Worker -> Option (ScheduledJob × RunJobInput × Time × CreateRun)
  | .running (.readingParent job input now create) _ | .running (.creating job input now create) _ =>
    some (job, input, now, create)
  | _ => none

/-- The execution that a worker inside `runJob` knows of. -/
def Worker.execution : Worker -> Option Execution
  | .running (.reportingConflict execution) _ | .running (.reportingFailure execution _ _ _) _ =>
    some execution
  | worker => worker.executes

/-- The run whose child the worker is about to create. -/
def Worker.bears : Worker -> Option Draw
  | .reportingAbandoned _ run true _ _ => some run.id
  | .requestingRetry run _ => some run.id
  | worker => worker.requests.bind (fun request => request.2.parentRunId)

/-- The lock that the worker has not released yet. -/
def Worker.holds : Worker -> Option Lock
  | .running (.locked _ lock) _ | .running (.starting _ lock _) _ | .running (.handling _ lock _ _) _
  | .running (.succeeding _ lock _ _ _) _ | .running (.reportingSuccess _ lock _) _
  | .running (.failing _ lock _ _ _) _ | .running (.reportingFailure _ lock _ _) _
  | .running (.releasing lock _) _ => some lock
  | _ => none

/-- The runs that a caller has listed and not come to. -/
def Caller.listed : Caller -> List ScheduledJobRun
  | .recovering _ rest _ | .retrying _ _ rest => rest
  | .alone | .scheduling .. => []

/-- The runs that the worker has listed and may still abandon or retry. -/
def Worker.listed : Worker -> List ScheduledJobRun
  | .running _ caller => caller.listed
  | .abandoning _ run _ _ rest _ => run :: rest
  | .reportingAbandoned _ _ _ rest _ => rest
  | .consuming _ _ run rest => run :: rest
  | _ => []

def AfterRecovery.tick : AfterRecovery -> Option Trigger
  | .done => none
  | .due trigger => some trigger

def Caller.tick : Caller -> Option Trigger
  | .alone => none
  | .recovering _ _ next => next.tick
  | .retrying _ trigger _ | .scheduling _ trigger _ => some trigger

/-- The trigger of the tick that the worker is part of. -/
def Worker.tick : Worker -> Option Trigger
  | .running _ caller => caller.tick
  | .synchronizing _ _ (.due trigger) => some trigger
  | .listingRunning _ next | .abandoning _ _ _ _ _ next | .reportingAbandoned _ _ _ _ next => next.tick
  | .listingRetries _ trigger | .consuming _ trigger _ _ | .listingDue _ trigger => some trigger
  | _ => none

/-- The run that the worker looks up for an operator who wants a retry. -/
def Worker.searches : Worker -> Option Draw
  | .findingFailure runId _ true => some runId
  | _ => none

/-- Nothing is executed, borne or held between two calls of `runJob`. -/
structure Idle (worker : Worker) : Prop where
  execution : worker.execution = none
  drafts : worker.drafts = none
  bears : worker.bears = none
  holds : worker.holds = none

theorem recoverNext_eq_some {next : AfterRecovery} {runs : List ScheduledJobRun}
    (found : recoverNext registry now next runs = some later) :
    (Exists fun trigger => next = .due trigger ∧ later = .listingRetries now trigger) ∨
    Exists fun run => Exists fun startedAt => Exists fun rest => Exists fun job =>
      run ∈ runs ∧ (forall other, other ∈ rest -> other ∈ runs) ∧
        run.startedAt = some startedAt ∧ registry.get run.jobKey = some job ∧
        later = .abandoning now run startedAt (run.attempt < job.maxAttempts) rest next := by
  induction runs with
  | nil =>
    cases next with
    | done => cases found
    | due trigger =>
      cases found
      exact Or.inl ⟨trigger, rfl, rfl⟩
  | cons run rest inductionHypothesis =>
    have skipped : recoverNext registry now next rest = some later ->
        (Exists fun trigger => next = .due trigger ∧ later = .listingRetries now trigger) ∨
        Exists fun other => Exists fun startedAt => Exists fun others => Exists fun job =>
          other ∈ run :: rest ∧ (forall one, one ∈ others -> one ∈ run :: rest) ∧
            other.startedAt = some startedAt ∧ registry.get other.jobKey = some job ∧
            later = .abandoning now other startedAt (other.attempt < job.maxAttempts) others next := by
      intro passes
      rcases inductionHypothesis passes with listing | ⟨other, startedAt, others, job, member, fewer, facts⟩
      · exact Or.inl listing
      · exact Or.inr ⟨other, startedAt, others, job, List.mem_cons_of_mem _ member,
          fun one listed => List.mem_cons_of_mem _ (fewer one listed), facts⟩
    rw [recoverNext] at found
    split at found
    · exact skipped found
    · rename_i startedAt started
      split at found
      · cases found
      · rename_i job registered
        split at found
        · exact skipped found
        · cases found
          exact Or.inr ⟨run, startedAt, rest, job, List.mem_cons_self,
            fun other member => List.mem_cons_of_mem _ member, started, registered, rfl⟩

theorem beginRun_eq_some (found : beginRun registry clock input caller = some later) :
    Exists fun job => registry.get input.key = some job ∧
      later = .running (.synchronizing job input clock registry.jobs) caller := by
  rw [beginRun, Option.map_eq_some_iff] at found
  rcases found with ⟨job, registered, same⟩
  exact ⟨job, registered, same.symm⟩

/-- What the callers of `runJob` go on to. -/
inductive Resumed (registry : Registry) (clock : Time) (listed : List ScheduledJobRun)
    (tick : Option Trigger) : Worker -> Prop
  | abandoning (now : Time) (run : ScheduledJobRun) (startedAt : Time) (rest : List ScheduledJobRun)
    (next : AfterRecovery) (job : ScheduledJob) (member : run ∈ listed)
    (fewer : forall other, other ∈ rest -> other ∈ listed)
    (registered : registry.get run.jobKey = some job) (same : next.tick = tick) :
    Resumed registry clock listed tick
      (.abandoning now run startedAt (run.attempt < job.maxAttempts) rest next)
  | listingRetries (now : Time) (trigger : Trigger) (same : some trigger = tick) :
    Resumed registry clock listed tick (.listingRetries now trigger)
  | consuming (now : Time) (trigger : Trigger) (run : ScheduledJobRun) (rest : List ScheduledJobRun)
    (all : listed = run :: rest) (same : some trigger = tick) :
    Resumed registry clock listed tick (.consuming now trigger run rest)
  | listingDue (now : Time) (trigger : Trigger) (same : some trigger = tick) :
    Resumed registry clock listed tick (.listingDue now trigger)
  | scheduling (now : Time) (trigger : Trigger) (definition : ScheduledJobDefinition)
    (rest : List ScheduledJobDefinition) (job : ScheduledJob)
    (registered : registry.get definition.key = some job) (same : some trigger = tick) :
    Resumed registry clock listed tick
      (.running (.synchronizing job (dueInput now trigger definition) clock registry.jobs)
        (.scheduling now trigger rest))

theorem resumed_of_recoverNext (clock : Time) {next : AfterRecovery} {runs : List ScheduledJobRun}
    (found : recoverNext registry now next runs = some later) :
    Resumed registry clock runs next.tick later := by
  rcases recoverNext_eq_some found with ⟨trigger, rfl, rfl⟩ |
    ⟨run, startedAt, rest, job, member, fewer, _, registered, rfl⟩
  · exact .listingRetries now trigger rfl
  · exact .abandoning now run startedAt rest next job member fewer registered rfl

theorem resumed_of_retryNext (registry : Registry) (clock : Time) {trigger : Trigger}
    {runs : List ScheduledJobRun} (found : retryNext now trigger runs = some later) :
    Resumed registry clock runs (some trigger) later := by
  cases runs with
  | nil =>
    cases found
    exact .listingDue now trigger rfl
  | cons run rest =>
    cases found
    exact .consuming now trigger run rest rfl rfl

theorem resumed_of_dueNext {trigger : Trigger} (listed : List ScheduledJobRun)
    {definitions : List ScheduledJobDefinition}
    (found : dueNext registry clock now trigger definitions = some later) :
    Resumed registry clock listed (some trigger) later := by
  cases definitions with
  | nil => cases found
  | cons definition rest =>
    rcases beginRun_eq_some found with ⟨job, registered, rfl⟩
    exact .scheduling now trigger definition rest job registered rfl

theorem resume_eq_some (found : resume registry clock caller = some later) :
    Resumed registry clock caller.listed caller.tick later := by
  cases caller with
  | alone => cases found
  | recovering now rest next => exact resumed_of_recoverNext clock found
  | retrying now trigger rest => exact resumed_of_retryNext registry clock found
  | scheduling now trigger rest => exact resumed_of_dueNext [] found

theorem Resumed.idle {listed : List ScheduledJobRun} {tick : Option Trigger}
    (resumed : Resumed registry clock listed tick worker) : Idle worker := by
  cases resumed with
  | abandoning => exact ⟨rfl, rfl, rfl, rfl⟩
  | listingRetries => exact ⟨rfl, rfl, rfl, rfl⟩
  | consuming => exact ⟨rfl, rfl, rfl, rfl⟩
  | listingDue => exact ⟨rfl, rfl, rfl, rfl⟩
  | scheduling => exact ⟨rfl, rfl, rfl, rfl⟩

theorem Resumed.listed {listed : List ScheduledJobRun} {tick : Option Trigger}
    (resumed : Resumed registry clock listed tick worker) :
    forall run, run ∈ worker.listed -> run ∈ listed := by
  cases resumed with
  | abandoning now run startedAt rest next job member fewer registered same =>
    intro other listed
    rcases List.mem_cons.mp listed with rfl | inRest
    · exact member
    · exact fewer other inRest
  | consuming now trigger run rest all same =>
    intro other listed
    rw [all]
    exact listed
  | listingRetries => intro other impossible; cases impossible
  | listingDue => intro other impossible; cases impossible
  | scheduling => intro other impossible; cases impossible

/-- After the finally block, the lock is still to be released, or the caller
goes on. -/
theorem finish_eq_some {lock : Lock} {releases rethrows : Bool}
    (found : finish registry clock lock releases rethrows caller = some later) :
    later = .running (.releasing lock rethrows) caller ∨ Resumed registry clock caller.listed caller.tick later := by
  unfold finish at found
  split at found
  · cases found
    exact Or.inl rfl
  · split at found
    · cases found
    · exact Or.inr (resume_eq_some found)

theorem Resumed.tick {listed : List ScheduledJobRun} {tick : Option Trigger}
    (resumed : Resumed registry clock listed tick worker) :
    worker.tick = tick := by
  cases resumed with
  | abandoning now run startedAt rest next job member fewer registered same => exact same
  | listingRetries now trigger same => exact same
  | consuming now trigger run rest all same => exact same
  | listingDue now trigger same => exact same
  | scheduling now trigger definition rest job registered same => exact same

/-! ## From statement to statement -/

/-- The order of the statements of `runJob`. -/
inductive Follows (engine : Engine Locks) (state : State Locks) : RunPoint -> RunPoint -> Prop
  | synchronizing (job : ScheduledJob) (input : RunJobInput) (now : Time) (rest : List ScheduledJob) :
    Follows engine state (.synchronizing job input now rest) (.synchronizing job input now (rest.drop 1))
  | synchronized (job : ScheduledJob) (input : RunJobInput) (now : Time) (rest : List ScheduledJob) :
    Follows engine state (.synchronizing job input now rest) (.readingDefinition job input now)
  | child (job : ScheduledJob) (input : RunJobInput) (now : Time)
    (parented : input.parentRunId.isSome = true) :
    Follows engine state (.readingDefinition job input now)
      (.readingParent job input now (newRun job input now state.draws))
  | root (job : ScheduledJob) (input : RunJobInput) (now : Time) (parentless : input.parentRunId = none) :
    Follows engine state (.readingDefinition job input now)
      (.creating job input now (newRun job input now state.draws))
  | parented (job : ScheduledJob) (input : RunJobInput) (now : Time) (create : CreateRun) :
    Follows engine state (.readingParent job input now create)
      (.creating job input now
        { create with
          attempt := ((input.parentRunId.bind (fun runId => getRun runId state.runs)).map
            ScheduledJobRun.attempt).getD 0 + 1 })
  | created (job : ScheduledJob) (input : RunJobInput) (now : Time) (create : CreateRun) (runs : Runs)
    (done : createRun create state.draws state.runs = some (runs, true)) :
    Follows engine state (.creating job input now create)
      (.acquiring ⟨job, input, now, create.scheduledFor, create.row state.draws⟩)
  | acquired (execution : Execution) (locks : Locks)
    (done : engine.locks.acquire state.now (engine.lockKey execution.job.key)
      (milliseconds execution.job.lockSeconds) state.draws state.locks = some locks) :
    Follows engine state (.acquiring execution)
      (.locked execution ⟨execution.job.key, state.draws, state.now⟩)
  | conflicting (execution : Execution)
    (refused : engine.locks.acquire state.now (engine.lockKey execution.job.key)
      (milliseconds execution.job.lockSeconds) state.draws state.locks = none) :
    Follows engine state (.acquiring execution) (.markingConflict execution)
  | conflicted (execution : Execution) :
    Follows engine state (.markingConflict execution) (.reportingConflict execution)
  | clocked (execution : Execution) (lock : Lock) :
    Follows engine state (.locked execution lock) (.starting execution lock state.now)
  | started (execution : Execution) (lock : Lock) (startedAt : Time) :
    Follows engine state (.starting execution lock startedAt)
      (.handling execution lock startedAt state.now)
  | waiting (execution : Execution) (lock : Lock) (startedAt handlerStart : Time) :
    Follows engine state (.handling execution lock startedAt handlerStart)
      (.handling execution lock startedAt handlerStart)
  | succeeded (execution : Execution) (lock : Lock) (startedAt completedAt : Time)
    (summary : JobSummary) :
    Follows engine state (.succeeding execution lock startedAt completedAt summary)
      (.reportingSuccess execution lock startedAt)
  | settled (execution : Execution) (lock : Lock) (startedAt completedAt : Time)
    (summary : JobSummary) :
    Follows engine state (.succeeding execution lock startedAt completedAt summary) (.releasing lock false)
  | reported (execution : Execution) (lock : Lock) (startedAt : Time) :
    Follows engine state (.reportingSuccess execution lock startedAt) (.releasing lock false)
  | failed (execution : Execution) (lock : Lock) (startedAt completedAt : Time) (message : String) :
    Follows engine state (.failing execution lock startedAt completedAt message)
      (.reportingFailure execution lock (execution.retryable message) message)
  | reportedFailure (execution : Execution) (lock : Lock) (retryable : Bool) (message : String) :
    Follows engine state (.reportingFailure execution lock retryable message) (.releasing lock false)

theorem RunPoint.next_cases (next : point.next engine before caller = some later) :
    (Exists fun point' => later = .running point' caller ∧ Follows engine before point point') ∨
    Resumed engine.registry before.now caller.listed caller.tick later := by
  cases point with
  | synchronizing job input now rest =>
    rw [RunPoint.next] at next
    split at next
    · cases next
      exact Or.inl ⟨_, rfl, .synchronized job input now rest⟩
    · cases next
      exact Or.inl ⟨_, rfl, .synchronizing job input now rest⟩
  | readingDefinition job input now =>
    rw [RunPoint.next] at next
    split at next
    · cases next
    · split at next
      · exact Or.inr (resume_eq_some next)
      · split at next
        · cases next
        · split at next
          · rename_i parented
            cases next
            exact Or.inl ⟨_, rfl, .child job input now parented⟩
          · rename_i parentless
            cases next
            exact Or.inl ⟨_, rfl, .root job input now (by simpa using parentless)⟩
  | readingParent job input now create =>
    cases next
    exact Or.inl ⟨_, rfl, .parented job input now create⟩
  | creating job input now create =>
    rw [RunPoint.next] at next
    split at next
    · rename_i runs done
      cases next
      exact Or.inl ⟨_, rfl, .created job input now create runs done⟩
    · exact Or.inr (resume_eq_some next)
  | acquiring execution =>
    rw [RunPoint.next] at next
    split at next
    · rename_i locks done
      cases next
      exact Or.inl ⟨_, rfl, .acquired execution locks done⟩
    · rename_i refused
      cases next
      exact Or.inl ⟨_, rfl, .conflicting execution refused⟩
  | markingConflict execution =>
    cases next
    exact Or.inl ⟨_, rfl, .conflicted execution⟩
  | reportingConflict execution => exact Or.inr (resume_eq_some next)
  | locked execution lock =>
    cases next
    exact Or.inl ⟨_, rfl, .clocked execution lock⟩
  | starting execution lock startedAt =>
    cases next
    exact Or.inl ⟨_, rfl, .started execution lock startedAt⟩
  | handling execution lock startedAt handlerStart =>
    cases next
    exact Or.inl ⟨_, rfl, .waiting execution lock startedAt handlerStart⟩
  | succeeding execution lock startedAt completedAt summary =>
    rw [RunPoint.next] at next
    split at next
    · cases next
      exact Or.inl ⟨_, rfl, .succeeded execution lock startedAt completedAt summary⟩
    · rcases finish_eq_some next with rfl | resumed
      · exact Or.inl ⟨_, rfl, .settled execution lock startedAt completedAt summary⟩
      · exact Or.inr resumed
  | reportingSuccess execution lock startedAt =>
    rcases finish_eq_some next with rfl | resumed
    · exact Or.inl ⟨_, rfl, .reported execution lock startedAt⟩
    · exact Or.inr resumed
  | failing execution lock startedAt completedAt message =>
    cases next
    exact Or.inl ⟨_, rfl, .failed execution lock startedAt completedAt message⟩
  | reportingFailure execution lock retryable message =>
    rcases finish_eq_some next with rfl | resumed
    · exact Or.inl ⟨_, rfl, .reportedFailure execution lock retryable message⟩
    · exact Or.inr resumed
  | releasing lock rethrows =>
    rw [RunPoint.next] at next
    split at next
    · cases next
    · exact Or.inr (resume_eq_some next)

/-- Where an exception leads. -/
inductive Catches (state : State Locks) (message : String) : RunPoint -> RunPoint -> Prop
  | succeeding (execution : Execution) (lock : Lock) (startedAt completedAt : Time)
    (summary : JobSummary) :
    Catches state message (.succeeding execution lock startedAt completedAt summary)
      (.failing execution lock startedAt state.now message)
  | reportingSuccess (execution : Execution) (lock : Lock) (startedAt : Time) :
    Catches state message (.reportingSuccess execution lock startedAt)
      (.failing execution lock startedAt state.now message)
  | failing (execution : Execution) (lock : Lock) (startedAt completedAt : Time) (original : String) :
    Catches state message (.failing execution lock startedAt completedAt original) (.releasing lock true)
  | reportingFailure (execution : Execution) (lock : Lock) (retryable : Bool) (original : String) :
    Catches state message (.reportingFailure execution lock retryable original) (.releasing lock true)

theorem RunPoint.thrown_cases {message : String}
    (thrown : point.thrown engine before caller message = some later) :
    (Exists fun point' => later = .running point' caller ∧ Catches before message point point') ∨
    Resumed engine.registry before.now caller.listed caller.tick later := by
  cases point with
  | succeeding execution lock startedAt completedAt summary =>
    cases thrown
    exact Or.inl ⟨_, rfl, .succeeding execution lock startedAt completedAt summary⟩
  | reportingSuccess execution lock startedAt =>
    cases thrown
    exact Or.inl ⟨_, rfl, .reportingSuccess execution lock startedAt⟩
  | failing execution lock startedAt completedAt original =>
    rcases finish_eq_some thrown with rfl | resumed
    · exact Or.inl ⟨_, rfl, .failing execution lock startedAt completedAt original⟩
    · exact Or.inr resumed
  | reportingFailure execution lock retryable original =>
    rcases finish_eq_some thrown with rfl | resumed
    · exact Or.inl ⟨_, rfl, .reportingFailure execution lock retryable original⟩
    · exact Or.inr resumed
  | releasing lock rethrows =>
    rw [RunPoint.thrown] at thrown
    split at thrown
    · cases thrown
    · exact Or.inr (resume_eq_some thrown)
  | _ => cases thrown

/-! ## How the roles move -/

/-- What a new call of `runJob` asks for. -/
inductive Asked (state : State Locks) (worker : Worker) : RunJobInput -> Prop
  | due (now : Time) (trigger : Trigger) (definition : ScheduledJobDefinition)
    (ticks : worker.tick = some trigger) : Asked state worker (dueInput now trigger definition)
  | abandoned (now : Time) (run : ScheduledJobRun) (rest : List ScheduledJobRun) (next : AfterRecovery)
    (isReport : worker = .reportingAbandoned now run true rest next) :
    Asked state worker (retryInput now run)
  | consumed (now : Time) (trigger : Trigger) (run : ScheduledJobRun) (rest : List ScheduledJobRun)
    (isConsumption : worker = .consuming now trigger run rest)
    (source : consumesRetrySource run.id state.runs = true) : Asked state worker (retryInput now run)
  | manual (run : ScheduledJobRun) (actorId : Id) (isRequest : worker = .requestingRetry run actorId) :
    Asked state worker (manualRetryInput state.now run state.draws)

theorem Resumed.asked (state : State Locks) {listed : List ScheduledJobRun}
    (resumed : Resumed registry clock listed worker.tick later)
    (requests : later.requests = some (job, input)) :
    registry.get input.key = some job ∧ Asked state worker input := by
  cases resumed with
  | scheduling now trigger definition rest asked registered same =>
    cases requests
    exact ⟨registered, .due now trigger definition same.symm⟩
  | abandoning => cases requests
  | listingRetries => cases requests
  | consuming => cases requests
  | listingDue => cases requests

theorem Follows.requests (follows : Follows engine before point point')
    {request : ScheduledJob × RunJobInput}
    (requests : (Worker.running point' caller).requests = some request) :
    (Worker.running point caller).requests = some request := by
  cases follows with
  | synchronizing => exact requests
  | synchronized => exact requests
  | child => exact requests
  | root => exact requests
  | parented => exact requests
  | _ => cases requests

/-- Where a statement that went through leads. -/
inductive Proceeds (engine : Engine Locks) (state : State Locks) (worker : Worker) : Worker -> Prop
  | inside (point point' : RunPoint) (caller : Caller) (stands : worker = .running point caller)
    (follows : Follows engine state point point') :
    Proceeds engine state worker (.running point' caller)
  | resumed (listed : List ScheduledJobRun) (later : Worker)
    (known : forall run, run ∈ listed -> run ∈ worker.listed ∨
      run ∈ state.runs ∧ (run.status = .running ∨ run.status = .retrying))
    (resumed : Resumed engine.registry state.now listed worker.tick later) :
    Proceeds engine state worker later
  | asked (job : ScheduledJob) (input : RunJobInput) (caller : Caller)
    (registered : engine.registry.get input.key = some job) (asked : Asked state worker input)
    (fewer : forall run, run ∈ caller.listed -> run ∈ worker.listed)
    (tick : caller.tick = worker.tick) :
    Proceeds engine state worker
      (.running (.synchronizing job input state.now engine.registry.jobs) caller)
  | reporting (now : Time) (run : ScheduledJobRun) (startedAt : Time) (retryable : Bool)
    (rest : List ScheduledJobRun) (next : AfterRecovery)
    (stands : worker = .abandoning now run startedAt retryable rest next) :
    Proceeds engine state worker (.reportingAbandoned now run retryable rest next)
  | requesting (run : ScheduledJobRun) (actorId : Id) (member : run ∈ state.runs)
    (failed : run.status ∈ failureStates true)
    (stands : worker = .findingFailure run.id actorId true) :
    Proceeds engine state worker (.requestingRetry run actorId)
  | quiet (later : Worker) (idle : Idle later) (unrequested : later.requests = none)
    (unlisted : later.listed = [])
    (tick : forall trigger, later.tick = some trigger -> worker.tick = some trigger)
    (unsearching : later.searches = none) :
    Proceeds engine state worker later

private theorem Proceeds.of_beginRun
    (begun : beginRun engine.registry before.now input caller = some later)
    (asked : Asked before worker input) (fewer : forall run, run ∈ caller.listed -> run ∈ worker.listed)
    (tick : caller.tick = worker.tick) : Proceeds engine before worker later := by
  rcases beginRun_eq_some begun with ⟨job, registered, rfl⟩
  exact .asked job input caller registered asked fewer tick

theorem Worker.next_cases (next : worker.next engine before = some later) :
    Proceeds engine before worker later := by
  cases worker with
  | running point caller =>
    rcases RunPoint.next_cases next with ⟨point', rfl, follows⟩ | resumed
    · exact .inside point point' caller rfl follows
    · exact .resumed caller.listed later (fun _ member => Or.inl member) resumed
  | synchronizing now rest after =>
    simp only [Worker.next] at next
    split at next
    · split at next
      · cases next
        exact .quiet _ ⟨rfl, rfl, rfl, rfl⟩ rfl rfl (fun _ same => same) rfl
      · cases next
        exact .quiet _ ⟨rfl, rfl, rfl, rfl⟩ rfl rfl (fun _ same => same) rfl
    · cases next
      refine .quiet _ ⟨rfl, rfl, rfl, rfl⟩ rfl rfl ?_ rfl
      cases after with
      | due trigger => exact fun _ same => same
      | enable key enabled actorId => exact fun _ same => same
  | listingRunning now after =>
    refine .resumed _ later ?_ (resumed_of_recoverNext before.now next)
    intro run listed
    exact Or.inr ⟨(mem_listRunning listed).1, Or.inl (mem_listRunning listed).2.1⟩
  | abandoning now run startedAt retryable rest after =>
    cases next
    exact .reporting now run startedAt retryable rest after rfl
  | reportingAbandoned now run retryable rest after =>
    rw [Worker.next] at next
    split at next
    · rename_i isRetryable
      subst isRetryable
      exact Proceeds.of_beginRun next (.abandoned now run rest after rfl) (fun _ member => member) rfl
    · exact .resumed rest later (fun _ member => Or.inl member) (resumed_of_recoverNext before.now next)
  | listingRetries now trigger =>
    refine .resumed _ later ?_ (resumed_of_retryNext engine.registry before.now next)
    intro run listed
    exact Or.inr ⟨(mem_listDueRetries listed).1, Or.inr (mem_listDueRetries listed).2⟩
  | consuming now trigger run rest =>
    rw [Worker.next] at next
    split at next
    · rename_i source
      exact Proceeds.of_beginRun next (.consumed now trigger run rest rfl source)
        (fun _ member => List.mem_cons_of_mem _ member) rfl
    · exact .resumed rest later (fun _ member => Or.inl (List.mem_cons_of_mem _ member))
        (resumed_of_retryNext engine.registry before.now next)
  | listingDue now trigger =>
    exact .resumed [] later (fun _ member => absurd member List.not_mem_nil) (resumed_of_dueNext [] next)
  | enabling key enabled actorId =>
    cases next
    exact .quiet _ ⟨rfl, rfl, rfl, rfl⟩ rfl rfl (fun _ same => same) rfl
  | reportingEnabled => cases next
  | findingFailure runId actorId retries =>
    rw [Worker.next] at next
    split at next
    · cases next
    · rename_i run found
      split at next
      · rename_i failed
        cases next
        cases retries with
        | true =>
          rcases getRun_eq_some.mp found with ⟨member, rfl⟩
          exact .requesting run actorId member failed rfl
        | false => exact .quiet _ ⟨rfl, rfl, rfl, rfl⟩ rfl rfl (fun _ same => same) rfl
      · cases next
  | acknowledging run actorId =>
    cases next
    exact .quiet _ ⟨rfl, rfl, rfl, rfl⟩ rfl rfl (fun _ same => same) rfl
  | reportingAcknowledged => cases next
  | requestingRetry run actorId =>
    exact Proceeds.of_beginRun next (.manual run actorId rfl)
      (fun _ impossible => absurd impossible List.not_mem_nil) rfl

/-- Where an exception leads. -/
theorem Worker.thrown_cases {message : String}
    (thrown : worker.thrown engine before message = some later) :
    (Exists fun point => Exists fun point' => Exists fun caller =>
      worker = .running point caller ∧ later = .running point' caller ∧
        Catches before message point point') ∨
    Resumed engine.registry before.now worker.listed worker.tick later := by
  cases worker with
  | running point caller =>
    rcases RunPoint.thrown_cases thrown with ⟨point', same, catches⟩ | resumed
    · exact Or.inl ⟨point, point', caller, rfl, same, catches⟩
    · exact Or.inr resumed
  | _ => cases thrown

/-! ## One step, seen from the history and from each worker -/

/-- The run history moves only by a statement that takes effect. -/
theorem Motion.runs (motion : Motion engine before action after) :
    after.runs = before.runs ∨
    Exists fun workerId => Exists fun worker =>
      action.performs = some workerId ∧ before.workers workerId = some worker ∧
        RunEffect worker before.draws before.runs after.runs := by
  cases motion with
  | called => exact Or.inl rfl
  | advanced workerId worker done isAdvance stands effect =>
    have written : RunEffect worker before.draws before.runs done.runs := Worker.runEffect effect
    refine Or.inr ⟨workerId, worker, ?_, stands, written⟩
    rw [isAdvance]
    rfl
  | thrown => exact Or.inl rfl
  | lost workerId worker done message stands awaits effect isThrow =>
    have written : RunEffect worker before.draws before.runs done.runs := Worker.runEffect effect
    refine Or.inr ⟨workerId, worker, ?_, stands, written⟩
    rw [isThrow]
    rfl
  | settled => exact Or.inl rfl
  | crashed => exact Or.inl rfl
  | passed => exact Or.inl rfl

/-- How a worker came to stand where it stands after a step of its own. -/
inductive Placed (engine : Engine Locks) (before after : State Locks) (action : SchedulerAction)
    (workerId : Nat) : Worker -> Prop
  | called (later : Worker) (free : before.workers workerId = none) (idle : Idle later)
    (unlisted : later.listed = [])
    (tick : forall trigger, later.tick = some trigger -> action = .runDueJobs workerId trigger)
    (requests : forall job input, later.requests = some (job, input) ->
      engine.registry.get input.key = some job ∧
        Exists fun key => Exists fun trigger => Exists fun dryRun =>
          action = .runJob workerId key trigger dryRun ∧
            input = ⟨key, trigger, none, dryRun, none, none⟩)
    (searches : forall runId, later.searches = some runId ->
      Exists fun actorId => action = .retryFailure workerId runId actorId) :
    Placed engine before after action workerId later
  | proceeded (worker later : Worker) (stands : before.workers workerId = some worker)
    (isAdvance : action = .advance workerId) (proceeds : Proceeds engine before worker later)
    (effect : RunEffect worker before.draws before.runs after.runs)
    (begun : after.started = worker.starts.toList ++ before.started) :
    Placed engine before after action workerId later
  | caught (point point' : RunPoint) (caller : Caller) (message : String)
    (stands : before.workers workerId = some (.running point caller))
    (catches : Catches before message point point') :
    Placed engine before after action workerId (.running point' caller)
  | resumed (worker later : Worker) (stands : before.workers workerId = some worker)
    (resumed : Resumed engine.registry before.now worker.listed worker.tick later) :
    Placed engine before after action workerId later
  | settled (execution : Execution) (lock : Lock) (startedAt handlerStart : Time) (caller : Caller)
    (point : RunPoint)
    (stands : before.workers workerId =
      some (.running (.handling execution lock startedAt handlerStart) caller))
    (settles : settles execution lock startedAt before.now point) (runs : after.runs = before.runs) :
    Placed engine before after action workerId (.running point caller)

/-- A worker that executes a run, has written its row out or holds a lock. -/
def Worker.Engaged (worker : Worker) : Prop :=
  worker.execution ≠ none ∨ worker.drafts ≠ none ∨ worker.holds ≠ none

/-- How a worker inside `runJob` comes to its next statement. -/
inductive Passes (engine : Engine Locks) (before after : State Locks) (action : SchedulerAction)
    (workerId : Nat) (caller : Caller) (point point' : RunPoint) : Prop
  | follows (isAdvance : action = .advance workerId) (follows : Follows engine before point point')
    (effect : RunEffect (.running point caller) before.draws before.runs after.runs)
  | catches (message : String) (catches : Catches before message point point')
  | settles (execution : Execution) (lock : Lock) (startedAt handlerStart : Time)
    (isHandling : point = .handling execution lock startedAt handlerStart)
    (settles : settles execution lock startedAt before.now point')

/-- Only a worker inside `runJob` becomes engaged, or stays so. -/
theorem Placed.passes (placed : Placed engine before after action id later) (engaged : later.Engaged) :
    Exists fun point => Exists fun point' => Exists fun caller =>
      before.workers id = some (.running point caller) ∧ later = .running point' caller ∧
        Passes engine before after action id caller point point' := by
  have busy : later.execution = none -> later.drafts = none -> later.holds = none -> False := by
    intro unexecuted undrafted unheld
    rcases engaged with executes | drafts | holds
    · exact executes unexecuted
    · exact drafts undrafted
    · exact holds unheld
  have notIdle : ¬ Idle later := fun idle => busy idle.execution idle.drafts idle.holds
  cases placed with
  | called later free idle => exact absurd idle notIdle
  | proceeded worker later stands isAdvance proceeds effect begun =>
    cases proceeds with
    | inside point point' caller same follows =>
      subst same
      exact ⟨point, point', caller, stands, rfl, .follows isAdvance follows effect⟩
    | resumed listed later known resumed => exact absurd resumed.idle notIdle
    | quiet later idle => exact absurd idle notIdle
    | asked => exact (busy rfl rfl rfl).elim
    | reporting => exact (busy rfl rfl rfl).elim
    | requesting => exact (busy rfl rfl rfl).elim
  | caught point point' caller message stands catches =>
    exact ⟨point, point', caller, stands, rfl, .catches message catches⟩
  | resumed worker later stands resumed => exact absurd resumed.idle notIdle
  | settled execution lock startedAt handlerStart caller point stands settles runs =>
    exact ⟨_, point, caller, stands, rfl, .settles execution lock startedAt handlerStart rfl settles⟩

/-- A call of the engine stands before a statement that plays no role yet. -/
theorem SchedulerAction.call_eq_some {found : Nat × Worker}
    (call : action.call engine.registry before.now = some found)
    (free : before.workers found.1 = none) :
    action.mover = some found.1 ∧ Placed engine before after action found.1 found.2 := by
  cases action with
  | runJob workerId key trigger dryRun =>
    rw [SchedulerAction.call, Option.map_eq_some_iff] at call
    rcases call with ⟨worker, begun, rfl⟩
    rcases beginRun_eq_some begun with ⟨job, registered, rfl⟩
    refine ⟨rfl, .called _ free ⟨rfl, rfl, rfl, rfl⟩ rfl (fun _ impossible => by cases impossible) ?_
      (fun _ impossible => by cases impossible)⟩
    intro other input requests
    cases requests
    exact ⟨registered, key, trigger, dryRun, rfl, rfl⟩
  | runDueJobs workerId trigger =>
    cases call
    refine ⟨rfl, .called _ free ⟨rfl, rfl, rfl, rfl⟩ rfl ?_ (fun _ _ impossible => by cases impossible)
      (fun _ impossible => by cases impossible)⟩
    intro other ticks
    cases ticks
    rfl
  | recoverAbandonedRuns workerId =>
    cases call
    exact ⟨rfl, .called _ free ⟨rfl, rfl, rfl, rfl⟩ rfl (fun _ impossible => by cases impossible)
      (fun _ _ impossible => by cases impossible) (fun _ impossible => by cases impossible)⟩
  | setJobEnabled workerId key enabled actorId =>
    rw [SchedulerAction.call, Option.map_eq_some_iff] at call
    rcases call with ⟨job, _, rfl⟩
    exact ⟨rfl, .called _ free ⟨rfl, rfl, rfl, rfl⟩ rfl (fun _ impossible => by cases impossible)
      (fun _ _ impossible => by cases impossible) (fun _ impossible => by cases impossible)⟩
  | acknowledgeFailure workerId runId actorId =>
    cases call
    exact ⟨rfl, .called _ free ⟨rfl, rfl, rfl, rfl⟩ rfl (fun _ impossible => by cases impossible)
      (fun _ _ impossible => by cases impossible) (fun _ impossible => by cases impossible)⟩
  | retryFailure workerId runId actorId =>
    cases call
    refine ⟨rfl, .called _ free ⟨rfl, rfl, rfl, rfl⟩ rfl (fun _ impossible => by cases impossible)
      (fun _ _ impossible => by cases impossible) ?_⟩
    intro searched searches
    cases searches
    exact ⟨actorId, rfl⟩
  | _ => cases call

/-- Every worker stands where it stood, or has just been moved. -/
theorem Motion.workers (motion : Motion engine before action after)
    (stands : after.workers id = some later) :
    (before.workers id = some later ∧ action.mover ≠ some id) ∨
      (action.mover = some id ∧ Placed engine before after action id later) := by
  have elsewhere : forall {moved : Nat}, action.mover = some moved -> id ≠ moved ->
      action.mover ≠ some id := by
    intro moved about different same
    rw [about, Option.some.injEq] at same
    exact different same.symm
  have exception : forall {moved : Nat} {worker : Worker} {message : String},
      before.workers moved = some worker -> worker.thrown engine before message = some later ->
      Placed engine before after action moved later := by
    intro moved worker message standsBefore thrown
    rcases Worker.thrown_cases thrown with ⟨point, point', caller, rfl, rfl, catches⟩ | resumed
    · exact .caught point point' caller message standsBefore catches
    · exact .resumed worker later standsBefore resumed
  cases motion with
  | called workerId worker free call =>
    rcases SchedulerAction.call_eq_some call free with ⟨about, placed⟩
    rcases eq_some_of_update rfl stands with ⟨rfl, same⟩ | ⟨different, standsBefore⟩
    · cases same
      exact Or.inr ⟨about, placed⟩
    · exact Or.inl ⟨standsBefore, elsewhere about different⟩
  | advanced workerId worker done isAdvance standsBefore effect =>
    have framed := Worker.framed effect
    have about : action.mover = some workerId := by rw [isAdvance]; rfl
    have update : ((done.begun worker.starts).place workerId (worker.next engine before)).workers =
        Function.update before.workers workerId (worker.next engine before) := by
      simp only [State.place, State.begun, framed.workers]
    rcases eq_some_of_update update stands with ⟨rfl, next⟩ | ⟨different, same⟩
    · have written : RunEffect worker before.draws before.runs done.runs := Worker.runEffect effect
      refine Or.inr ⟨about, .proceeded worker later standsBefore isAdvance (Worker.next_cases next)
        written ?_⟩
      simp only [State.place, State.begun, framed.started]
    · exact Or.inl ⟨same, elsewhere about different⟩
  | thrown workerId worker message standsBefore awaits how =>
    have about : action.mover = some workerId := by
      rcases how with ⟨rfl, _⟩ | ⟨committed, rfl⟩
      · rfl
      · rfl
    rcases eq_some_of_update rfl stands with ⟨rfl, thrown⟩ | ⟨different, same⟩
    · exact Or.inr ⟨about, exception standsBefore thrown⟩
    · exact Or.inl ⟨same, elsewhere about different⟩
  | lost workerId worker done message standsBefore awaits effect isThrow =>
    have about : action.mover = some workerId := by rw [isThrow]; rfl
    have update : (done.place workerId (worker.thrown engine before message)).workers =
        Function.update before.workers workerId (worker.thrown engine before message) := by
      simp only [State.place, (Worker.framed effect).workers]
    rcases eq_some_of_update update stands with ⟨rfl, thrown⟩ | ⟨different, same⟩
    · exact Or.inr ⟨about, exception standsBefore thrown⟩
    · exact Or.inl ⟨same, elsewhere about different⟩
  | settled workerId execution lock startedAt handlerStart caller point moves unperformed standsBefore settles =>
    rcases eq_some_of_update rfl stands with ⟨rfl, same⟩ | ⟨different, same⟩
    · cases same
      exact Or.inr ⟨moves, .settled execution lock startedAt handlerStart caller point standsBefore
        settles rfl⟩
    · exact Or.inl ⟨same, elsewhere moves different⟩
  | crashed workerId isCrash =>
    have about : action.mover = some workerId := by rw [isCrash]; rfl
    rcases eq_some_of_update rfl stands with ⟨rfl, gone⟩ | ⟨different, same⟩
    · cases gone
    · exact Or.inl ⟨same, elsewhere about different⟩
  | passed moment isPass forward =>
    refine Or.inl ⟨stands, ?_⟩
    rw [isPass]
    exact Option.some_ne_none id |>.symm

/-! ## What a worker was asked for -/

/-- A row that a call of `runJob` writes out, up to its attempt. -/
def DraftOf (job : ScheduledJob) (input : RunJobInput) (now : Time) (create : CreateRun) : Prop :=
  Exists fun draw => Exists fun attempt => create = { newRun job input now draw with attempt }

/-- What a worker carries agrees with what it was called with. -/
structure Proper (registry : Registry) (worker : Worker) : Prop where
  requested : forall job input, worker.requests = some (job, input) -> registry.get input.key = some job
  drafted : forall job input now create, worker.drafts = some (job, input, now, create) ->
    DraftOf job input now create
  executed : forall execution, worker.execution = some execution ->
    registry.get execution.input.key = some execution.job ∧
      Exists fun create => Exists fun id =>
        DraftOf execution.job execution.input execution.now create ∧ execution.run = create.row id

theorem DraftOf.jobKey (draft : DraftOf job input now create) : create.jobKey = job.key := by
  rcases draft with ⟨draw, attempt, rfl⟩
  rfl

theorem DraftOf.parentRunId (draft : DraftOf job input now create) :
    create.parentRunId = input.parentRunId := by
  rcases draft with ⟨draw, attempt, rfl⟩
  rfl

theorem DraftOf.idempotencyKey (draft : DraftOf job input now create) {key : IdempotencyKey}
    (given : input.idempotencyKey = some key) : create.idempotencyKey = key := by
  rcases draft with ⟨draw, attempt, rfl⟩
  simp only [newRun, given, Option.getD_some]

theorem Worker.requests_of_drafts (drafts : worker.drafts = some (job, input, now, create)) :
    worker.requests = some (job, input) := by
  cases worker with
  | running point caller =>
    cases point with
    | readingParent => cases drafts; rfl
    | creating => cases drafts; rfl
    | _ => cases drafts
  | _ => cases drafts

theorem Worker.execution_of_executes {execution : Execution} (executes : worker.executes = some execution) :
    worker.execution = some execution := by
  cases worker with
  | running point caller =>
    cases point with
    | reportingConflict => cases executes
    | reportingFailure => cases executes
    | _ => exact executes
  | _ => cases executes

theorem Worker.engaged_of_executes {execution : Execution} (executes : worker.executes = some execution) :
    worker.Engaged := by
  rw [Worker.Engaged, Worker.execution_of_executes executes]
  exact Or.inl (Option.some_ne_none _)

/-- A statement of `runJob` keeps the execution, or has just created it. -/
theorem Follows.execution {execution : Execution} (follows : Follows engine before point point')
    (knows : (Worker.running point' caller).execution = some execution) :
    (Worker.running point caller).execution = some execution ∨
    Exists fun job => Exists fun input => Exists fun now => Exists fun create =>
      point = .creating job input now create ∧
        execution = ⟨job, input, now, create.scheduledFor, create.row before.draws⟩ ∧
        Exists fun runs => createRun create before.draws before.runs = some (runs, true) := by
  cases follows with
  | created job input now create runs done =>
    cases knows
    exact Or.inr ⟨job, input, now, create, rfl, rfl, runs, done⟩
  | synchronizing => cases knows
  | synchronized => cases knows
  | child => cases knows
  | root => cases knows
  | parented => cases knows
  | settled => cases knows
  | reported => cases knows
  | reportedFailure => cases knows
  | _ => exact Or.inl knows

theorem Follows.drafts (follows : Follows engine before point point')
    (proper : Proper engine.registry (.running point caller))
    (drafts : (Worker.running point' caller).drafts = some (job, input, now, create)) :
    DraftOf job input now create := by
  cases follows with
  | child =>
    cases drafts
    exact ⟨before.draws, 1, rfl⟩
  | root =>
    cases drafts
    exact ⟨before.draws, 1, rfl⟩
  | parented job input now old =>
    cases drafts
    rcases proper.drafted job input now old rfl with ⟨draw, attempt, rfl⟩
    exact ⟨draw, _, rfl⟩
  | _ => cases drafts

theorem Catches.execution {message : String} {execution : Execution}
    (catches : Catches before message point point')
    (knows : (Worker.running point' caller).execution = some execution) :
    (Worker.running point caller).execution = some execution := by
  cases catches with
  | succeeding => exact knows
  | reportingSuccess => exact knows
  | failing => cases knows
  | reportingFailure => cases knows

/-- A call of `runJob` that has not created its run was made by an operator, was
there before, or was asked for by the worker. -/
theorem Placed.requests (placed : Placed engine before after action id later)
    (requests : later.requests = some (job, input)) :
    (engine.registry.get input.key = some job ∧
      Exists fun key => Exists fun trigger => Exists fun dryRun =>
        action = .runJob id key trigger dryRun ∧ input = ⟨key, trigger, none, dryRun, none, none⟩) ∨
    Exists fun worker => before.workers id = some worker ∧
      (worker.requests = some (job, input) ∨
        (engine.registry.get input.key = some job ∧ Asked before worker input)) := by
  cases placed with
  | called later free idle unlisted tick asks => exact Or.inl (asks job input requests)
  | proceeded worker later stands isAdvance proceeds effect begun =>
    refine Or.inr ⟨worker, stands, ?_⟩
    cases proceeds with
    | inside point point' caller same follows =>
      subst same
      exact Or.inl (follows.requests requests)
    | resumed listed later known resumed => exact Or.inr (Resumed.asked before resumed requests)
    | asked other asks caller registered asked =>
      cases requests
      exact Or.inr ⟨registered, asked⟩
    | reporting => cases requests
    | requesting => cases requests
    | quiet later idle unrequested =>
      rw [unrequested] at requests
      cases requests
  | caught point point' caller message stands catches => cases catches <;> cases requests
  | resumed worker later stands resumed =>
    exact Or.inr ⟨worker, stands, Or.inr (Resumed.asked before resumed requests)⟩
  | settled execution lock startedAt handlerStart caller point stands settles runs =>
    rcases settles with ⟨summary, rfl⟩ | ⟨message, rfl⟩
    · cases requests
    · cases requests

theorem Placed.proper (placed : Placed engine before after action id later)
    (proper : forall worker, before.workers id = some worker -> Proper engine.registry worker) :
    Proper engine.registry later := by
  constructor
  · intro job input requests
    rcases placed.requests requests with ⟨registered, _⟩ | ⟨worker, stands, requested | ⟨registered, _⟩⟩
    · exact registered
    · exact (proper worker stands).requested job input requested
    · exact registered
  · intro job input now create drafts
    have engaged : later.Engaged := Or.inr (Or.inl (by rw [drafts]; exact Option.some_ne_none _))
    rcases placed.passes engaged with ⟨point, point', caller, stands, rfl, passes⟩
    cases passes with
    | follows isAdvance follows effect => exact follows.drafts (proper _ stands) drafts
    | catches message catches => cases catches <;> cases drafts
    | settles execution lock startedAt handlerStart isHandling settles =>
      rcases settles with ⟨summary, rfl⟩ | ⟨message, rfl⟩
      · cases drafts
      · cases drafts
  · intro execution knows
    have engaged : later.Engaged := Or.inl (by rw [knows]; exact Option.some_ne_none _)
    rcases placed.passes engaged with ⟨point, point', caller, stands, rfl, passes⟩
    have same := proper _ stands
    cases passes with
    | follows isAdvance follows effect =>
      rcases follows.execution knows with known | ⟨job, input, now, create, rfl, rfl, runs, done⟩
      · exact same.executed execution known
      · exact ⟨same.requested job input rfl, create, before.draws, same.drafted job input now create rfl, rfl⟩
    | catches message catches => exact same.executed execution (catches.execution knows)
    | settles handled lock startedAt handlerStart isHandling settles =>
      subst isHandling
      rcases settles with ⟨summary, rfl⟩ | ⟨message, rfl⟩
      · exact same.executed execution knows
      · exact same.executed execution knows

/-- Every worker is proper. -/
def AllProper (engine : Engine Locks) (state : State Locks) : Prop :=
  forall id worker, state.workers id = some worker -> Proper engine.registry worker

theorem Motion.allProper (motion : Motion engine before action after)
    (proper : AllProper engine before) : AllProper engine after := by
  intro id later stands
  rcases motion.workers stands with ⟨standsBefore, _⟩ | ⟨_, placed⟩
  · exact proper id later standsBefore
  · exact placed.proper (proper id)

end Scheduler
end DigitalSolutions

import DigitalSolutions.Foundation.Leases
import DigitalSolutions.Scheduler.Policy

namespace DigitalSolutions
namespace Scheduler

open Foundation Persistence

/-!
# The run history

The two scheduler tables and the operations of the durable store.  Only
`createRun` adds a run, and nothing removes one.  An operation that updates a
row by its key throws when there is no such row, which is `none` here.
-/

inductive RunStatus
  | queued | running | succeeded | failed | retrying | abandoned | cancelled | skipped
  deriving DecidableEq, Repr

/-- The idempotency keys that the engine writes.  The texts start with the
job, with `retry:` or with `manual-retry:`, and no part of them can be taken
for another. -/
inductive IdempotencyKey
  | scheduled (jobKey : String) (window : Time) (dryRun : Bool)
  | triggered (jobKey : String) (trigger : Trigger) (draw : Draw)
  | retry (runId : Draw) (attempt : Nat)
  | manualRetry (runId draw : Draw)
  deriving DecidableEq, Repr

structure ScheduledJobDefinition where
  key : String
  enabled : Bool
  cadenceSeconds : Nat
  timeoutSeconds : Nat
  maxAttempts : Nat
  nextRunAt : Time
  lastRunAt : Option Time
  lastSuccessAt : Option Time
  lastFailureAt : Option Time
  consecutiveFailures : Nat
  deriving DecidableEq

instance : Keyed ScheduledJobDefinition String where
  keys definition := [definition.key]

structure ScheduledJobRun where
  id : Draw
  jobKey : String
  status : RunStatus
  scheduledFor : Time
  startedAt : Option Time
  completedAt : Option Time
  durationMs : Option Int
  attempt : Nat
  trigger : Trigger
  dryRun : Bool
  lockOwner : Option Draw
  correlationId : Draw
  idempotencyKey : IdempotencyKey
  parentRunId : Option Draw
  retryAt : Option Time
  resultSummary : JobSummary
  errorCode : Option String
  failureClass : Option FailureClass
  acknowledgedAt : Option Time
  acknowledgedById : Option Id
  deriving DecidableEq

inductive ScheduledJobRun.Key
  | id (value : Draw) | correlationId (value : Draw) | idempotencyKey (value : IdempotencyKey)
  deriving DecidableEq

instance : Keyed ScheduledJobRun ScheduledJobRun.Key where
  keys run := [.id run.id, .correlationId run.correlationId, .idempotencyKey run.idempotencyKey]

abbrev Definitions : Type := Table ScheduledJobDefinition

abbrev Runs : Type := Table ScheduledJobRun

/-! ## Definitions -/

def updateDefinition (key : String) (data : ScheduledJobDefinition -> ScheduledJobDefinition)
    (keeps : forall row, (data row).key = row.key) (definitions : Definitions) : Definitions :=
  definitions.update (fun row => row.key = key) data
    (by intro row _; simp only [Keyed.keys, keeps])

/-- The definition of a job that is seen for the first time. -/
def newDefinition (job : ScheduledJob) (initialNextRunAt : Time) : ScheduledJobDefinition where
  key := job.key
  enabled := true
  cadenceSeconds := job.cadenceSeconds
  timeoutSeconds := job.timeoutSeconds
  maxAttempts := job.maxAttempts
  nextRunAt := initialNextRunAt
  lastRunAt := none
  lastSuccessAt := none
  lastFailureAt := none
  consecutiveFailures := 0

def synchronizeDefinition (job : ScheduledJob) (initialNextRunAt : Time) (definitions : Definitions) :
    Definitions :=
  match definitions.insert (newDefinition job initialNextRunAt) with
  | some inserted => inserted
  | none =>
    updateDefinition job.key
      (fun row =>
        { row with
          cadenceSeconds := job.cadenceSeconds
          timeoutSeconds := job.timeoutSeconds
          maxAttempts := job.maxAttempts })
      (fun _ => rfl) definitions

def setEnabled (key : String) (enabled : Bool) (nextRunAt : Option Time) (definitions : Definitions) :
    Option Definitions :=
  if (definitions.lookup key).isSome then
    some (updateDefinition key
      (fun row => { row with enabled, nextRunAt := nextRunAt.getD row.nextRunAt }) (fun _ => rfl)
      definitions)
  else none

def listDueDefinitions (now : Time) (limit : Nat) (definitions : Definitions) :
    List ScheduledJobDefinition :=
  ((definitions.select (fun row => row.enabled && row.nextRunAt ≤ now)).mergeSort
    (fun left right => left.nextRunAt ≤ right.nextRunAt)).take limit

def definitionSucceeded (key : String) (completedAt nextRunAt : Time) (definitions : Definitions) :
    Definitions :=
  updateDefinition key
    (fun row =>
      { row with
        lastRunAt := some completedAt
        lastSuccessAt := some completedAt
        consecutiveFailures := 0
        nextRunAt })
    (fun _ => rfl) definitions

def definitionFailed (key : String) (completedAt nextRunAt : Time) (definitions : Definitions) :
    Definitions :=
  updateDefinition key
    (fun row =>
      { row with
        lastRunAt := some completedAt
        lastFailureAt := some completedAt
        consecutiveFailures := row.consecutiveFailures + 1
        nextRunAt })
    (fun _ => rfl) definitions

/-! ## Runs -/

/-- The argument of `createRun`. -/
structure CreateRun where
  jobKey : String
  scheduledFor : Time
  trigger : Trigger
  dryRun : Bool
  correlationId : Draw
  idempotencyKey : IdempotencyKey
  parentRunId : Option Draw
  attempt : Nat

def CreateRun.row (input : CreateRun) (id : Draw) : ScheduledJobRun where
  id
  jobKey := input.jobKey
  status := .queued
  scheduledFor := input.scheduledFor
  startedAt := none
  completedAt := none
  durationMs := none
  attempt := input.attempt
  trigger := input.trigger
  dryRun := input.dryRun
  lockOwner := none
  correlationId := input.correlationId
  idempotencyKey := input.idempotencyKey
  parentRunId := input.parentRunId
  retryAt := none
  resultSummary := []
  errorCode := none
  failureClass := none
  acknowledgedAt := none
  acknowledgedById := none

def getRun (id : Draw) (runs : Runs) : Option ScheduledJobRun := runs.lookup (.id id)

/-- `createRun`: the runs afterwards, and whether the run was created.  It is
not when the idempotency key is taken. -/
def createRun (input : CreateRun) (id : Draw) (runs : Runs) : Option (Runs × Bool) :=
  match runs.insert (input.row id) with
  | some inserted => some (inserted, true)
  | none => (runs.lookup (.idempotencyKey input.idempotencyKey)).map (fun _ => (runs, false))

def updateRun (runId : Draw) (data : ScheduledJobRun -> ScheduledJobRun)
    (keeps : forall row, Keyed.keys (data row) = Keyed.keys row) (runs : Runs) : Option Runs :=
  if (getRun runId runs).isSome then
    some (runs.update (fun row => row.id = runId) data (fun row _ => keeps row))
  else none

def markLockConflict (runId : Draw) (completedAt : Time) : Runs -> Option Runs :=
  updateRun runId
    (fun row =>
      { row with
        status := .skipped
        completedAt := some completedAt
        durationMs := some 0
        errorCode := some "SCHEDULER_LOCK_CONFLICT"
        failureClass := some .concurrencyConflict })
    (fun _ => rfl)

def markRunning (runId : Draw) (startedAt : Time) (lockOwner : Draw) : Runs -> Option Runs :=
  updateRun runId
    (fun row =>
      { row with status := .running, startedAt := some startedAt, lockOwner := some lockOwner })
    (fun _ => rfl)

def markSucceeded (runId : Draw) (completedAt : Time) (durationMs : Int) (resultSummary : JobSummary) :
    Runs -> Option Runs :=
  updateRun runId
    (fun row =>
      { row with
        status := .succeeded
        completedAt := some completedAt
        durationMs := some durationMs
        resultSummary
        errorCode := none
        failureClass := none })
    (fun _ => rfl)

def markFailed (runId : Draw) (completedAt : Time) (durationMs : Int) (errorCode : String)
    (failureClass : FailureClass) (retryAt : Option Time) : Runs -> Option Runs :=
  updateRun runId
    (fun row =>
      { row with
        status := if retryAt.isSome then .retrying else .failed
        completedAt := some completedAt
        durationMs := some durationMs
        errorCode := some errorCode
        failureClass := some failureClass
        retryAt })
    (fun _ => rfl)

def markAbandoned (runId : Draw) (completedAt : Time) (durationMs : Int) : Runs -> Option Runs :=
  updateRun runId
    (fun row =>
      { row with
        status := .abandoned
        completedAt := some completedAt
        durationMs := some durationMs
        errorCode := some "ABANDONED_AFTER_RESTART"
        failureClass := some .transient })
    (fun _ => rfl)

def acknowledgeFailure (runId : Draw) (actorId : Id) (acknowledgedAt : Time) : Runs -> Option Runs :=
  updateRun runId
    (fun row =>
      { row with acknowledgedAt := some acknowledgedAt, acknowledgedById := some actorId })
    (fun _ => rfl)

/-- The rows that `consumeRetrySource` changes. -/
def isRetrySource (runId : Draw) (row : ScheduledJobRun) : Bool :=
  row.id = runId && row.status = .retrying

def consumeRetrySource (runId : Draw) (runs : Runs) : Runs :=
  runs.update (isRetrySource runId) (fun row => { row with status := .failed })

/-- What `consumeRetrySource` returns: whether it changed a row. -/
def consumesRetrySource (runId : Draw) (runs : Runs) : Bool := runs.rows.any (isRetrySource runId)

def listRunning (limit : Nat) (runs : Runs) : List ScheduledJobRun :=
  ((runs.select (fun row => row.status = .running && row.startedAt.isSome)).mergeSort
    (fun left right => left.startedAt.getD 0 ≤ right.startedAt.getD 0)).take limit

def listDueRetries (now : Time) (limit : Nat) (runs : Runs) : List ScheduledJobRun :=
  ((runs.select (fun row => row.status = .retrying && row.retryAt.any (fun retryAt => retryAt ≤ now))).mergeSort
    (fun left right => left.retryAt.getD 0 ≤ right.retryAt.getD 0)).take limit

/-! ## What the operations change -/

variable {runs later : Runs} {row : ScheduledJobRun} {runId : Draw}
variable {data : ScheduledJobRun -> ScheduledJobRun}
variable {keeps : forall row, Keyed.keys (data row) = Keyed.keys row}

theorem eq_of_id {left right : ScheduledJobRun} (inLeft : left ∈ runs) (inRight : right ∈ runs)
    (same : left.id = right.id) : left = right := by
  have common : ScheduledJobRun.Key.id left.id ∈ Keyed.keys right := by simp [Keyed.keys, same]
  exact runs.eq_of_common_key inLeft inRight (by simp [Keyed.keys]) common

theorem eq_of_idempotencyKey {left right : ScheduledJobRun} (inLeft : left ∈ runs)
    (inRight : right ∈ runs) (same : left.idempotencyKey = right.idempotencyKey) : left = right := by
  have common : ScheduledJobRun.Key.idempotencyKey left.idempotencyKey ∈ Keyed.keys right := by
    simp [Keyed.keys, same]
  exact runs.eq_of_common_key inLeft inRight (by simp [Keyed.keys]) common

theorem getRun_eq_some : getRun runId runs = some row ↔ row ∈ runs ∧ row.id = runId := by
  rw [getRun, Table.lookup_eq_some]
  simp [Keyed.keys, eq_comm]

theorem mem_listRunning {limit : Nat} (listed : row ∈ listRunning limit runs) :
    row ∈ runs ∧ row.status = .running ∧ row.startedAt.isSome = true := by
  have selected := List.mem_of_mem_take listed
  rw [List.mem_mergeSort, Table.mem_select] at selected
  simpa using selected

theorem mem_listDueRetries {now : Time} {limit : Nat} (listed : row ∈ listDueRetries now limit runs) :
    row ∈ runs ∧ row.status = .retrying := by
  have selected := List.mem_of_mem_take listed
  rw [List.mem_mergeSort, Table.mem_select] at selected
  simp only [Bool.and_eq_true, decide_eq_true_eq] at selected
  exact ⟨selected.1, selected.2.1⟩

/-- An accepted `createRun` adds a queued run, or finds the key taken. -/
theorem createRun_eq_some {input : CreateRun} {created : Bool}
    (done : createRun input runId runs = some (later, created)) :
    (created = true ∧ runs.insert (input.row runId) = some later) ∨
    (created = false ∧ later = runs ∧ Exists fun holder =>
      holder ∈ runs ∧ holder.idempotencyKey = input.idempotencyKey) := by
  unfold createRun at done
  split at done
  · rename_i inserted outcome
    cases done
    exact Or.inl ⟨rfl, outcome⟩
  · rw [Option.map_eq_some_iff] at done
    rcases done with ⟨holder, found, same⟩
    cases same
    refine Or.inr ⟨rfl, rfl, holder, Table.lookup_mem _ found, ?_⟩
    simpa [Keyed.keys, eq_comm] using Table.lookup_key _ found

/-- An accepted update rewrites the one row of the identifier. -/
theorem updateRun_eq_some (done : updateRun runId data keeps runs = some later) :
    later.rows = runs.rows.map (fun row => if row.id = runId then data row else row) := by
  unfold updateRun at done
  split at done
  · cases done
    simp only [Table.update, decide_eq_true_eq]
  · cases done

theorem updateRun_present (done : updateRun runId data keeps runs = some later) :
    Exists fun row => row ∈ runs ∧ row.id = runId := by
  unfold updateRun at done
  split at done
  · rename_i present
    rcases Option.isSome_iff_exists.mp present with ⟨row, found⟩
    exact ⟨row, getRun_eq_some.mp found⟩
  · cases done

theorem updateRun_isSome (member : row ∈ runs) (same : row.id = runId) :
    (updateRun runId data keeps runs).isSome = true := by
  rw [updateRun, getRun_eq_some.mpr ⟨member, same⟩]
  rfl

theorem consumesRetrySource_eq_true :
    consumesRetrySource runId runs = true ↔
      Exists fun row => row ∈ runs ∧ row.id = runId ∧ row.status = .retrying := by
  rw [consumesRetrySource, List.any_eq_true]
  simp only [isRetrySource, Bool.and_eq_true, decide_eq_true_eq, Table.mem_rows]

end Scheduler
end DigitalSolutions

import DigitalSolutions.Foundation.Tickets
import DigitalSolutions.StorageCleanup.CleanupStore

namespace DigitalSolutions
namespace StorageCleanup

open Foundation Persistence

/-!
# The cleanup processor

A worker claims a job, asks whether its object may be deleted, deletes it, and
records the outcome, each by one access.  Whatever is thrown between the claim
and the end of the success is caught, and recorded as a failure of the
attempt; what is thrown elsewhere ends the worker.
-/

/-- The rest of a batch, with the time that all of its claims are stamped with. -/
structure CleanupBatch where
  now : Time
  rest : List Id

inductive CleanupRequest
  | queue (input : QueueStorageCleanupInput)
  | recoverAbandoned
  | retry (id actorId : Id)
  | process (id : Id)
  | processReady (limit : Option Int)

/-- Where a worker stands, with what it has read. -/
inductive CleanupPoint
  | called (request : CleanupRequest)
  /-- Recovers what is abandoned; a batch lists its jobs next. -/
  | recovering (now : Time) (limit : Option (Option Int))
  | listing (now : Time) (limit : Option Int)
  | claiming (id : Id) (batch : CleanupBatch)
  | reading (claim : CleanupClaim) (batch : CleanupBatch)
  | checking (claim : CleanupClaim) (job : StorageCleanupJob) (batch : CleanupBatch)
  | deleting (claim : CleanupClaim) (job : StorageCleanupJob) (batch : CleanupBatch)
  | completing (claim : CleanupClaim) (job : StorageCleanupJob) (batch : CleanupBatch)
  /-- The event of the success, whose failure is caught. -/
  | announcing (claim : CleanupClaim) (job : StorageCleanupJob) (batch : CleanupBatch)
  | failing (claim : CleanupClaim) (job : StorageCleanupJob) (errorCode : String) (batch : CleanupBatch)
  | reporting (event : StorageCleanupOperationalEvent) (batch : CleanupBatch)
  | requesting (job : StorageCleanupJob) (actorId : Id) (now : Time)
  | requested (event : StorageCleanupOperationalEvent)

/-- What an access meets: what it draws, and the name of what is thrown. -/
structure CleanupInput where
  drawn : Id
  correlationId : String
  thrown : Option String

variable (sha256 : String -> String)

def CleanupBatch.next (batch : CleanupBatch) : Option CleanupPoint :=
  match batch.rest with
  | [] => none
  | id :: rest => some (.claiming id { batch with rest })

def eventOf (job : StorageCleanupJob) (action : StorageCleanupAction) (actorId : Option Id) :
    StorageCleanupOperationalEvent where
  action
  jobId := job.id
  targetType := job.targetType
  targetId := job.targetId
  actorId
  attempts := job.attempts
  errorCode := none
  terminal := none

/-- Only a replaced or removed artifact can still be in use. -/
def canDelete (store : CleanupStore) (job : StorageCleanupJob) : Bool :=
  !((job.type = .artifactReplacement || job.type = .artifactRemoval) &&
    store.activeArtifacts.contains job.objectKey)

def emit (event : StorageCleanupOperationalEvent) (store : CleanupStore) : CleanupStore :=
  { store with events := event :: store.events }

/-- The claim that a worker makes on a row. -/
def claimOf (store : CleanupStore) (stamp : Time) (row : StorageCleanupJob) : CleanupClaim where
  id := row.id
  attempt := row.attempts + 1
  automatic := !row.requested
  stamp
  claimedAt := store.now

def callCleanup (store : CleanupStore) (input : CleanupInput) :
    CleanupRequest -> CleanupStore × Option CleanupPoint
  | .queue queued =>
    (upsertQueued (queuedJob sha256 queued input.drawn input.correlationId store.now) store, none)
  | .recoverAbandoned => (store, some (.recovering store.now none))
  | .retry id actorId =>
    match store.jobs.lookup (.id id) with
    | none => (store, none)
    | some job =>
      if job.status ≠ .failed ∧ job.status ≠ .retrying then (store, none)
      else (store, some (.requesting job actorId store.now))
  | .process id => (store, some (.claiming id ⟨store.now, []⟩))
  | .processReady limit => (store, some (.recovering store.now (some limit)))

/-- The write that records a failed attempt. -/
def recordFailure (job : StorageCleanupJob) (errorCode : String) (store : CleanupStore) : CleanupStore :=
  if STORAGE_CLEANUP_MAX_ATTEMPTS ≤ job.attempts then
    updateJobs (fun row => row.id = job.id) (failedJob store.now errorCode) (fun _ => rfl) store
  else
    updateJobs (fun row => row.id = job.id)
      (retryingJob (storageCleanupBackoffAt job.attempts store.now) errorCode) (fun _ => rfl) store

def failureEvent (job : StorageCleanupJob) (errorCode : String) : StorageCleanupOperationalEvent :=
  let failed := decide (STORAGE_CLEANUP_MAX_ATTEMPTS ≤ job.attempts)
  { eventOf job (if failed then .failed else .retryScheduled) job.createdByActorId with
    errorCode := some errorCode
    terminal := some failed }

def advanceCleanup (store : CleanupStore) (point : CleanupPoint) (input : CleanupInput) :
    CleanupStore × Option CleanupPoint :=
  match point with
  | .called request => callCleanup sha256 store input request
  | .recovering now limit =>
    (updateJobs (abandoned (now - STORAGE_CLEANUP_PROCESSING_TIMEOUT_MS))
      (recoveredJob now "PROCESSING_TIMEOUT") (fun _ => rfl) store, limit.map (.listing now))
  | .listing now limit =>
    (store, (CleanupBatch.mk now (listReady now (boundedStorageCleanupBatchSize limit) store)).next)
  | .claiming id batch =>
    match (store.jobs.lookup (.id id)).filter (claimable id batch.now) with
    | none => (store, batch.next)
    | some row =>
      (updateJobs (claimable id batch.now) (claimedJob batch.now) (fun _ => rfl) store,
        some (.reading (claimOf store batch.now row) batch))
  | .reading claim batch =>
    (store, (store.jobs.lookup (.id claim.id)).map fun job => .checking claim job batch)
  | .checking claim job batch =>
    match input.thrown with
    | some name => (store, some (.failing claim job (storageCleanupErrorCode sha256 name) batch))
    | none =>
      if canDelete store job then (store, some (.deleting claim job batch))
      else (store, some (.failing claim job (storageCleanupErrorCode sha256 "Error") batch))
  | .deleting claim job batch =>
    let asked := { store with deletions := claim :: store.deletions }
    match input.thrown with
    | some name => (asked, some (.failing claim job (storageCleanupErrorCode sha256 name) batch))
    | none => (asked, some (.completing claim job batch))
  | .completing claim job batch =>
    (updateJobs (fun row => row.id = job.id) (succeededJob store.now) (fun _ => rfl) store,
      some (.announcing claim job batch))
  | .announcing claim job batch =>
    match input.thrown with
    | some name => (store, some (.failing claim job (storageCleanupErrorCode sha256 name) batch))
    | none => (emit (eventOf job .completed job.createdByActorId) store, batch.next)
  | .failing _ job errorCode batch =>
    (recordFailure job errorCode store, some (.reporting (failureEvent job errorCode) batch))
  | .reporting event batch =>
    match input.thrown with
    | some _ => (store, none)
    | none => (emit event store, batch.next)
  | .requesting job actorId now =>
    (updateJobs (fun row => row.id = job.id) (requestedJob now) (fun _ => rfl) store,
      some (.requested (eventOf job .retryRequested (some actorId))))
  | .requested event =>
    match input.thrown with
    | some _ => (store, none)
    | none => (emit event store, none)

/-- What else happens: time passes, and the catalogue changes. -/
inductive CleanupEvent
  | tick (later : Time)
  | catalogue (activeArtifacts : List String)

inductive CleanupRefusal
  | backwards
  deriving DecidableEq

def passCleanup (store : CleanupStore) : CleanupEvent -> Except CleanupRefusal CleanupStore
  | .tick later => if store.now ≤ later then .ok { store with now := later } else .error .backwards
  | .catalogue activeArtifacts => .ok { store with activeArtifacts }

/-- Any number of workers and operators at the same time. -/
def cleanupProtocol :
    Protocol CleanupStore CleanupRequest CleanupPoint CleanupInput CleanupEvent CleanupRefusal where
  enter := .called
  advance store point input := .ok (advanceCleanup sha256 store point input)
  ambient := passCleanup

abbrev CleanupCrowd := Crowd CleanupStore CleanupPoint

abbrev CleanupMove := CrowdMove CleanupRequest CleanupInput CleanupEvent

end StorageCleanup
end DigitalSolutions

import DigitalSolutions.Persistence.Schema

namespace DigitalSolutions
namespace StorageCleanup

open Foundation Persistence

/-!
# Storage cleanup jobs

The table of cleanup jobs, the limits of the policy, and the statements of the
store.  A claim is conditional on the status of its job; every other write
goes by the id of the job alone.
-/

def STORAGE_CLEANUP_MAX_ATTEMPTS : Nat := 5

/-- Fifteen minutes, in milliseconds. -/
def STORAGE_CLEANUP_PROCESSING_TIMEOUT_MS : Int := 15 * 60000

def STORAGE_CLEANUP_DEFAULT_BATCH_SIZE : Nat := 20

def STORAGE_CLEANUP_MAX_BATCH_SIZE : Nat := 100

inductive StorageCleanupStatus
  | pending | processing | retrying | succeeded | failed
  deriving DecidableEq

inductive StorageCleanupJobType
  | productDeletion | artifactReplacement | artifactRemoval | abandonedUpload | orphanedObject
  deriving DecidableEq

def StorageCleanupJobType.text : StorageCleanupJobType -> String
  | .productDeletion => "PRODUCT_DELETION"
  | .artifactReplacement => "ARTIFACT_REPLACEMENT"
  | .artifactRemoval => "ARTIFACT_REMOVAL"
  | .abandonedUpload => "ABANDONED_UPLOAD"
  | .orphanedObject => "ORPHANED_OBJECT"

structure StorageCleanupJob where
  id : Id
  type : StorageCleanupJobType
  status : StorageCleanupStatus
  targetType : String
  targetId : Id
  objectKey : String
  idempotencyKey : String
  attempts : Nat
  nextAttemptAt : Time
  lastErrorCode : Option String
  correlationId : String
  productId : Option Id
  artifactId : Option Id
  createdByActorId : Option Id
  createdAt : Time
  startedAt : Option Time
  completedAt : Option Time
  deriving DecidableEq

inductive StorageCleanupJob.Key
  | id (value : Id) | idempotencyKey (value : String)
  deriving DecidableEq

instance : Keyed StorageCleanupJob StorageCleanupJob.Key where
  keys row := [.id row.id, .idempotencyKey row.idempotencyKey]

structure QueueStorageCleanupInput where
  type : StorageCleanupJobType
  targetType : String
  targetId : Id
  objectKey : String
  productId : Option Id
  artifactId : Option Id
  actorId : Option Id
  correlationId : Option String

/-! ## The policy -/

section Policy

-- The hash of `node:crypto`, in hexadecimal digits.
variable (sha256 : String -> String)

def storageCleanupIdempotencyKey (type : StorageCleanupJobType) (targetId objectKey : String) : String :=
  sha256 (type.text ++ ":" ++ targetId ++ ":" ++ objectKey)

/-- The code of an error with this name. -/
def storageCleanupErrorCode (name : String) : String := String.ofList ((sha256 name).toList.take 16)

end Policy

def storageCleanupBackoffAt (attempts : Nat) (now : Time) : Time :=
  now + min (60 * 60000) (30000 * 2 ^ (attempts - 1))

/-- The limit of a batch, where `none` stands for a number that is not finite. -/
def boundedStorageCleanupBatchSize : Option Int -> Nat
  | none => STORAGE_CLEANUP_DEFAULT_BATCH_SIZE
  | some limit => (max 1 (min limit STORAGE_CLEANUP_MAX_BATCH_SIZE)).toNat

/-! ## The store -/

/-- Which claim a worker acts under: the job, how often the job has been
claimed, whether without an operator's retry, the time the claim is stamped
with and the time it was made. -/
structure CleanupClaim where
  id : Id
  attempt : Nat
  automatic : Bool
  stamp : Time
  claimedAt : Time
  deriving DecidableEq

inductive StorageCleanupAction
  | retryRequested | completed | retryScheduled | failed
  deriving DecidableEq

structure StorageCleanupOperationalEvent where
  action : StorageCleanupAction
  jobId : Id
  targetType : String
  targetId : Id
  actorId : Option Id
  attempts : Nat
  errorCode : Option String
  terminal : Option Bool
  deriving DecidableEq

/-- The clock, the table, the keys of the objects that an active artifact
refers to, and the records of what was asked of the object store and told to
the event sink, the latest first. -/
structure CleanupStore where
  now : Time
  jobs : Table StorageCleanupJob
  activeArtifacts : List String
  deletions : List CleanupClaim
  events : List StorageCleanupOperationalEvent

def CleanupStore.opening (now : Time) : CleanupStore := ⟨now, ∅, [], [], []⟩

/-- `UPDATE "StorageCleanupJob" … WHERE …`. -/
def updateJobs (where' : StorageCleanupJob -> Bool) (set : StorageCleanupJob -> StorageCleanupJob)
    (keeps : forall row, Keyed.keys (set row) = Keyed.keys row) (store : CleanupStore) : CleanupStore :=
  { store with jobs := store.jobs.update where' set fun row _ => keeps row }

def claimable (id : Id) (now : Time) (row : StorageCleanupJob) : Bool :=
  row.id = id && (row.status = .pending || row.status = .retrying) && row.nextAttemptAt ≤ now

def claimedJob (now : Time) (row : StorageCleanupJob) : StorageCleanupJob :=
  { row with status := .processing, startedAt := some now, attempts := row.attempts + 1 }

def abandoned (startedBefore : Time) (row : StorageCleanupJob) : Bool :=
  row.status = .processing && row.startedAt.any fun startedAt => startedAt < startedBefore

def recoveredJob (retryAt : Time) (errorCode : String) (row : StorageCleanupJob) : StorageCleanupJob :=
  { row with status := .retrying, nextAttemptAt := retryAt, lastErrorCode := some errorCode }

def requestedJob (retryAt : Time) (row : StorageCleanupJob) : StorageCleanupJob :=
  { row with status := .retrying, nextAttemptAt := retryAt, lastErrorCode := none }

def succeededJob (completedAt : Time) (row : StorageCleanupJob) : StorageCleanupJob :=
  { row with status := .succeeded, completedAt := some completedAt, lastErrorCode := none }

def retryingJob (nextAttemptAt : Time) (errorCode : String) (row : StorageCleanupJob) :
    StorageCleanupJob :=
  { row with status := .retrying, nextAttemptAt, lastErrorCode := some errorCode }

def failedJob (completedAt : Time) (errorCode : String) (row : StorageCleanupJob) : StorageCleanupJob :=
  { row with status := .failed, completedAt := some completedAt, lastErrorCode := some errorCode }

/-- An operator has asked for the next attempt: only that clears the error
code of a job that is retried. -/
def StorageCleanupJob.requested (row : StorageCleanupJob) : Bool :=
  row.status = .retrying && row.lastErrorCode.isNone

/-- The jobs that are ready, the oldest first. -/
def listReady (now : Time) (limit : Nat) (store : CleanupStore) : List Id :=
  (((store.jobs.select fun row =>
    (row.status = .pending || row.status = .retrying) && row.nextAttemptAt ≤ now).insertionSort
      fun left right => left.createdAt ≤ right.createdAt).take limit).map StorageCleanupJob.id

/-- The row that is queued, before any attempt. -/
def queuedJob (sha256 : String -> String) (input : QueueStorageCleanupInput) (id : Id)
    (correlationId : String) (now : Time) : StorageCleanupJob where
  id
  type := input.type
  status := .pending
  targetType := input.targetType
  targetId := input.targetId
  objectKey := input.objectKey
  idempotencyKey := storageCleanupIdempotencyKey sha256 input.type input.targetId input.objectKey
  attempts := 0
  nextAttemptAt := now
  lastErrorCode := none
  correlationId := input.correlationId.getD correlationId
  productId := input.productId
  artifactId := input.artifactId
  createdByActorId := input.actorId
  createdAt := now
  startedAt := none
  completedAt := none

/-- `INSERT … ON CONFLICT ("idempotencyKey") DO NOTHING`; an id that is taken
is an error, and changes nothing either. -/
def upsertQueued (job : StorageCleanupJob) (store : CleanupStore) : CleanupStore :=
  { store with jobs := (store.jobs.insert job).getD store.jobs }

end StorageCleanup
end DigitalSolutions

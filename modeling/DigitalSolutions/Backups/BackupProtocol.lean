import DigitalSolutions.Backups.BackupEngine

namespace DigitalSolutions
namespace Backups

open Foundation Persistence

/-!
# Workers, requests and the retention job

A worker claims an operation and executes it.  What it writes when it has
finished goes by the id of the operation alone, and whatever throws after the
success has been written is taken for a failure of the operation.
-/

/-- What the service is configured with. -/
structure BackupEnvironment where
  platform : BackupPlatform
  deploymentId : String
  restoreConfigured : Bool

inductive BackupCall
  | requestBackup (dryRun : Bool) (idempotencyKey : String) (expiresAt : Option Time)
  | requestOperation (backupId : Id) (type : BackupOperationType) (confirmation : String) (dryRun : Bool)
  | work (workerId : String)
  | recover
  | retain (dryRun : Bool)

inductive BackupPoint
  | requesting (dryRun : Bool) (idempotencyKey : String) (expiresAt : Option Time)
  | requestingOperation (backupId : Id) (type : BackupOperationType) (confirmation : String) (dryRun : Bool)
  | claiming (workerId : String)
  | executing (operation : BackupOperation) (point : TaskPoint)
  | succeeding (operation : BackupOperation)
  | auditing (operation : BackupOperation)
  | failing (operation : BackupOperation) (code : String)
  | failingArchive (operation : BackupOperation) (code : String)
  | finding
  | releasing (now : Time) (abandoned : List BackupOperation)
  | retaining (dryRun : Bool)
  | expiring (expired : List Id)
  | queueing (backupId : Id) (expired : List Id)
  | auditingRequest (expired : List Id)
  deriving DecidableEq

/-- `retryAt`. -/
def retryAt (attempt : Nat) (now : Time) : Time := now + min (60 * 60000) (30000 * 2 ^ (attempt - 1))

/-- The codes after which an operation is not tried again. -/
def terminalCodes : List String :=
  ["SOURCE_OBJECTS_MISSING", "MANIFEST_CHECKSUM_MISMATCH", "BACKUP_CIPHERTEXT_CORRUPT",
    "BACKUP_PLAINTEXT_CORRUPT", "RESTORE_TARGET_NOT_ISOLATED", "BACKUP_NOT_EXPIRED"]

def corruptionCodes : List String :=
  ["MANIFEST_CHECKSUM_MISMATCH", "BACKUP_CIPHERTEXT_CORRUPT", "BACKUP_PLAINTEXT_CORRUPT",
    "RESTORE_DATABASE_CHECKSUM_MISMATCH"]

def isRetried (operation : BackupOperation) (code : String) : Bool :=
  operation.attempts < operation.maxAttempts && !(terminalCodes.contains code)

def isClaimable (now : Time) (operation : BackupOperation) : Bool :=
  (operation.status = .pending || operation.status = .retrying) && operation.nextAttemptAt ≤ now

def isAbandoned (now : Time) (operation : BackupOperation) : Bool :=
  operation.status = .processing && operation.startedAt.any fun startedAt => startedAt < now - 60 * 60000

/-- The statuses that the retention job asks for. -/
def isRetained (now : Time) (archive : BackupArchive) : Bool :=
  (archive.expiresAt.any fun expiresAt => expiresAt ≤ now) &&
    (archive.status = .available || archive.status = .verified || archive.status = .incomplete ||
      archive.status = .failed)

/-! ## The writes -/

def newArchive (environment : BackupEnvironment) (id : Id) (expiresAt : Option Time) : BackupArchive where
  id := id
  status := .pending
  storagePrefix := environment.deploymentId ++ "/" ++ id
  manifestObjectKey := none
  manifestChecksum := none
  missingObjectCount := 0
  startedAt := none
  completedAt := none
  verifiedAt := none
  expiresAt := expiresAt
  deletedAt := none
  errorCode := none

def newOperation (id : Id) (backupId : Id) (type : BackupOperationType) (dryRun : Bool)
    (idempotencyKey : String) (now : Time) : BackupOperation where
  id := id
  backupId := some backupId
  type := type
  status := .pending
  dryRun := dryRun
  attempts := 0
  maxAttempts := 3
  nextAttemptAt := now
  startedAt := none
  completedAt := none
  claimedBy := none
  idempotencyKey := idempotencyKey
  errorCode := none

/-- A refusal: of the unique keys, or of a draw that the statement cannot make. -/
inductive BackupRefusal
  | notFresh | notClaimable
  deriving DecidableEq

/-- `requestBackup`, where the key has not been used before. -/
def createBackup (environment : BackupEnvironment) (dryRun : Bool) (idempotencyKey : String)
    (expiresAt : Option Time) (draw : BackupDraw) (store : BackupStore) : Except BackupRefusal BackupStore :=
  match store.archives.insert (newArchive environment (draw.fresh 0) expiresAt) with
  | none => .error .notFresh
  | some archives =>
    match store.operations.insert
      (newOperation (draw.fresh 1) (draw.fresh 0) .create dryRun idempotencyKey draw.now) with
    | none => .error .notFresh
    | some operations => .ok { store with archives, operations }

/-- The insertion of `requestBackupOperation`. -/
def createOperation (backupId : Id) (type : BackupOperationType) (dryRun : Bool) (draw : BackupDraw)
    (store : BackupStore) : Except BackupRefusal BackupStore :=
  match store.operations.insert
    (newOperation (draw.fresh 0) backupId type dryRun (draw.fresh 1) draw.now) with
  | none => .error .notFresh
  | some operations => .ok { store with operations }

def claimBackupOperation (workerId : String) (draw : BackupDraw) (store : BackupStore) :
    Except BackupRefusal (BackupStore × BackupOperation) :=
  match store.operations.lookup (.id draw.chosen) with
  | none => .error .notClaimable
  | some operation =>
    if isClaimable draw.now operation then
      let claimed := { operation with
        status := .processing
        claimedBy := some workerId
        startedAt := some draw.now
        attempts := operation.attempts + 1
        errorCode := none }
      .ok ({ store with
        operations := store.operations.update (fun row => row.id = operation.id) fun row =>
          { row with
            status := .processing
            claimedBy := some workerId
            startedAt := some draw.now
            attempts := row.attempts + 1
            errorCode := none } }, claimed)
    else .error .notClaimable

def succeedOperation (operation : BackupOperation) (now : Time) (store : BackupStore) : BackupStore :=
  { store with
    operations := store.operations.update (fun row => row.id = operation.id) fun row =>
      { row with status := .succeeded, completedAt := some now, claimedBy := none } }

def failOperation (operation : BackupOperation) (code : String) (now : Time) (store : BackupStore) :
    BackupStore :=
  let retry := isRetried operation code
  { store with
    operations := store.operations.update (fun row => row.id = operation.id) fun row =>
      { row with
        status := if retry then .retrying else .failed
        nextAttemptAt := if retry then retryAt operation.attempts now else now
        completedAt := if retry then none else some now
        errorCode := some code
        claimedBy := none } }

/-- The status that a failure gives the archive of its operation, if any. -/
def failedStatus (operation : BackupOperation) (code : String) : Option BackupArchiveStatus :=
  if operation.type = .create then
    some (if code = "SOURCE_OBJECTS_MISSING" then .incomplete else .failed)
  else if (operation.type = .verify || operation.type = .simulateRestore) && corruptionCodes.contains code then
    some .corrupt
  else none

def failArchive (operation : BackupOperation) (code : String) (store : BackupStore) : BackupStore :=
  match operation.backupId, failedStatus operation code with
  | some backupId, some status =>
    { store with
      archives := store.archives.update (fun archive => archive.id = backupId) fun archive =>
        { archive with status, errorCode := some code } }
  | _, _ => store

def releaseOperation (abandoned : BackupOperation) (now : Time) (store : BackupStore) : BackupStore :=
  let terminal := abandoned.maxAttempts ≤ abandoned.attempts
  { store with
    operations := store.operations.update (fun row => row.id = abandoned.id) fun row =>
      { row with
        status := if terminal then .failed else .retrying
        nextAttemptAt := if terminal then now else retryAt abandoned.attempts now
        claimedBy := none
        errorCode := some "ABANDONED_OPERATION" } }

def expireArchive (backupId : Id) (store : BackupStore) : BackupStore :=
  { store with
    archives := store.archives.update (fun archive => archive.id = backupId) fun archive =>
      { archive with status := .expired } }

/-! ## The processes -/

/-- What follows an access of the work. -/
def afterTask (operation : BackupOperation) : TaskResult -> BackupPoint
  | .next point => .executing operation point
  | .done => .succeeding operation
  | .thrown code => .failing operation code

/-- The requests, where nothing throws. -/
def requestStep (environment : BackupEnvironment) (store : BackupStore) (draw : BackupDraw) :
    BackupPoint -> Except BackupRefusal (BackupStore × Option BackupPoint)
  | .requesting dryRun idempotencyKey expiresAt =>
    if dryRun = false ∧ environment.platform.enabled = false then .ok (store, none)
    else if (store.operations.lookup (.idempotencyKey idempotencyKey)).isSome then .ok (store, none)
    else (createBackup environment dryRun idempotencyKey expiresAt draw store).map fun after => (after, none)
  | .requestingOperation backupId type confirmation dryRun =>
    if type = .create ∨ (store.archives.lookup (.id backupId)).isNone then .ok (store, none)
    else if type = .restoreIsolated ∧
        (confirmation ≠ "RESTORE TO ISOLATED TARGET " ++ backupId ∨ environment.restoreConfigured = false) then
      .ok (store, none)
    else (createOperation backupId type dryRun draw store).map fun after => (after, none)
  | .retaining dryRun =>
    if dryRun then .ok (store, none)
    else .ok (store, some (.expiring ((store.archives.select (isRetained draw.now)).map BackupArchive.id)))
  | .expiring [] => .ok (store, none)
  | .expiring (backupId :: expired) =>
    .ok (expireArchive backupId store, some (.queueing backupId expired))
  | .queueing backupId expired =>
    (createOperation backupId .deleteExpired false draw store).map fun after =>
      (after, some (.auditingRequest expired))
  | .auditingRequest expired => .ok (store, some (.expiring expired))
  | _ => .ok (store, none)

/-- The workers. -/
def workerStep (environment : BackupEnvironment) (store : BackupStore) (draw : BackupDraw) :
    BackupPoint -> Except BackupRefusal (BackupStore × Option BackupPoint)
  | .claiming workerId =>
    (claimBackupOperation workerId draw store).map fun (after, operation) =>
      (after, some (.executing operation .loading))
  | .executing operation point =>
    let (after, result) := taskStep environment.platform operation store draw point
    .ok (after, some (afterTask operation result))
  | .succeeding operation =>
    if draw.throws then .ok (store, some (.failing operation driverFault))
    else .ok (succeedOperation operation draw.now store, some (.auditing operation))
  | .auditing operation =>
    if draw.throws then .ok (store, some (.failing operation driverFault)) else .ok (store, none)
  | .failing operation code =>
    if draw.throws then .ok (store, none)
    else .ok (failOperation operation code draw.now store, some (.failingArchive operation code))
  | .failingArchive operation code =>
    if draw.throws then .ok (store, none) else .ok (failArchive operation code store, none)
  | .finding =>
    if draw.throws then .ok (store, none)
    else .ok (store, some (.releasing draw.now (store.operations.select (isAbandoned draw.now))))
  | .releasing _ [] => .ok (store, none)
  | .releasing now (operation :: abandoned) =>
    if draw.throws then .ok (store, none)
    else .ok (releaseOperation operation now store, some (.releasing now abandoned))
  | point => if draw.throws then .ok (store, none) else requestStep environment store draw point

def backupProtocol (environment : BackupEnvironment) :
    Protocol BackupStore BackupCall BackupPoint BackupDraw LiveEvent BackupRefusal where
  enter
    | .requestBackup dryRun idempotencyKey expiresAt => .requesting dryRun idempotencyKey expiresAt
    | .requestOperation backupId type confirmation dryRun =>
      .requestingOperation backupId type confirmation dryRun
    | .work workerId => .claiming workerId
    | .recover => .finding
    | .retain dryRun => .retaining dryRun
  advance store point draw := workerStep environment store draw point
  ambient store event := .ok (liveEvent store event)

/-! ## An environment to run the protocol in -/

def plainText (bytes : Bytes) : String := String.ofList (bytes.map fun byte => Char.ofNat byte.toNat)

/-- Ciphertext is what is encrypted, and a checksum is what is summed up. -/
def plainPlatform : BackupPlatform where
  enabled := true
  sha256 := plainText
  manifestChecksum document := document.backupId ++ ":" ++ document.database.encryptedSha256 ++
    String.join (document.objects.map fun object => ":" ++ object.sourceKey ++ "=" ++ object.encryptedSha256)
  encryptBuffer bytes iv := ⟨bytes, iv, ""⟩
  decryptBuffer bytes _ _ := some bytes
  pgDump live := live.references.flatMap fun key => key.toList.map fun character => character.toNat.toUInt8

def plainEnvironment : BackupEnvironment := ⟨plainPlatform, "main", true⟩

def plainDraw : BackupDraw :=
  ⟨0, false, none, "iv", "operation", fun index => if index = 0 then "bkp" else "operation", none⟩

def accesses (count : Nat) : List (CrowdMove BackupCall BackupDraw LiveEvent) :=
  List.replicate count (.advance 1 plainDraw)

end Backups
end DigitalSolutions

import DigitalSolutions.Backups.BackupStore

namespace DigitalSolutions
namespace Backups

open Foundation Persistence

/-!
# The work of a backup operation

What an operation does to its archive, one access at a time.  Each access may
throw instead, and then has no effect.  The errors of drivers have no messages
that consist of capital letters, digits and underscores.
-/

def driverFault : String := "BACKUP_OPERATION_FAILED"

/-- What a creation has read and stored so far. -/
structure ArchiveDraft where
  backupId : Id
  storagePrefix : String
  dumped : LiveDatabase
  database : EncryptedArtifact
  listed : List String
  expected : List String
  objects : List EncryptedArtifact
  deriving DecidableEq

namespace ArchiveDraft

def absent (draft : ArchiveDraft) : List String := missingObjects draft.expected draft.listed

def manifest (draft : ArchiveDraft) : BackupManifest :=
  ⟨draft.backupId, draft.database, draft.objects, draft.absent⟩

end ArchiveDraft

/-- Where the work of an operation stands, before the access that comes next. -/
inductive TaskPoint
  | loading
  /-- The queries of a dry run. -/
  | counting
  | starting (backupId : Id) (storagePrefix : String)
  | dumping (backupId : Id) (storagePrefix : String)
  | storingDatabase (draft : ArchiveDraft) (bytes : Bytes)
  /-- A page of the source bucket, after a key. -/
  | listing (draft : ArchiveDraft) (after : Option String)
  | expecting (draft : ArchiveDraft) (pending : List ReferenceTable)
  | copying (draft : ArchiveDraft) (remaining : List String)
  | storingObject (draft : ArchiveDraft) (entry : EncryptedArtifact) (bytes : Bytes) (remaining : List String)
  | storingManifest (draft : ArchiveDraft)
  | recording (draft : ArchiveDraft)
  | loadingManifest (archive : BackupArchive)
  | checking (backupId : Id) (manifest : BackupManifest) (remaining : List EncryptedArtifact)
  | listingDump (backupId : Id) (manifest : BackupManifest)
  | marking (backupId : Id)
  | restoring
  | listingObjects (backupId : Id) (storagePrefix : String)
  | deleting (backupId : Id) (keys : List BackupKey)
  | markingDeleted (backupId : Id)
  deriving DecidableEq

inductive TaskResult
  | next (point : TaskPoint)
  | done
  | thrown (code : String)

/-- The clock, what is random, and what the environment decides. -/
structure BackupDraw where
  now : Time
  throws : Bool
  /-- The last key of a page that is not the last page. -/
  upTo : Option String
  iv : String
  /-- The operation that is claimed. -/
  chosen : Id
  fresh : Nat -> Id
  /-- What an isolated restore runs into. -/
  restoreFault : Option String

/-- A page goes beyond the one before it. -/
def pageEnd : Option String -> Option String -> Option String
  | some after, some upTo => if after < upTo then some upTo else none
  | none, upTo => upTo
  | some _, none => none

def isAfter (after : Option String) (key : String) : Bool := after.all fun last => last < key

def isUpTo (upTo : Option String) (key : String) : Bool := upTo.all fun last => key ≤ last

/-- `keys`, in a page of the bucket. -/
def listedPage (bucket : InsertionMap String Bytes) (after upTo : Option String) : List String :=
  bucket.keys.filter fun key => isAfter after key && isUpTo upTo key

def objectEntry (platform : BackupPlatform) (storagePrefix sourceKey : String) (bytes : Bytes)
    (encrypted : Encrypted) (name : BackupObjectName) : EncryptedArtifact where
  sourceKey := sourceKey
  backupKey := ⟨storagePrefix, name⟩
  sha256 := platform.sha256 bytes
  encryptedSha256 := platform.sha256 encrypted.encrypted
  iv := encrypted.iv
  authTag := encrypted.authTag

/-- Before anything is listed. -/
def openDraft (platform : BackupPlatform) (backupId : Id) (storagePrefix : String) (live : LiveDatabase)
    (iv : String) : ArchiveDraft × Bytes :=
  let dump := platform.pgDump live
  let encrypted := platform.encryptBuffer dump iv
  (⟨backupId, storagePrefix, live,
    objectEntry platform storagePrefix "postgresql" dump encrypted .database, [], [], []⟩, encrypted.encrypted)

/-- Where the work begins, once the archive is read. -/
def loaded (platform : BackupPlatform) (operation : BackupOperation) (archive : BackupArchive)
    (now : Time) : TaskResult :=
  match operation.type with
  | .create =>
    if operation.dryRun then .next .counting
    else if platform.enabled = false then .thrown "BACKUPS_DISABLED"
    else .next (.starting archive.id archive.storagePrefix)
  | .verify | .simulateRestore => .next (.loadingManifest archive)
  | .restoreIsolated => .next .restoring
  | .deleteExpired =>
    if archive.expiresAt.all fun expiresAt => now < expiresAt then .thrown "BACKUP_NOT_EXPIRED"
    else .next (.listingObjects archive.id archive.storagePrefix)

/-- `loadManifest`, and the first check of `verifyArchive`. -/
def loadManifest (platform : BackupPlatform) (archive : BackupArchive)
    (backups : InsertionMap BackupKey BackupBody) : Except String BackupManifest :=
  match archive.manifestObjectKey, archive.manifestChecksum with
  | some key, some checksum =>
    match backups.get? key with
    | some (.manifest document) =>
      if platform.manifestChecksum document ≠ checksum then .error "MANIFEST_CHECKSUM_MISMATCH"
      else if document.missingSourceObjects ≠ [] then .error "SOURCE_OBJECTS_MISSING"
      else .ok document
    | _ => .error driverFault
  | _, _ => .error "BACKUP_MANIFEST_UNAVAILABLE"

/-- The check of one object of the manifest, with what a simulation adds. -/
def checkObject (platform : BackupPlatform) (simulateRestore : Bool) (object : EncryptedArtifact)
    (backups : InsertionMap BackupKey BackupBody) : Except String Unit :=
  match backups.get? object.backupKey with
  | some (.encrypted bytes) =>
    if platform.sha256 bytes ≠ object.encryptedSha256 then .error "BACKUP_CIPHERTEXT_CORRUPT"
    else if simulateRestore then
      match platform.decryptBuffer bytes object.iv object.authTag with
      | none => .error driverFault
      | some plaintext =>
        if platform.sha256 plaintext ≠ object.sha256 then .error "BACKUP_PLAINTEXT_CORRUPT" else .ok ()
    else .ok ()
  | some (.manifest _) => .error "BACKUP_CIPHERTEXT_CORRUPT"
  | none => .error driverFault

/-- The keys under the prefix of an archive. -/
def keysUnder (storagePrefix : String) (backups : InsertionMap BackupKey BackupBody) : List BackupKey :=
  backups.keys.filter fun key => key.storagePrefix = storagePrefix

/-- What an access of the work does that does not throw by itself.  The listing
of the keys under the prefix of an archive is one access. -/
def workStep (platform : BackupPlatform) (operation : BackupOperation) (store : BackupStore)
    (draw : BackupDraw) : TaskPoint -> BackupStore × TaskResult
  | .loading =>
    match operation.backupId with
    | none => (store, .thrown (if operation.type = .create then driverFault else "BACKUP_OPERATION_MISSING_ARCHIVE"))
    | some backupId =>
      match store.archives.lookup (.id backupId) with
      | none => (store, .thrown driverFault)
      | some archive => (store, loaded platform operation archive draw.now)
  | .counting => (store, .done)
  | .starting backupId storagePrefix =>
    ({ store with
        archives := store.archives.update (fun archive => archive.id = backupId) fun archive =>
          { archive with status := .creating, startedAt := some draw.now } },
      .next (.dumping backupId storagePrefix))
  | .dumping backupId storagePrefix =>
    let (draft, bytes) := openDraft platform backupId storagePrefix store.live draw.iv
    (store, .next (.storingDatabase draft bytes))
  | .storingDatabase draft bytes =>
    ({ store with backups := store.backups.set draft.database.backupKey (.encrypted bytes) },
      .next (.listing draft none))
  | .listing draft after =>
    let upTo := pageEnd after draw.upTo
    let draft := { draft with listed := draft.listed ++ listedPage store.source after upTo }
    match upTo with
    | some last => (store, .next (.listing draft (some last)))
    | none => (store, .next (.expecting draft referenceTables))
  | .expecting draft [] => (store, .next (.copying draft draft.listed))
  | .expecting draft (table :: pending) =>
    let draft := { draft with expected := draft.expected ++ store.live.referencesOf table }
    (store, .next (.expecting draft pending))
  | .copying draft [] => (store, .next (.storingManifest draft))
  | .copying draft (key :: remaining) =>
    match store.source.get? key with
    | none => (store, .thrown driverFault)
    | some bytes =>
      let encrypted := platform.encryptBuffer bytes draw.iv
      let entry := objectEntry platform draft.storagePrefix key bytes encrypted (.object key)
      (store, .next (.storingObject draft entry encrypted.encrypted remaining))
  | .storingObject draft entry bytes remaining =>
    ({ store with backups := store.backups.set entry.backupKey (.encrypted bytes) },
      .next (.copying { draft with objects := draft.objects ++ [entry] } remaining))
  | .storingManifest draft =>
    ({ store with backups := store.backups.set ⟨draft.storagePrefix, .manifest⟩ (.manifest draft.manifest) },
      .next (.recording draft))
  | .recording draft =>
    let complete := draft.absent = []
    ({ store with
        archives := store.archives.update (fun archive => archive.id = draft.backupId) fun archive =>
          { archive with
            status := if complete then .available else .incomplete
            manifestObjectKey := some ⟨draft.storagePrefix, .manifest⟩
            manifestChecksum := some (platform.manifestChecksum draft.manifest)
            missingObjectCount := draft.absent.length
            completedAt := some draw.now
            errorCode := if complete then none else some "SOURCE_OBJECTS_MISSING" } },
      if complete then .done else .thrown "SOURCE_OBJECTS_MISSING")
  | .loadingManifest archive =>
    match loadManifest platform archive store.backups with
    | .error code => (store, .thrown code)
    | .ok manifest => (store, .next (.checking archive.id manifest (manifest.database :: manifest.objects)))
  | .checking backupId manifest [] =>
    if operation.type = .simulateRestore then (store, .next (.listingDump backupId manifest))
    else (store, .next (.marking backupId))
  | .checking backupId manifest (object :: remaining) =>
    match checkObject platform (operation.type = .simulateRestore) object store.backups with
    | .error code => (store, .thrown code)
    | .ok () => (store, .next (.checking backupId manifest remaining))
  | .listingDump backupId manifest =>
    match store.backups.get? manifest.database.backupKey with
    | some (.encrypted bytes) =>
      match platform.decryptBuffer bytes manifest.database.iv manifest.database.authTag with
      | none => (store, .thrown driverFault)
      | some _ => (store, .next (.marking backupId))
    | _ => (store, .thrown driverFault)
  | .marking backupId =>
    ({ store with
        archives := store.archives.update (fun archive => archive.id = backupId) fun archive =>
          { archive with status := .verified, verifiedAt := some draw.now, errorCode := none } }, .done)
  | .restoring =>
    match draw.restoreFault with
    | none => (store, .done)
    | some code => (store, .thrown code)
  | .listingObjects backupId storagePrefix =>
    (store, .next (.deleting backupId (keysUnder storagePrefix store.backups)))
  | .deleting backupId [] => (store, .next (.markingDeleted backupId))
  | .deleting backupId (key :: keys) =>
    ({ store with backups := store.backups.remove key }, .next (.deleting backupId keys))
  | .markingDeleted backupId =>
    ({ store with
        archives := store.archives.update (fun archive => archive.id = backupId) fun archive =>
          { archive with status := .deleted, deletedAt := some draw.now } }, .done)

def taskStep (platform : BackupPlatform) (operation : BackupOperation) (store : BackupStore)
    (draw : BackupDraw) (point : TaskPoint) : BackupStore × TaskResult :=
  if draw.throws then (store, .thrown driverFault) else workStep platform operation store draw point

end Backups
end DigitalSolutions

import DigitalSolutions.Foundation.InsertionMap
import DigitalSolutions.Foundation.Processes
import DigitalSolutions.Persistence.Schema

namespace DigitalSolutions
namespace Backups

open Foundation Persistence

/-!
# Archives, operations and what is backed up

The tables of the backup service, the bucket that the archives are stored in,
and the live system: the rows that refer to objects, and the bucket that holds
these.  Columns and fields of the manifest that no modelled function decides
anything by are left out.
-/

abbrev Bytes := List UInt8

inductive BackupArchiveStatus
  | pending | creating | available | verified | incomplete | corrupt | failed | expired | deleted
  deriving DecidableEq

inductive BackupOperationType
  | create | verify | simulateRestore | restoreIsolated | deleteExpired
  deriving DecidableEq

inductive BackupOperationStatus
  | pending | processing | retrying | succeeded | failed | cancelled
  deriving DecidableEq

/-- What is stored under the prefix of an archive: `manifest.json`,
`database.dump.enc`, and `objects/….enc` with the key of its source in
`base64url`. -/
inductive BackupObjectName
  | manifest
  | database
  | object (sourceKey : String)
  deriving DecidableEq

/-- A key of the backup bucket.  Prefixes end in the id of their archive, so no
key lies under two of them. -/
structure BackupKey where
  storagePrefix : String
  name : BackupObjectName
  deriving DecidableEq

structure EncryptedArtifact where
  sourceKey : String
  backupKey : BackupKey
  sha256 : String
  encryptedSha256 : String
  iv : String
  authTag : String
  deriving DecidableEq

structure BackupManifest where
  backupId : Id
  database : EncryptedArtifact
  objects : List EncryptedArtifact
  missingSourceObjects : List String
  deriving DecidableEq

/-- A body in the backup bucket: ciphertext, or a manifest in JSON. -/
inductive BackupBody
  | encrypted (bytes : Bytes)
  | manifest (document : BackupManifest)
  deriving DecidableEq

structure BackupArchive where
  id : Id
  status : BackupArchiveStatus
  storagePrefix : String
  manifestObjectKey : Option BackupKey
  manifestChecksum : Option String
  missingObjectCount : Nat
  startedAt : Option Time
  completedAt : Option Time
  verifiedAt : Option Time
  expiresAt : Option Time
  deletedAt : Option Time
  errorCode : Option String
  deriving DecidableEq

inductive BackupArchive.Key
  | id (value : Id) | storagePrefix (value : String)
  deriving DecidableEq

instance : Keyed BackupArchive BackupArchive.Key where
  keys archive := [.id archive.id, .storagePrefix archive.storagePrefix]

structure BackupOperation where
  id : Id
  backupId : Option Id
  type : BackupOperationType
  status : BackupOperationStatus
  dryRun : Bool
  attempts : Nat
  maxAttempts : Nat
  nextAttemptAt : Time
  startedAt : Option Time
  completedAt : Option Time
  claimedBy : Option String
  idempotencyKey : String
  errorCode : Option String
  deriving DecidableEq

inductive BackupOperation.Key
  | id (value : Id) | idempotencyKey (value : String)
  deriving DecidableEq

instance : Keyed BackupOperation BackupOperation.Key where
  keys operation := [.id operation.id, .idempotencyKey operation.idempotencyKey]

/-! ## The live system -/

structure ProductArtifact where
  id : Id
  objectKey : String
  deriving DecidableEq

structure ProductImage where
  productId : Id
  imageKey : Option String
  deriving DecidableEq

structure EvidenceDocument where
  id : Id
  documentObjectKey : Option String
  deriving DecidableEq

/-- The rows of the database that refer to objects. -/
structure LiveDatabase where
  artifacts : List ProductArtifact
  images : List ProductImage
  evidence : List EvidenceDocument
  deriving DecidableEq

/-- The tables that are asked for the keys they refer to. -/
inductive ReferenceTable
  | artifacts | evidence | images
  deriving DecidableEq

def LiveDatabase.referencesOf (database : LiveDatabase) : ReferenceTable -> List String
  | .artifacts => database.artifacts.map ProductArtifact.objectKey
  | .evidence => database.evidence.filterMap EvidenceDocument.documentObjectKey
  | .images => database.images.filterMap ProductImage.imageKey

/-- The order in which a creation asks them. -/
def referenceTables : List ReferenceTable := [.artifacts, .evidence, .images]

/-- Every key that a row refers to. -/
def LiveDatabase.references (database : LiveDatabase) : List String :=
  referenceTables.flatMap database.referencesOf

structure BackupStore where
  live : LiveDatabase
  source : InsertionMap String Bytes
  archives : Table BackupArchive
  operations : Table BackupOperation
  backups : InsertionMap BackupKey BackupBody

/-- What uploads, replacements and deletions do, each by itself. -/
inductive LiveEvent
  | setArtifact (row : ProductArtifact)
  | removeArtifact (id : Id)
  | setImage (row : ProductImage)
  | removeProduct (productId : Id)
  | setDocument (row : EvidenceDocument)
  | removeEvidence (id : Id)
  | putObject (key : String) (bytes : Bytes)
  | deleteObject (key : String)

def liveEvent (store : BackupStore) : LiveEvent -> BackupStore
  | .setArtifact row =>
    let kept := store.live.artifacts.filter fun artifact => artifact.id ≠ row.id
    { store with live := { store.live with artifacts := kept ++ [row] } }
  | .removeArtifact id =>
    let kept := store.live.artifacts.filter fun artifact => artifact.id ≠ id
    { store with live := { store.live with artifacts := kept } }
  | .setImage row =>
    let kept := store.live.images.filter fun image => image.productId ≠ row.productId
    { store with live := { store.live with images := kept ++ [row] } }
  | .removeProduct productId =>
    let kept := store.live.images.filter fun image => image.productId ≠ productId
    { store with live := { store.live with images := kept } }
  | .setDocument row =>
    let kept := store.live.evidence.filter fun document => document.id ≠ row.id
    { store with live := { store.live with evidence := kept ++ [row] } }
  | .removeEvidence id =>
    let kept := store.live.evidence.filter fun document => document.id ≠ id
    { store with live := { store.live with evidence := kept } }
  | .putObject key bytes => { store with source := store.source.set key bytes }
  | .deleteObject key => { store with source := store.source.remove key }

/-! ## The primitives -/

structure Encrypted where
  encrypted : Bytes
  iv : String
  authTag : String

/-- What `node:crypto`, the tools of PostgreSQL and the configuration do. -/
structure BackupPlatform where
  enabled : Bool
  sha256 : Bytes -> String
  /-- The checksum of the canonical JSON of a manifest. -/
  manifestChecksum : BackupManifest -> String
  /-- With the initialisation vector that is drawn. -/
  encryptBuffer : Bytes -> String -> Encrypted
  decryptBuffer : Bytes -> String -> String -> Option Bytes
  pgDump : LiveDatabase -> Bytes

/-- The order of the result, which the source sorts, is never looked at. -/
def missingObjects (expected actual : List String) : List String :=
  expected.dedup.filter fun key => !(actual.contains key)

theorem missingObjects_nil {expected actual : List String} (none' : missingObjects expected actual = []) :
    forall key, key ∈ expected -> key ∈ actual := by
  intro key member
  by_contra absent
  have isMissing : key ∈ missingObjects expected actual := by
    rw [missingObjects, List.mem_filter, List.mem_dedup]
    refine ⟨member, ?_⟩
    rw [Bool.not_eq_true', List.contains_eq_mem, decide_eq_false_iff_not]
    exact absent
  rw [none'] at isMissing
  cases isMissing

end Backups
end DigitalSolutions

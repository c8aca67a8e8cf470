import DigitalSolutions.Distribution.UpdateAuthority
import DigitalSolutions.Foundation.Serializable

namespace DigitalSolutions
namespace Distribution

open Foundation Persistence

/-!
# Administering the update authority

Every mutation carries an operation id.  The record of the operation, its
effect and its result are written by one serializable transaction; a call that
finds the record replays the result, or is rejected when it asks for something
else.  The audit entry that the transaction also writes is left out.
-/

variable (platform : UpdatePlatform)

inductive UpdateDraw
  | record | operation
  | artifact (index : Nat)
  deriving DecidableEq

/-- What a call meets: who makes it, where, when, and what it draws. -/
structure UpdateContext where
  actorId : Id
  operationId : String
  audience : LicensingAgentUpdateAudience
  now : Time
  draw : UpdateDraw -> Id
  /-- What GitHub answers when it is asked. -/
  fetched : Except UpdateError GitHubResponse

/-! ## Operation records -/

mutual

/-- `canonical`, as the value whose text it builds: every object has its keys
in the order of the collation. -/
def canonical (localeCompare : String -> String -> Int) : Json -> Json
  | .array elements => .array (canonicalList localeCompare elements)
  | .object entries =>
    .object ((canonicalFields localeCompare entries).insertionSort
      fun left right => localeCompare left.1 right.1 ≤ 0)
  | value => value

def canonicalList (localeCompare : String -> String -> Int) : List Json -> List Json
  | [] => []
  | element :: rest => canonical localeCompare element :: canonicalList localeCompare rest

def canonicalFields (localeCompare : String -> String -> Int) :
    List (String × Json) -> List (String × Json)
  | [] => []
  | (key, nested) :: rest =>
    (key, canonical localeCompare nested) :: canonicalFields localeCompare rest

end

/-- Whether JavaScript takes a value for true. -/
def truthy : Json -> Bool
  | .null => false
  | .bool value => value
  | .number literal => !(literal = "0")
  | .string value => !(value = "")
  | .array _ | .object _ => true

def replays (existing : LicensingAgentUpdateOperation) (action : UpdateAction) (request : Json) : Bool :=
  existing.action = action &&
    canonical platform.localeCompare existing.metadata.request =
      canonical platform.localeCompare request &&
    truthy existing.metadata.result

def mutation (context : UpdateContext) (action : UpdateAction) (request : Json)
    (execute : UpdateTx Json) : UpdateTx Json := do
  let store <- get
  match store.operations.lookup (.operationId context.operationId) with
  | some existing =>
    if replays platform existing action request then
      return existing.metadata.result
    else throw (.message "AGENT_UPDATE_OPERATION_REPLAY_MISMATCH")
  | none => do
    let result <- execute
    let store <- get
    let operations <- Transaction.orFail .uniqueViolation (store.operations.insert
      { id := context.draw .operation
        operationId := context.operationId
        action
        actorId := context.actorId
        metadata := ⟨request, result⟩
        createdAt := context.now })
    set { store with operations }
    return result

/-! ## Keys -/

def keyRequest (keyId : String) : Json := .object [("keyId", .string keyId)]

def keyRegistrationRequest (keyId publicKey trustedFromVersion : String) : Json :=
  .object [("keyId", .string keyId), ("publicKey", .string publicKey),
    ("trustedFromVersion", .string trustedFromVersion)]

/-- The body of the registration of a key; every mutation is given its own. -/
def stageKey (context : UpdateContext) (keyId publicKey trustedFromVersion : String) :
    UpdateTx Json := do
  let reference <- liftM (licensingAgentUpdateKeyReference keyId)
  let privateKey <- liftM (resolveLicensingAgentUpdatePrivateKey platform reference)
  liftM (assertLicensingAgentSigningMaterial platform publicKey privateKey)
  let store <- get
  let keys <- Transaction.orFail .uniqueViolation (store.keys.insert
    { id := context.draw .record
      keyId
      publicKey
      privateKeyReference := reference
      trustedFromVersion
      status := .staged
      createdById := context.actorId
      createdAt := context.now
      activatedAt := none
      retiredAt := none })
  set { store with keys }
  return .object [("id", .string (context.draw .record)), ("keyId", .string keyId),
    ("trustedFromVersion", .string trustedFromVersion), ("status", .string "STAGED")]

def registerLicensingAgentUpdateKey (context : UpdateContext)
    (keyId publicKey trustedFromVersion : String) : UpdateTx Json :=
  if safeKeyId keyId = false then throw (.message "AGENT_UPDATE_KEY_ID_INVALID")
  else if platform.semver.valid trustedFromVersion = false then
    throw (.message "AGENT_UPDATE_KEY_TRUST_VERSION_INVALID")
  else mutation platform context .keyStaged (keyRegistrationRequest keyId publicKey trustedFromVersion)
    (stageKey platform context keyId publicKey trustedFromVersion)

/-- `UPDATE … WHERE "id" = …` on the keys, which leaves their ids alone. -/
def setKey (id : Id) (data : LicensingAgentUpdateKey -> LicensingAgentUpdateKey)
    (keeps : forall key, (data key).id = key.id ∧ (data key).keyId = key.keyId)
    (keys : Table LicensingAgentUpdateKey) : Table LicensingAgentUpdateKey :=
  keys.update (fun key => key.id = id) data (by
    intro key _
    simp only [Keyed.keys, (keeps key).1, (keeps key).2])

def activateKey (context : UpdateContext) (keyId : String) : UpdateTx Json := do
  let store <- get
  let key <- Transaction.orFail (.message "AGENT_UPDATE_KEY_NOT_FOUND")
    (store.keys.lookup (.keyId keyId))
  liftM (reject (key.status = .retired) (.message "AGENT_UPDATE_KEY_RETIRED"))
  let privateKey <- liftM (resolveLicensingAgentUpdatePrivateKey platform key.privateKeyReference)
  liftM (assertLicensingAgentSigningMaterial platform key.publicKey privateKey)
  let keys := setKey key.id
    (fun row =>
      { row with status := .active, activatedAt := some (row.activatedAt.getD context.now) })
    (fun _ => ⟨rfl, rfl⟩) store.keys
  set { store with keys }
  return .object [("id", .string key.id), ("keyId", .string key.keyId),
    ("trustedFromVersion", .string key.trustedFromVersion), ("status", .string "ACTIVE")]

def activateLicensingAgentUpdateKey (context : UpdateContext) (keyId : String) : UpdateTx Json :=
  mutation platform context .keyActivated (keyRequest keyId) (activateKey platform context keyId)

/-- Whether a key is trusted by every client that a release supports. -/
def covers (key : LicensingAgentUpdateKey) (release : LicensingAgentUpdateRelease) : Bool :=
  platform.semver.valid key.trustedFromVersion &&
    platform.semver.valid release.minimumSupportedVersion &&
    platform.semver.lte key.trustedFromVersion release.minimumSupportedVersion

def stillRequired (key : LicensingAgentUpdateKey) (store : UpdateStore) : Bool :=
  let otherKeys := store.keys.select fun other => other.status = .active && other.id ≠ key.id
  (store.releases.select fun release => release.active).any fun release =>
    !otherKeys.any fun candidate => covers platform candidate release

def retireKey (context : UpdateContext) (keyId : String) : UpdateTx Json := do
  let store <- get
  let key <- Transaction.orFail (.message "AGENT_UPDATE_KEY_NOT_FOUND")
    (store.keys.lookup (.keyId keyId))
  let result := Json.object [("id", .string key.id), ("keyId", .string keyId),
    ("status", .string "RETIRED")]
  if key.status = .retired then return result
  liftM (reject (key.status = .active ∧ stillRequired platform key store = true)
    (.message "AGENT_UPDATE_KEY_STILL_REQUIRED"))
  let keys := setKey key.id
    (fun row => { row with status := .retired, retiredAt := some context.now })
    (fun _ => ⟨rfl, rfl⟩) store.keys
  set { store with keys }
  return result

def retireLicensingAgentUpdateKey (context : UpdateContext) (keyId : String) : UpdateTx Json :=
  mutation platform context .keyRetired (keyRequest keyId) (retireKey platform context keyId)

/-! ## Releases -/

def artifactJson (artifact : LicensingAgentUpdateArtifact) : Json :=
  .object [("architecture", .string artifact.architecture.text),
    ("artifactId", .string artifact.artifactId), ("sha256", .string artifact.sha256),
    ("size", .number (toString artifact.size))]

def insertArtifacts (context : UpdateContext) (releaseId : Id) :
    List (LicensingAgentUpdateArtifact × Nat) -> UpdateTx Unit
  | [] => return ()
  | (artifact, index) :: rest => do
    let store <- get
    liftM (reject (artifact.size ≤ 1) .checkViolation)
    let artifacts <- Transaction.orFail .uniqueViolation (store.artifacts.insert
      { id := context.draw (.artifact index)
        releaseId
        architecture := artifact.architecture
        artifactId := artifact.artifactId
        sha256 := artifact.sha256
        sizeBytes := artifact.size
        createdAt := context.now })
    set { store with artifacts }
    insertArtifacts context releaseId rest

/-- The range of the column `revision`. -/
def maxInteger : Int := 2147483647

def releaseRegistrationRequest (context : UpdateContext) (version minimumSupportedVersion : String)
    (revision : Int) : Json :=
  .object [("version", .string version), ("minimumSupportedVersion", .string minimumSupportedVersion),
    ("revision", .number (toString revision)), ("audience", .string context.audience.text)]

def recordRelease (context : UpdateContext) (version minimumSupportedVersion : String) (revision : Int) :
    UpdateTx Json := do
  let verified <- liftM
    (inspectLicensingAgentGitHubRelease platform version context.audience context.fetched)
  let store <- get
  liftM (reject (revision > maxInteger) .checkViolation)
  let releases <- Transaction.orFail .uniqueViolation (store.releases.insert
    { id := context.draw .record
      version
      minimumSupportedVersion
      revision
      audience := context.audience
      releaseTag := verified.releaseTag
      publishedAt := verified.publishedAt
      active := false
      createdById := context.actorId
      activatedById := none
      createdAt := context.now
      updatedAt := context.now
      activatedAt := none
      retiredAt := none })
  set { store with releases }
  insertArtifacts context (context.draw .record) verified.artifacts.zipIdx
  return .object [("id", .string (context.draw .record)), ("version", .string version),
    ("minimumSupportedVersion", .string minimumSupportedVersion),
    ("revision", .number (toString revision)), ("audience", .string context.audience.text),
    ("releaseTag", .string verified.releaseTag), ("active", .bool false),
    ("artifacts", .array (verified.artifacts.map artifactJson))]

def registerLicensingAgentUpdateRelease (context : UpdateContext)
    (version minimumSupportedVersion : String) (revision : Int) : UpdateTx Json :=
  if platform.semver.valid version = false ∨ platform.semver.valid minimumSupportedVersion = false then
    throw (.message "AGENT_UPDATE_RELEASE_VERSION_INVALID")
  else if platform.semver.gt minimumSupportedVersion version then
    throw (.message "AGENT_UPDATE_MINIMUM_VERSION_INVALID")
  else if isSafeInteger revision = false ∨ revision < 1 then
    throw (.message "AGENT_UPDATE_REVISION_INVALID")
  else mutation platform context .releaseRegistered
    (releaseRegistrationRequest context version minimumSupportedVersion revision)
    (recordRelease platform context version minimumSupportedVersion revision)

def releaseRequest (releaseId : Id) : Json := .object [("releaseId", .string releaseId)]

def activeReleaseJson (release : LicensingAgentUpdateRelease) : Json :=
  .object [("id", .string release.id), ("version", .string release.version),
    ("revision", .number (toString release.revision)), ("audience", .string release.audience.text),
    ("active", .bool true)]

/-- The releases of an audience that were ever activated, other than one. -/
def activationHistory (target : LicensingAgentUpdateRelease) (store : UpdateStore) :
    List LicensingAgentUpdateRelease :=
  store.releases.select fun release =>
    release.audience = target.audience && release.activatedAt.isSome && release.id ≠ target.id

def rollsBack (target : LicensingAgentUpdateRelease) (store : UpdateStore) : Bool :=
  (activationHistory target store).any fun prior =>
    prior.revision ≥ target.revision || !platform.semver.gt target.version prior.version

/-- An update of the release with this id. -/
def setRelease (id : Id) (data : LicensingAgentUpdateRelease -> LicensingAgentUpdateRelease)
    (releases : Table LicensingAgentUpdateRelease) : Option (Table LicensingAgentUpdateRelease) :=
  releases.amend (fun release => release.id = id) data

def deactivated (now : Time) (release : LicensingAgentUpdateRelease) : LicensingAgentUpdateRelease :=
  { release with active := false, retiredAt := some now, updatedAt := now }

def activated (actorId : Id) (now : Time) (release : LicensingAgentUpdateRelease) :
    LicensingAgentUpdateRelease :=
  { release with
    active := true
    activatedById := some actorId
    activatedAt := some (release.activatedAt.getD now)
    retiredAt := none
    updatedAt := now }

/-- Deactivate the release of the audience that is active now, if there is one. -/
def retireCurrent (target : LicensingAgentUpdateRelease) (now : Time) (store : UpdateStore) :
    Option (Table LicensingAgentUpdateRelease) :=
  match (activationHistory target store).find? fun release => release.active with
  | some current => setRelease current.id (deactivated now) store.releases
  | none => some store.releases

def activateRelease (context : UpdateContext) (releaseId : Id) : UpdateTx Json := do
  let store <- get
  let target <- Transaction.orFail (.message "AGENT_UPDATE_RELEASE_NOT_FOUND")
    (store.releases.lookup (.id releaseId))
  liftM (reject (target.audience ≠ context.audience)
    (.message "AGENT_UPDATE_RELEASE_AUDIENCE_MISMATCH"))
  if target.active then return activeReleaseJson target
  let artifacts := store.artifacts.select fun artifact => artifact.releaseId = target.id
  liftM (reject (artifacts.length < 1) (.message "AGENT_UPDATE_RELEASE_HAS_NO_ARTIFACTS"))
  let activeKeys := store.keys.select fun key => key.status = .active
  liftM (reject (activeKeys.any (fun key => platform.semver.valid key.trustedFromVersion &&
      platform.semver.lte key.trustedFromVersion target.minimumSupportedVersion) = false)
    (.message "AGENT_UPDATE_RELEASE_HAS_NO_COMPATIBLE_SIGNING_KEY"))
  liftM (reject (rollsBack platform target store = true)
    (.message "AGENT_UPDATE_RELEASE_ROLLBACK_FORBIDDEN"))
  let releases <- Transaction.orFail .uniqueViolation (retireCurrent target context.now store)
  let releases <- Transaction.orFail .uniqueViolation
    (setRelease target.id (activated context.actorId context.now) releases)
  set { store with releases }
  return activeReleaseJson target

def activateLicensingAgentUpdateRelease (context : UpdateContext) (releaseId : Id) : UpdateTx Json :=
  mutation platform context .releaseActivated (releaseRequest releaseId)
    (activateRelease platform context releaseId)

def deactivateRelease (context : UpdateContext) (releaseId : Id) : UpdateTx Json := do
  let store <- get
  let release <- Transaction.orFail (.message "AGENT_UPDATE_RELEASE_NOT_FOUND")
    (store.releases.lookup (.id releaseId))
  liftM (reject (release.audience ≠ context.audience)
    (.message "AGENT_UPDATE_RELEASE_AUDIENCE_MISMATCH"))
  let releases <- Transaction.orFail .uniqueViolation
    (setRelease release.id (deactivated context.now) store.releases)
  set { store with releases }
  return .object [("id", .string release.id), ("version", .string release.version),
    ("audience", .string release.audience.text), ("active", .bool false)]

def deactivateLicensingAgentUpdateRelease (context : UpdateContext) (releaseId : Id) :
    UpdateTx Json :=
  mutation platform context .releaseDeactivated (releaseRequest releaseId)
    (deactivateRelease context releaseId)

/-! ## The endpoint -/

inductive UpdateMutation
  | registerKey (keyId publicKey trustedFromVersion : String)
  | activateKey (keyId : String)
  | retireKey (keyId : String)
  | registerRelease (version minimumSupportedVersion : String) (revision : Int)
  | activateRelease (releaseId : Id)
  | deactivateRelease (releaseId : Id)

structure UpdateCall where
  context : UpdateContext
  mutation : UpdateMutation

def perform (call : UpdateCall) : UpdateTx Json :=
  match call.mutation with
  | .registerKey keyId publicKey trustedFromVersion =>
    registerLicensingAgentUpdateKey platform call.context keyId publicKey trustedFromVersion
  | .activateKey keyId => activateLicensingAgentUpdateKey platform call.context keyId
  | .retireKey keyId => retireLicensingAgentUpdateKey platform call.context keyId
  | .registerRelease version minimumSupportedVersion revision =>
    registerLicensingAgentUpdateRelease platform call.context version minimumSupportedVersion revision
  | .activateRelease releaseId => activateLicensingAgentUpdateRelease platform call.context releaseId
  | .deactivateRelease releaseId =>
    deactivateLicensingAgentUpdateRelease platform call.context releaseId

/-- The update authority under any number of concurrent mutation calls. -/
def updateMachine :
    Machine (Shared UpdateStore UpdateCall) (SessionMove UpdateCall) (SessionRefusal UpdateError) :=
  Shared.machine (perform platform)

end Distribution
end DigitalSolutions

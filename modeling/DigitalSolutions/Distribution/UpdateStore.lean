import DigitalSolutions.Distribution.UpdateContract
import DigitalSolutions.Foundation.Transaction

namespace DigitalSolutions
namespace Distribution

open Foundation Persistence

/-!
# The tables of the update authority

Signing keys, releases with their installers, and the operations that changed
them.  A release that is active occupies the entry of its audience in the
partial unique index, so no two releases of an audience are active at once.
-/

inductive UpdateKeyStatus
  | staged | active | retired
  deriving DecidableEq

def UpdateKeyStatus.text : UpdateKeyStatus -> String
  | .staged => "STAGED"
  | .active => "ACTIVE"
  | .retired => "RETIRED"

structure LicensingAgentUpdateKey where
  id : Id
  keyId : String
  publicKey : String
  privateKeyReference : String
  trustedFromVersion : String
  status : UpdateKeyStatus
  createdById : Id
  createdAt : Time
  activatedAt : Option Time
  retiredAt : Option Time
  deriving DecidableEq

inductive LicensingAgentUpdateKey.Key
  | id (value : Id) | keyId (value : String)
  deriving DecidableEq

instance : Keyed LicensingAgentUpdateKey LicensingAgentUpdateKey.Key where
  keys row := [.id row.id, .keyId row.keyId]

structure LicensingAgentUpdateRelease where
  id : Id
  version : String
  minimumSupportedVersion : String
  revision : Int
  audience : LicensingAgentUpdateAudience
  releaseTag : String
  publishedAt : Time
  active : Bool
  createdById : Id
  activatedById : Option Id
  createdAt : Time
  updatedAt : Time
  activatedAt : Option Time
  retiredAt : Option Time
  deriving DecidableEq

inductive LicensingAgentUpdateRelease.Key
  | id (value : Id)
  | version (value : String) (audience : LicensingAgentUpdateAudience)
  | revision (value : Int) (audience : LicensingAgentUpdateAudience)
  | releaseTag (value : String) (audience : LicensingAgentUpdateAudience)
  | active (audience : LicensingAgentUpdateAudience)
  deriving DecidableEq

instance : Keyed LicensingAgentUpdateRelease LicensingAgentUpdateRelease.Key where
  keys row :=
    [.id row.id, .version row.version row.audience, .revision row.revision row.audience,
      .releaseTag row.releaseTag row.audience] ++ if row.active then [.active row.audience] else []

structure LicensingAgentUpdateArtifactRow where
  id : Id
  releaseId : Id
  architecture : LicensingAgentArchitecture
  artifactId : String
  sha256 : String
  sizeBytes : Int
  createdAt : Time
  deriving DecidableEq

inductive LicensingAgentUpdateArtifactRow.Key
  | id (value : Id)
  | architecture (releaseId : Id) (architecture : LicensingAgentArchitecture)
  | artifactId (releaseId : Id) (artifactId : String)
  deriving DecidableEq

instance : Keyed LicensingAgentUpdateArtifactRow LicensingAgentUpdateArtifactRow.Key where
  keys row := [.id row.id, .architecture row.releaseId row.architecture,
    .artifactId row.releaseId row.artifactId]

inductive UpdateAction
  | keyStaged | keyActivated | keyRetired | releaseRegistered | releaseActivated | releaseDeactivated
  deriving DecidableEq

/-- The column `metadata`, which holds the request and its result. -/
structure OperationMetadata where
  request : Json
  result : Json
  deriving DecidableEq

structure LicensingAgentUpdateOperation where
  id : Id
  operationId : String
  action : UpdateAction
  actorId : Id
  metadata : OperationMetadata
  createdAt : Time
  deriving DecidableEq

inductive LicensingAgentUpdateOperation.Key
  | id (value : Id) | operationId (value : String)
  deriving DecidableEq

instance : Keyed LicensingAgentUpdateOperation LicensingAgentUpdateOperation.Key where
  keys row := [.id row.id, .operationId row.operationId]

structure UpdateStore where
  keys : Table LicensingAgentUpdateKey
  releases : Table LicensingAgentUpdateRelease
  artifacts : Table LicensingAgentUpdateArtifactRow
  operations : Table LicensingAgentUpdateOperation
  deriving DecidableEq

def UpdateStore.empty : UpdateStore := ⟨∅, ∅, ∅, ∅⟩

abbrev UpdateTx (Value : Type) := Transaction UpdateError UpdateStore Value

/-- Two active releases of an audience are one. -/
theorem active_release_unique {releases : Table LicensingAgentUpdateRelease}
    {first second : LicensingAgentUpdateRelease} (firstMember : first ∈ releases)
    (secondMember : second ∈ releases) (firstActive : first.active = true)
    (secondActive : second.active = true) (sameAudience : first.audience = second.audience) :
    first = second := by
  have firstKey : LicensingAgentUpdateRelease.Key.active first.audience ∈ Keyed.keys first := by
    simp [Keyed.keys, firstActive]
  have secondKey : LicensingAgentUpdateRelease.Key.active first.audience ∈ Keyed.keys second := by
    simp [Keyed.keys, secondActive, sameAudience]
  exact releases.eq_of_common_key firstMember secondMember firstKey secondKey

end Distribution
end DigitalSolutions

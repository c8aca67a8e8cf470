import DigitalSolutions.Distribution.UpdateStore

namespace DigitalSolutions
namespace Distribution

open Foundation Persistence Platform

/-!
# Serving an update policy

The authority looks up the active release of its audience with the installer
for the client's architecture, and signs with the key that the client trusts
since most recently.
-/

variable (platform : UpdatePlatform)

def licensingAgentUpdateKeyReference (keyId : String) : Except UpdateError String :=
  if safeKeyId keyId = false then
    .error (.configuration "Agent update signing key id is malformed")
  else .ok s!"key:{keyId}"

/-- A parsed key map that is an object. -/
def keyMap? : Option Json -> Option Json
  | some (.object entries) => some (.object entries)
  | _ => none

/-- A value of the key map, where it is a text that is not blank. -/
def configuredKey? (map : Json) (keyId : String) : Option String :=
  (text? (property map keyId)).bind fun value => if trim value = "" then none else some (trim value)

def resolveLicensingAgentUpdatePrivateKey (reference : String) : Except UpdateError String := do
  reject ("key:".toList.isPrefixOf reference.toList = false)
    (.configuration "unsupported Agent update signing-key reference")
  let keyId := String.ofList (reference.toList.drop 4)
  let wellFormed <- licensingAgentUpdateKeyReference keyId
  reject (wellFormed ≠ reference)
    (.configuration "Agent update signing-key reference is malformed")
  let raw := (platform.updateSigningKeys.map trim).getD ""
  reject (raw = "") (.configuration "Agent update signing key map is unavailable")
  let map <- required (keyMap? (platform.parseJson raw))
    (.configuration "Agent update signing key map is malformed")
  required (configuredKey? map keyId)
    (.configuration "Agent update signing private key is unavailable")

/-- The rows of the join of an audience's active release with its installer. -/
def activeRelease (store : UpdateStore) (audience : LicensingAgentUpdateAudience)
    (architecture : LicensingAgentArchitecture) :
    List (LicensingAgentUpdateRelease × LicensingAgentUpdateArtifactRow) :=
  (store.releases.select fun release => release.audience = audience && release.active).flatMap fun release =>
    (store.artifacts.select fun artifact =>
      artifact.releaseId = release.id && artifact.architecture = architecture).map fun artifact =>
        (release, artifact)

/-- The active keys that a client of this version trusts, latest first. -/
def compatibleKeys (store : UpdateStore) (currentVersion : String) : List LicensingAgentUpdateKey :=
  ((store.keys.select fun key => key.status = .active).filter fun key =>
    platform.semver.valid key.trustedFromVersion &&
      platform.semver.lte key.trustedFromVersion currentVersion).insertionSort fun left right =>
    platform.semver.rcompare left.trustedFromVersion right.trustedFromVersion ≤ 0

def resolveSignedLicensingAgentUpdate (audience : LicensingAgentUpdateAudience)
    (request : LicensingAgentUpdateRequest) (issuedAt : Time) (store : UpdateStore) :
    Except UpdateError SignedLicensingAgentUpdatePolicy := do
  let currentVersion := trim request.currentVersion
  reject (platform.semver.valid currentVersion = false)
    (.request "version must be a valid semantic version")
  reject (toLowerCase (trim request.platform) ≠ "windows") (.request "unsupported platform")
  let architecture <- normalizeLicensingAgentArchitecture request.architecture
  let (release, artifact) <- required (activeRelease store audience architecture).head?
    (.configuration "active Agent update release is unavailable")
  let key <- required (compatibleKeys platform store currentVersion).head?
    (.configuration "no trusted Agent update signing key is compatible with this client")
  reject (isSafeInteger artifact.sizeBytes = false)
    (.configuration "Agent update artifact size is invalid")
  let signingPrivateKey <- resolveLicensingAgentUpdatePrivateKey platform key.privateKeyReference
  signLicensingAgentUpdatePolicy platform request
    { latestVersion := release.version
      minimumSupportedVersion := release.minimumSupportedVersion
      revision := release.revision
      releaseTag := release.releaseTag
      publishedAt := release.publishedAt
      artifact := ⟨artifact.architecture, artifact.artifactId, artifact.sha256, artifact.sizeBytes⟩
      signingKeyId := key.keyId
      signingPublicKey := key.publicKey
      signingPrivateKey }
    issuedAt

end Distribution
end DigitalSolutions

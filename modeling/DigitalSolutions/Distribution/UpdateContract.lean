import DigitalSolutions.Persistence.Schema
import DigitalSolutions.Platform.Text

namespace DigitalSolutions
namespace Distribution

open Persistence Platform

/-!
# The signed update policy of the licensing agent

What the server promises an installed agent: the latest release for its
architecture, signed.  Semantic versions come from a package and the Ed25519
primitives from the platform, so both are parameters; `Semver.Lawful` and
`Ed25519` are what the results below rely on.
-/

/-- The package `semver`: whether a text is a version, and how two compare. -/
structure Semver where
  valid : String -> Bool
  compare : String -> String -> Int

namespace Semver

variable (semver : Semver)

def gt (left right : String) : Bool := semver.compare left right > 0

def lte (left right : String) : Bool := semver.compare left right ≤ 0

def rcompare (left right : String) : Int := semver.compare right left

/-- Versions are compared by precedence, a total preorder. -/
structure Lawful : Prop where
  swap : forall left right, semver.valid left = true -> semver.valid right = true ->
    semver.compare right left = - semver.compare left right
  trans : forall first second third, semver.valid first = true -> semver.valid second = true ->
    semver.valid third = true -> semver.lte first second = true -> semver.lte second third = true ->
    semver.lte first third = true

end Semver

structure PrivateKey where
  asymmetricKeyType : String
  material : String
  deriving DecidableEq

/-- What the update authority takes from its runtime. -/
structure UpdatePlatform where
  semver : Semver
  localeCompare : String -> String -> Int
  parseJson : String -> Option Json
  stringify : Json -> String
  decodeBase64 : String -> List UInt8
  encodeBase64 : List UInt8 -> String
  decodeUtf8 : List UInt8 -> String
  createPrivateKey : String -> Except String PrivateKey
  /-- The decoded member `x` of the public key's JWK. -/
  publicKeyBytes : PrivateKey -> Option (List UInt8)
  sign : PrivateKey -> String -> List UInt8
  /-- Verification under the public key that belongs to a private key. -/
  verify : PrivateKey -> String -> List UInt8 -> Bool
  /-- `new Date(text)`, where it is a valid date. -/
  parseDate : String -> Option Time
  toISOString : Time -> String
  /-- `BKE_AGENT_UPDATE_SIGNING_KEYS`. -/
  updateSigningKeys : Option String

/-- A signature verifies under the public key of the key that made it. -/
def UpdatePlatform.Ed25519 (platform : UpdatePlatform) : Prop :=
  forall key message, key.asymmetricKeyType = "ed25519" ->
    platform.verify key message (platform.sign key message) = true

inductive UpdateError
  /-- A `LicensingAgentUpdateRequestError`. -/
  | request (message : String)
  /-- A `LicensingAgentUpdateConfigurationError`. -/
  | configuration (message : String)
  /-- A plain `Error` or `TypeError`. -/
  | message (text : String)
  | uniqueViolation
  | checkViolation
  deriving DecidableEq

inductive LicensingAgentArchitecture
  | x86_64 | arm64
  deriving DecidableEq

inductive LicensingAgentUpdateAudience
  | preproduction | production
  deriving DecidableEq

def LicensingAgentUpdateAudience.text : LicensingAgentUpdateAudience -> String
  | .preproduction => "PREPRODUCTION"
  | .production => "PRODUCTION"

def LicensingAgentArchitecture.text : LicensingAgentArchitecture -> String
  | .x86_64 => "x86_64"
  | .arm64 => "arm64"

/-- `if (condition) throw fault`. -/
def reject (condition : Prop) [Decidable condition] (fault : UpdateError) : Except UpdateError Unit :=
  if condition then .error fault else .ok ()

/-- A value that is there, or a throw. -/
def required {Value : Type} (value : Option Value) (fault : UpdateError) : Except UpdateError Value :=
  match value with
  | some found => .ok found
  | none => .error fault

theorem bind_ok_iff {Value Result : Type} {first : Except UpdateError Value}
    {rest : Value -> Except UpdateError Result} {result : Result} :
    (first >>= rest) = .ok result ↔ Exists fun value => first = .ok value ∧ rest value = .ok result := by
  cases first with
  | error fault => simp [bind, Except.bind]
  | ok value => simp [bind, Except.bind]

theorem reject_ok_iff {condition : Prop} [Decidable condition] {fault : UpdateError} {done : Unit} :
    reject condition fault = .ok done ↔ ¬ condition := by
  unfold reject
  split
  · rename_i holds
    simp [holds]
  · rename_i fails
    simp [fails]

theorem required_ok_iff {Value : Type} {value : Option Value} {fault : UpdateError} {found : Value} :
    required value fault = .ok found ↔ value = some found := by
  cases value with
  | none => simp [required]
  | some stored => simp [required]

structure LicensingAgentUpdateRequest where
  currentVersion : String
  platform : String
  architecture : String

structure LicensingAgentUpdateArtifact where
  architecture : LicensingAgentArchitecture
  artifactId : String
  sha256 : String
  size : Int
  deriving DecidableEq

structure LicensingAgentUpdatePolicyConfiguration where
  latestVersion : String
  minimumSupportedVersion : String
  revision : Int
  releaseTag : String
  publishedAt : Time
  artifact : LicensingAgentUpdateArtifact
  signingKeyId : String
  signingPublicKey : String
  signingPrivateKey : String

structure UnsignedPolicy where
  currentVersion : String
  latestVersion : String
  minimumSupportedVersion : String
  architecture : LicensingAgentArchitecture
  releaseId : String
  artifactId : String
  artifactSha256 : String
  artifactSize : Int
  publishedAt : String
  issuedAt : String
  revision : Int
  signingKeyId : String
  deriving DecidableEq

structure SignedLicensingAgentUpdatePolicy extends UnsignedPolicy where
  signature : String
  deriving DecidableEq

def licensingAgentMaxInstallerBytes : Int := 512 * 1024 * 1024

def maxSafeInteger : Int := 9007199254740991

def isSafeInteger (value : Int) : Bool := -maxSafeInteger ≤ value && value ≤ maxSafeInteger

/-- A character of `[A-Za-z0-9._-]`. -/
def isKeyIdCharacter (character : Char) : Bool :=
  ('A' ≤ character && character ≤ 'Z') || ('a' ≤ character && character ≤ 'z') ||
    ('0' ≤ character && character ≤ '9') || character = '.' || character = '_' || character = '-'

/-- `/^[A-Za-z0-9._-]{1,64}$/`. -/
def safeKeyId (keyId : String) : Bool :=
  1 ≤ keyId.toList.length && keyId.toList.length ≤ 64 && keyId.toList.all isKeyIdCharacter

/-- `/^[a-f0-9]{64}$/`. -/
def isSha256 (digest : String) : Bool :=
  digest.toList.length = 64 &&
    digest.toList.all fun character =>
      ('a' ≤ character && character ≤ 'f') || ('0' ≤ character && character ≤ '9')

def normalizeLicensingAgentArchitecture (value : String) :
    Except UpdateError LicensingAgentArchitecture :=
  let normalized := toLowerCase (trim value)
  if normalized ∈ ["x64", "amd64", "x86_64"] then .ok .x86_64
  else if normalized = "arm64" then .ok .arm64
  else .error (.request "unsupported architecture")

variable (platform : UpdatePlatform)

def licensingAgentReleaseTag (version : String) : Except UpdateError String :=
  if platform.semver.valid version = false then
    .error (.request "version must be a valid semantic version")
  else .ok s!"bke-licensing-agent-v{version}"

def licensingAgentArtifactId (version : String) (architecture : LicensingAgentArchitecture) : String :=
  let suffix := match architecture with
    | .x86_64 => "x64"
    | .arm64 => "arm64"
  s!"BKE-Licensing-Agent-{version}-Windows-{suffix}.exe"

/-! ## Signing -/

/-- The policy as the object that is serialised and signed. -/
def UnsignedPolicy.entries (policy : UnsignedPolicy) : List (String × Json) :=
  [("schema", .string "bke.update-policy.v1"),
    ("product_id", .string "bke-licensing-agent"),
    ("current_version", .string policy.currentVersion),
    ("latest_version", .string policy.latestVersion),
    ("minimum_supported_version", .string policy.minimumSupportedVersion),
    ("channel", .string "stable"),
    ("platform", .string "windows"),
    ("architecture", .string policy.architecture.text),
    ("release_id", .string policy.releaseId),
    ("artifact_id", .string policy.artifactId),
    ("artifact_sha256", .string policy.artifactSha256),
    ("artifact_size", .number (toString policy.artifactSize)),
    ("content_type", .string "application/vnd.microsoft.portable-executable"),
    ("published_at", .string policy.publishedAt),
    ("issued_at", .string policy.issuedAt),
    ("revision", .number (toString policy.revision)),
    ("signing_key_id", .string policy.signingKeyId),
    ("algorithm", .string "Ed25519")]

def canonicalUnsignedPolicy (policy : UnsignedPolicy) : String :=
  platform.stringify (.object (Json.ownPropertyOrder (policy.entries.insertionSort
    fun left right => platform.localeCompare left.1 right.1 ≤ 0)))

def includesText (text part : String) : Bool :=
  text.toList.tails.any fun rest => part.toList.isPrefixOf rest

def parsePrivateKey (value : String) : Except UpdateError PrivateKey :=
  let raw := if includesText value "BEGIN" then value
    else platform.decodeUtf8 (platform.decodeBase64 value)
  match platform.createPrivateKey raw with
  | .error reason => .error (.configuration s!"update signing private key is invalid: {reason}")
  | .ok key =>
    if key.asymmetricKeyType ≠ "ed25519" then
      .error (.configuration "update signing private key is invalid: not Ed25519")
    else .ok key

def rawEd25519PublicKeyFromPrivate (privateValue : String) : Except UpdateError (List UInt8) := do
  let key <- parsePrivateKey platform privateValue
  match platform.publicKeyBytes key with
  | none => .error (.configuration "update signing public key is unavailable")
  | some raw =>
    if raw.length ≠ 32 then .error (.configuration "update signing public key must be 32 bytes")
    else .ok raw

/-- `text.replace(/=+$/u, "")`. -/
def withoutPadding (text : String) : String :=
  String.ofList (text.toList.reverse.dropWhile (· = '=')).reverse

def assertLicensingAgentSigningMaterial (publicKeyBase64 privateValue : String) :
    Except UpdateError Unit :=
  let supplied := platform.decodeBase64 publicKeyBase64
  let normalizedInput := withoutPadding publicKeyBase64
  let normalizedRoundTrip := withoutPadding (platform.encodeBase64 supplied)
  let mismatch := UpdateError.configuration "update signing public/private key mismatch"
  if supplied.length ≠ 32 ∨ normalizedInput ≠ normalizedRoundTrip then .error mismatch
  else do
    let raw <- rawEd25519PublicKeyFromPrivate platform privateValue
    if supplied ≠ raw then .error mismatch else .ok ()

/-- The checks of `signLicensingAgentUpdatePolicy`, up to the signing material. -/
def checkUpdatePolicy (request : LicensingAgentUpdateRequest)
    (configuration : LicensingAgentUpdatePolicyConfiguration) :
    Except UpdateError LicensingAgentArchitecture := do
  let currentVersion := trim request.currentVersion
  reject (platform.semver.valid currentVersion = false)
    (.request "version must be a valid semantic version")
  reject (toLowerCase (trim request.platform) ≠ "windows") (.request "unsupported platform")
  let architecture <- normalizeLicensingAgentArchitecture request.architecture
  reject (architecture ≠ configuration.artifact.architecture)
    (.configuration "update artifact architecture mismatch")
  reject (platform.semver.valid configuration.latestVersion = false ∨
      platform.semver.valid configuration.minimumSupportedVersion = false)
    (.configuration "update authority versions are invalid")
  reject (platform.semver.gt configuration.minimumSupportedVersion configuration.latestVersion)
    (.configuration "minimum supported version cannot exceed latest version")
  reject (platform.semver.gt currentVersion configuration.latestVersion)
    (.request "installed version is newer than update authority")
  reject (isSafeInteger configuration.revision = false ∨ configuration.revision < 1)
    (.configuration "update authority revision is invalid")
  reject (safeKeyId configuration.signingKeyId = false)
    (.configuration "update signing key id is malformed")
  reject (isSha256 configuration.artifact.sha256 = false ∨
      isSafeInteger configuration.artifact.size = false ∨
      configuration.artifact.size < 2 ∨
      configuration.artifact.size > licensingAgentMaxInstallerBytes)
    (.configuration "update artifact identity is invalid")
  let releaseTag <- licensingAgentReleaseTag platform configuration.latestVersion
  reject (configuration.releaseTag ≠ releaseTag ∨
      configuration.artifact.artifactId ≠
        licensingAgentArtifactId configuration.latestVersion configuration.artifact.architecture)
    (.configuration "update release identity is invalid")
  assertLicensingAgentSigningMaterial platform configuration.signingPublicKey
    configuration.signingPrivateKey
  .ok architecture

def unsignedPolicy (request : LicensingAgentUpdateRequest)
    (configuration : LicensingAgentUpdatePolicyConfiguration) (issuedAt : Time)
    (architecture : LicensingAgentArchitecture) : UnsignedPolicy where
  currentVersion := trim request.currentVersion
  latestVersion := configuration.latestVersion
  minimumSupportedVersion := configuration.minimumSupportedVersion
  architecture
  releaseId := configuration.releaseTag
  artifactId := configuration.artifact.artifactId
  artifactSha256 := configuration.artifact.sha256
  artifactSize := configuration.artifact.size
  publishedAt := platform.toISOString configuration.publishedAt
  issuedAt := platform.toISOString issuedAt
  revision := configuration.revision
  signingKeyId := configuration.signingKeyId

def signLicensingAgentUpdatePolicy (request : LicensingAgentUpdateRequest)
    (configuration : LicensingAgentUpdatePolicyConfiguration) (issuedAt : Time) :
    Except UpdateError SignedLicensingAgentUpdatePolicy := do
  let architecture <- checkUpdatePolicy platform request configuration
  let unsigned := unsignedPolicy platform request configuration issuedAt architecture
  let privateKey <- parsePrivateKey platform configuration.signingPrivateKey
  let canonical := canonicalUnsignedPolicy platform unsigned
  let signature := platform.sign privateKey canonical
  reject (platform.verify privateKey canonical signature = false)
    (.configuration "update policy signing self-verification failed")
  .ok { unsigned with signature := platform.encodeBase64 signature }

/-! ## Verifying a release on GitHub -/

/-- What the release API answered; `document` is the body, where it is JSON. -/
structure GitHubResponse where
  ok : Bool
  status : Nat
  document : Option Json
  deriving DecidableEq

structure VerifiedLicensingAgentGitHubRelease where
  version : String
  releaseTag : String
  publishedAt : Time
  prerelease : Bool
  artifacts : List LicensingAgentUpdateArtifact
  deriving DecidableEq

/-- A property of a value that is not `null`. -/
def property (value : Json) (name : String) : Option Json :=
  match value with
  | .object entries => (entries.find? fun entry => entry.1 = name).map Prod.snd
  | _ => none

def flag? : Option Json -> Option Bool
  | some (.bool value) => some value
  | _ => none

def text? : Option Json -> Option String
  | some (.string value) => some value
  | _ => none

def elements? : Option Json -> Option (List Json)
  | some (.array values) => some values
  | _ => none

def decimal? (digits : List Char) : Option Nat :=
  if digits.isEmpty || !digits.all Char.isDigit then none
  else some (digits.foldl (fun value digit => 10 * value + (digit.toNat - '0'.toNat)) 0)

/-- The safe integer that a number literal stands for. -/
def safeInteger? (literal : String) : Option Int :=
  let integer := match literal.toList with
    | '-' :: digits => (decimal? digits).map fun value => -(value : Int)
    | digits => (decimal? digits).map fun value => (value : Int)
  integer.filter isSafeInteger

/-- The text after `sha256:`, or nothing. -/
def assetDigest (asset : Json) : String :=
  match text? (property asset "digest") with
  | some digest =>
    if "sha256:".toList.isPrefixOf digest.toList then String.ofList (digest.toList.drop 7) else ""
  | none => ""

def assetSize? (asset : Json) : Option Int :=
  match property asset "size" with
  | some (.number literal) =>
    (safeInteger? literal).filter fun size => 2 ≤ size && size ≤ licensingAgentMaxInstallerBytes
  | _ => none

/-- The installers among the assets of a release. -/
def inspectAssets (version : String) : List Json -> Except UpdateError (List LicensingAgentUpdateArtifact)
  | [] => .ok []
  | asset :: rest =>
    if asset = .null then .error (.message "Cannot read properties of null (reading 'name')")
    else
      let named := [LicensingAgentArchitecture.x86_64, .arm64].find? fun candidate =>
        property asset "name" = some (.string (licensingAgentArtifactId version candidate))
      match named with
      | none => inspectAssets version rest
      | some architecture =>
        match isSha256 (assetDigest asset), assetSize? asset with
        | true, some size => do
          let later <- inspectAssets version rest
          .ok (⟨architecture, licensingAgentArtifactId version architecture, assetDigest asset, size⟩
            :: later)
        | _, _ => .error (.configuration
            s!"GitHub Agent release asset metadata is invalid for {architecture.text}")

def inspectLicensingAgentGitHubRelease (version : String) (audience : LicensingAgentUpdateAudience)
    (fetched : Except UpdateError GitHubResponse) :
    Except UpdateError VerifiedLicensingAgentGitHubRelease := do
  let releaseTag <- licensingAgentReleaseTag platform version
  let response <- fetched
  reject (response.ok = false)
    (.configuration s!"GitHub Agent release verification failed with HTTP {response.status}")
  let release <- required response.document (.message "Unexpected token in JSON")
  reject (release = .null) (.message "Cannot read properties of null (reading 'tag_name')")
  let invalid := UpdateError.configuration "GitHub Agent release metadata is invalid"
  reject (property release "tag_name" ≠ some (.string releaseTag) ∨
    property release "draft" ≠ some (.bool false)) invalid
  let prerelease <- required (flag? (property release "prerelease")) invalid
  let published <- required (text? (property release "published_at")) invalid
  let assets <- required (elements? (property release "assets")) invalid
  reject ((audience = .preproduction ∧ prerelease = false) ∨ (audience = .production ∧ prerelease = true))
    (.configuration "GitHub Agent release audience does not match prerelease state")
  let publishedAt <- required (platform.parseDate published)
    (.configuration "GitHub Agent release published_at is invalid")
  let artifacts <- inspectAssets version assets
  reject (artifacts.any (fun artifact => artifact.architecture = .x86_64) = false)
    (.configuration "GitHub Agent release is missing the required Windows x64 installer")
  .ok ⟨version, releaseTag, publishedAt, prerelease, artifacts⟩

end Distribution
end DigitalSolutions

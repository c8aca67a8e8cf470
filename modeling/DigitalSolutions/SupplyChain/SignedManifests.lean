import DigitalSolutions.Foundation.Base64
import DigitalSolutions.Foundation.Checks
import DigitalSolutions.Foundation.Utf8
import DigitalSolutions.Persistence.JsonText
import DigitalSolutions.Platform.Text

namespace DigitalSolutions
namespace SupplyChain

open Foundation Persistence Platform

/-!
# Signed release manifests

A release is signed over the canonical JSON of its manifest.  An envelope
carries the manifest, the signature and the id of the key, and is verified
against a keyring of trusted public keys.  Signing and verifying decode the
text of a key each in its own way.
-/

/-! ## Manifests -/

structure SignedArtifact where
  id : String
  objectKey : String
  sha256 : String
  sizeBytes : Int
  contentType : String
  deriving DecidableEq

structure SignedReleaseManifest where
  productId : String
  productSlug : String
  versionId : String
  version : String
  signingKeyId : String
  artifacts : List SignedArtifact
  deriving DecidableEq

/-- What a release is signed from: its manifest without schema and key id. -/
structure ReleaseInput where
  productId : String
  productSlug : String
  versionId : String
  version : String
  artifacts : List SignedArtifact
  deriving DecidableEq

def schemaName : String := "bke.supply-chain.v1"

def SignedArtifact.entries (artifact : SignedArtifact) : List (String × Json) :=
  [("id", .string artifact.id), ("objectKey", .string artifact.objectKey), ("sha256", .string artifact.sha256),
    ("sizeBytes", .number (toString artifact.sizeBytes)), ("contentType", .string artifact.contentType)]

/-- The members of a manifest around the values of its artifacts. -/
def SignedReleaseManifest.entries (manifest : SignedReleaseManifest) (artifacts : List Json) :
    List (String × Json) :=
  [("schema", .string schemaName), ("productId", .string manifest.productId),
    ("productSlug", .string manifest.productSlug), ("versionId", .string manifest.versionId),
    ("version", .string manifest.version), ("signingKeyId", .string manifest.signingKeyId),
    ("artifacts", .array artifacts)]

def SignedReleaseManifest.json (manifest : SignedReleaseManifest) : Json :=
  .object (manifest.entries (manifest.artifacts.map (fun artifact => .object artifact.entries)))

/-! ## The platform and its configuration -/

structure SigningPlatform (PrivateKey PublicKey : Type) where
  localeCompare : String -> String -> Int
  /-- `createPrivateKey(text)`. -/
  importPrivateKey : String -> Option PrivateKey
  /-- `createPublicKey(text)`. -/
  importPublicKey : String -> Option PublicKey
  /-- `createPublicKey` of DER bytes in the SPKI format. -/
  importSpki : List UInt8 -> Option PublicKey
  sign : PrivateKey -> List UInt8 -> List UInt8
  verify : PublicKey -> List UInt8 -> List UInt8 -> Bool
  /-- The SHA-256 of some bytes in hexadecimal digits. -/
  sha256Hex : List UInt8 -> String
  /-- How a number that is no safe integer is printed. -/
  rounded : String -> String

/-- The settings whose names begin with `SUPPLY_CHAIN`. -/
structure SupplyChainKeys where
  signingPrivateKey : Option String
  signingKeyId : String
  signingPublicKey : Option String
  trustedKeys : Option String
  deriving DecidableEq

/-- A setting that is given: an empty text counts as none. -/
def givenText (setting : Option String) : Option String := setting.filter (fun text => text ≠ "")

/-! ## The keyring -/

section Keyring

variable (rounded : String -> String)

def isKeyIdCharacter (character : Char) : Bool :=
  ('A' ≤ character && character ≤ 'Z') || ('a' ≤ character && character ≤ 'z') ||
    ('0' ≤ character && character ≤ '9') || character = '.' || character = '_' || character = '-'

/-- The pattern `^[A-Za-z0-9._-]{1,64}$`. -/
def isKeyId (text : String) : Bool :=
  0 < text.toList.length && text.toList.length ≤ 64 && text.toList.all isKeyIdCharacter

def keyringInvalid : String := "SUPPLY_CHAIN_TRUST_KEYRING_INVALID"

def keyringEntry (entry : String × Json) : Option (String × String) :=
  match entry.2 with
  | .string key => if isKeyId entry.1 && 32 ≤ utf16Length key then some (entry.1, key) else none
  | _ => none

def parseTrustedSupplyChainKeys (raw : Option String) (fallbackId : String) (fallbackKey : Option String) :
    Except String (List (String × String)) :=
  match givenText raw with
  | none =>
    match givenText fallbackKey with
    | some key => .ok [(fallbackId, key)]
    | none => .ok []
  | some text =>
    match Json.parse rounded text with
    | some (.object entries) =>
      if entries.isEmpty then .error keyringInvalid
      else match entries.mapM keyringEntry with
        | some keyring => .ok keyring
        | none => .error keyringInvalid
    | _ => .error keyringInvalid

/-- The names every object inherits. -/
def inheritedNames : List String :=
  ["constructor", "hasOwnProperty", "isPrototypeOf", "propertyIsEnumerable", "toLocaleString", "toString",
    "valueOf", "__proto__", "__defineGetter__", "__defineSetter__", "__lookupGetter__", "__lookupSetter__"]

/-- What indexing a keyring gives: a key of its own, or an inherited member
that is no text. -/
inductive ResolvedKey
  | own (key : String)
  | inherited
  deriving DecidableEq

def resolveTrustedSupplyChainKey (raw : Option String) (activeId : String) (fallbackKey : Option String)
    (requestedId : Option String) : Except String (String × ResolvedKey) := do
  let keyring <- parseTrustedSupplyChainKeys rounded raw activeId fallbackKey
  let keyId := requestedId.getD activeId
  match keyring.lookup keyId with
  | some key => return (keyId, .own key)
  | none =>
    if keyId ∈ inheritedNames then return (keyId, .inherited)
    else throw "SUPPLY_CHAIN_TRUST_KEY_NOT_CONFIGURED"

end Keyring

def includes (text part : String) : Bool := decide (part.toList <:+: text.toList)

section Signing

variable {PrivateKey PublicKey : Type} (platform : SigningPlatform PrivateKey PublicKey)

/-! ## Canonical payloads -/

/-- The function `ordered` of the source is `canonicalJson`. -/
def canonicalizeManifest (manifest : SignedReleaseManifest) : String :=
  Json.stringify (Json.canonicalJson platform.localeCompare manifest.json)

def manifestHash (serialized : String) : String := platform.sha256Hex (utf8Bytes serialized)

def buildReleaseManifest (input : ReleaseInput) (signingKeyId : String) : SignedReleaseManifest where
  productId := input.productId
  productSlug := input.productSlug
  versionId := input.versionId
  version := input.version
  signingKeyId
  artifacts := input.artifacts.insertionSort (fun left right => platform.localeCompare left.id right.id ≤ 0)

/-! ## Signing -/

structure SignedRelease where
  manifest : SignedReleaseManifest
  canonicalPayload : String
  payloadHash : String
  signature : String
  keyId : String
  deriving DecidableEq

/-- The key text that signing hands to the platform. -/
def keyMaterial (raw : String) : String :=
  if includes raw "BEGIN" then raw else utf8Text (base64Bytes raw)

/-- What is thrown where the platform takes no key out of a text.  The code
does not look at it. -/
def keyNotImported : String := "ERR_OSSL_UNSUPPORTED"

variable (keys : SupplyChainKeys)

/-- The key that signing makes of a trusted key, to check its own signature. -/
def selfVerificationKey (resolved : ResolvedKey) : Option PublicKey :=
  match resolved with
  | .own raw => platform.importPublicKey (keyMaterial raw)
  | .inherited => none

def resolveKey (keyId : String) : Except String (String × ResolvedKey) :=
  resolveTrustedSupplyChainKey platform.rounded keys.trustedKeys keys.signingKeyId keys.signingPublicKey
    (some keyId)

def signReleaseManifest (input : ReleaseInput) : Except String SignedRelease := do
  let privateKeyText <- demand (givenText keys.signingPrivateKey) "SUPPLY_CHAIN_SIGNING_NOT_CONFIGURED"
  let keyId := keys.signingKeyId
  let manifest := buildReleaseManifest platform input keyId
  let canonicalPayload := canonicalizeManifest platform manifest
  let privateKey <- demand (platform.importPrivateKey (keyMaterial privateKeyText)) keyNotImported
  let signature := base64Text (platform.sign privateKey (utf8Bytes canonicalPayload))
  let resolved <- resolveKey platform keys keyId
  let trusted <- demand (selfVerificationKey platform resolved.2) keyNotImported
  rejectIf (platform.verify trusted (utf8Bytes canonicalPayload) (base64Bytes signature) = false)
    "SUPPLY_CHAIN_SIGNATURE_SELF_VERIFY_FAILED"
  return ⟨manifest, canonicalPayload, manifestHash platform canonicalPayload, signature, keyId⟩

/-! ## Validation -/

structure ExpectedIdentity where
  productId : Option String
  productSlug : Option String
  versionId : Option String
  version : Option String
  deriving DecidableEq

def invalidManifest (reason : String) : String := s!"SUPPLY_CHAIN_MANIFEST_{reason}"

/-- A text of 1 to 512 code units. -/
def requireText (value : Option Json) (field : String) : Except String String :=
  match value with
  | some (.string text) =>
    if utf16Length text = 0 || 512 < utf16Length text then
      .error (invalidManifest ("INVALID_" ++ toUpperCase field))
    else .ok text
  | _ => .error (invalidManifest ("INVALID_" ++ toUpperCase field))

/-- The pattern `^[a-f0-9]{64}$`. -/
def isSha256 (text : String) : Bool :=
  text.toList.length = 64 && text.toList.all (fun character =>
    ('a' ≤ character && character ≤ 'f') || ('0' ≤ character && character ≤ '9'))

/-- A safe integer that is not negative. -/
def sizeOfArtifact (value : Option Json) : Option Int :=
  match value with
  | some (.number literal) => (Json.integerOf literal).filter (fun size => Json.isSafeInteger size && 0 ≤ size)
  | _ => none

def readArtifact (ids : List String) (raw : Json) : Except String SignedArtifact :=
  match raw with
  | .object entries => do
    let id <- requireText (entries.lookup "id") "artifact_id"
    let objectKey <- requireText (entries.lookup "objectKey") "object_key"
    let sha256 <- requireText (entries.lookup "sha256") "sha256"
    let contentType <- requireText (entries.lookup "contentType") "content_type"
    let sizeBytes <- demand (sizeOfArtifact (entries.lookup "sizeBytes")) (invalidManifest "ARTIFACT_CONTRACT")
    rejectIf (isSha256 sha256 = false ∨ id ∈ ids) (invalidManifest "ARTIFACT_CONTRACT")
    return ⟨id, objectKey, sha256, sizeBytes, contentType⟩
  | _ => throw (invalidManifest "ARTIFACT")

/-- The artifacts one after another; `ids` are those of the artifacts before. -/
def readArtifacts (ids : List String) : List Json -> Except String (List SignedArtifact)
  | [] => return []
  | raw :: rest => do
    let artifact <- readArtifact ids raw
    let others <- readArtifacts (artifact.id :: ids) rest
    return artifact :: others

def expectIdentity (expected : Option String) (value : String) (field : String) : Except String Unit :=
  rejectIf (expected.any (fun text => text ≠ value) = true) (invalidManifest ("IDENTITY_" ++ toUpperCase field))

def arrayElements (value : Option Json) : Option (List Json) :=
  match value with
  | some (.array elements) => some elements
  | _ => none

def validateReleaseManifest (input : Json) (expected : ExpectedIdentity) : Except String SignedReleaseManifest :=
  match input with
  | .object entries => do
    rejectIf (entries.lookup "schema" ≠ some (.string schemaName)) (invalidManifest "IDENTITY")
    let productId <- requireText (entries.lookup "productId") "productId"
    let productSlug <- requireText (entries.lookup "productSlug") "productSlug"
    let versionId <- requireText (entries.lookup "versionId") "versionId"
    let version <- requireText (entries.lookup "version") "version"
    let signingKeyId <- requireText (entries.lookup "signingKeyId") "signingKeyId"
    rejectIf (isKeyId signingKeyId = false) (invalidManifest "SIGNING_KEY_ID")
    let elements <- demand (arrayElements (entries.lookup "artifacts")) (invalidManifest "ARTIFACTS")
    let artifacts <- readArtifacts [] elements
    expectIdentity expected.productId productId "productId"
    expectIdentity expected.productSlug productSlug "productSlug"
    expectIdentity expected.versionId versionId "versionId"
    expectIdentity expected.version version "version"
    return ⟨productId, productSlug, versionId, version, signingKeyId, artifacts⟩
  | _ => .error (invalidManifest "INVALID_SHAPE")

/-! ## Verification -/

structure VerifiedRelease where
  manifest : SignedReleaseManifest
  payloadHash : String
  keyId : String
  deriving DecidableEq

/-- The key that verification makes of a trusted key. -/
def verificationKey (resolved : ResolvedKey) : Option PublicKey :=
  match resolved with
  | .own raw =>
    if includes raw "BEGIN" then platform.importPublicKey raw else platform.importSpki (base64Bytes raw)
  | .inherited => none

def verifySignedEnvelope (envelope : Json) (keyringRaw : Option String) (activeKeyId : String)
    (fallbackPublicKey : Option String) (expected : ExpectedIdentity) : Except String VerifiedRelease :=
  match envelope with
  | .object entries =>
    match entries.lookup "algorithm", entries.lookup "signature", entries.lookup "keyId" with
    | some (.string algorithm), some (.string signature), some (.string keyId) =>
      if algorithm ≠ "Ed25519" ∨ signature = "" then .error "SUPPLY_CHAIN_ENVELOPE_CONTRACT"
      else do
        let manifest <- validateReleaseManifest ((entries.lookup "manifest").getD .null) expected
        rejectIf (manifest.signingKeyId ≠ keyId) "SUPPLY_CHAIN_ENVELOPE_KEY_MISMATCH"
        let resolved <- resolveTrustedSupplyChainKey platform.rounded keyringRaw activeKeyId fallbackPublicKey
          (some keyId)
        let key <- demand (verificationKey platform resolved.2) "SUPPLY_CHAIN_KEY_INVALID"
        let payload := canonicalizeManifest platform manifest
        rejectIf (platform.verify key (utf8Bytes payload) (base64Bytes signature) = false)
          "SUPPLY_CHAIN_SIGNATURE_INVALID"
        return ⟨manifest, manifestHash platform payload, resolved.1⟩
    | _, _, _ => .error "SUPPLY_CHAIN_ENVELOPE_CONTRACT"
  | _ => .error "SUPPLY_CHAIN_ENVELOPE_INVALID"

/-- The envelope that carries a signed release, around the value of its
manifest. -/
def SignedRelease.envelope (signed : SignedRelease) (manifest : Json) : List (String × Json) :=
  [("algorithm", .string "Ed25519"), ("keyId", .string signed.keyId), ("manifest", manifest),
    ("signature", .string signed.signature)]

end Signing

end SupplyChain
end DigitalSolutions

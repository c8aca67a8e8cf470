import DigitalSolutions.Foundation.Recency
import DigitalSolutions.Persistence.Json

namespace DigitalSolutions
namespace SupplyChain

open Foundation Persistence

/-!
# Whether a release is safe

The evidence about a release is a list of events.  Those of the current hash
have to show a signature, a checksum and a clean scan of every artifact; the
latest revocation is looked for among all of them.
-/

/-- `Date | string`.  A date may be invalid. -/
inductive EventTime
  | date (time : Option Int)
  | text (value : String)
  deriving DecidableEq

structure SupplyChainEvidenceEvent where
  kind : String
  result : String
  artifactHash : String
  verifiedAt : Option EventTime
  metadata : Option Json
  deriving DecidableEq

structure ReleaseArtifact where
  id : String
  deriving DecidableEq

structure SupplyChainSecurityState where
  currentHash : String
  evidence : List SupplyChainEvidenceEvent
  artifacts : List ReleaseArtifact
  certificateStatus : Option String
  malwareStatus : Option String

structure SupplyChainSecurityEvaluation where
  releasable : Bool
  quarantined : Bool
  revoked : Bool
  compromised : Bool
  integrityVerified : Bool
  scanCurrent : Bool
  auditTrailPresent : Bool
  failures : List String
  deriving DecidableEq

/-! ## The metadata of an event -/

mutual

/-- `String(value)`.  An object with a property `toString` of its own cannot be
converted. -/
def stringOf : Json -> Option String
  | .null => some "null"
  | .bool value => some (if value then "true" else "false")
  | .number literal => some literal
  | .string value => some value
  | .array elements => (joinedTexts elements).map (String.intercalate ",")
  | .object entries =>
    if entries.any fun entry => entry.1 = "toString" then none else some "[object Object]"

/-- The texts of the elements, as an array joins them. -/
def joinedTexts : List Json -> Option (List String)
  | [] => some []
  | .null :: rest => (joinedTexts rest).map ("" :: ·)
  | element :: rest =>
    match stringOf element, joinedTexts rest with
    | some text, some texts => some (text :: texts)
    | _, _ => none

end

def isTruthy : Json -> Bool
  | .null => false
  | .bool value => value
  | .number literal => literal ≠ "0"
  | .string value => value ≠ ""
  | .array _ | .object _ => true

/-- `metadata[key]`, where `metadata` is an object that has it. -/
def metadataMember (metadata : Option Json) (key : String) : Option Json :=
  match metadata with
  | some (.object entries) => (entries.find? fun entry => entry.1 = key).map (·.2)
  | _ => none

def artifactIdFor (item : SupplyChainEvidenceEvent) : Option String :=
  match metadataMember item.metadata "artifactId" with
  | some value => stringOf value
  | none => some ""

def metadataFlag (metadata : Option Json) (key : String) : Bool :=
  (metadataMember metadata key).any isTruthy

/-! ## The evaluation -/

variable (parseDate : String -> Option Int)

/-- `new Date(event.verifiedAt ?? 0).getTime()`. -/
def verificationTime (event : SupplyChainEvidenceEvent) : Option Int :=
  match event.verifiedAt with
  | none => some 0
  | some (.date time) => time
  | some (.text value) => parseDate value

def isVerifiedAt (event : SupplyChainEvidenceEvent) : Bool :=
  match event.verifiedAt with
  | none => false
  | some (.date _) => true
  | some (.text value) => value ≠ ""

variable (engine : SortMethod SupplyChainEvidenceEvent)

def latestResult (evidence : List SupplyChainEvidenceEvent) (kinds : List String) :
    Option SupplyChainEvidenceEvent :=
  (engine.sort (latestFirst (verificationTime parseDate)) (evidence.filter fun item => item.kind ∈ kinds)).head?

def revocationKinds : List String := ["REVOCATION", "EMERGENCY_REVOCATION"]

/-- `latestScanByArtifact`, as a map from the ids. -/
def recordScan (latest : String -> Option SupplyChainEvidenceEvent) (item : SupplyChainEvidenceEvent) :
    Option (String -> Option SupplyChainEvidenceEvent) :=
  (artifactIdFor item).map fun artifactId =>
    Function.update latest artifactId (replaceLatest (verificationTime parseDate) (latest artifactId) item)

namespace SupplyChainSecurityState

variable (state : SupplyChainSecurityState)

def current : List SupplyChainEvidenceEvent :=
  state.evidence.filter fun item => item.artifactHash = state.currentHash

def failedMalwareStatus : Bool := state.malwareStatus = some "FAILED"

def quarantined : Bool :=
  state.malwareStatus = some "INFECTED" || state.current.any fun item =>
    item.result = "INFECTED" || item.kind = "QUARANTINE" || metadataFlag item.metadata "quarantined"

def revoked : Bool :=
  (latestResult parseDate engine state.evidence revocationKinds).any fun revocation =>
    revocation.result ≠ "RESOLVED"

def compromised : Bool :=
  state.current.any fun item =>
    item.kind = "COMPROMISE" || item.result = "COMPROMISED" || metadataFlag item.metadata "compromised"

def integrityVerified : Bool :=
  (state.current.any fun item => item.kind = "SIGNATURE" && item.result = "VERIFIED") &&
    state.current.any fun item => item.kind = "CHECKSUM" && item.result = "VERIFIED"

def latestScanByArtifact : Option (String -> Option SupplyChainEvidenceEvent) :=
  (state.current.filter fun event => event.kind = "MALWARE_SCAN").foldlM (recordScan parseDate) fun _ => none

def scanCurrent (latest : String -> Option SupplyChainEvidenceEvent) : Bool :=
  !state.failedMalwareStatus && !state.artifacts.isEmpty &&
    state.artifacts.all fun artifact => (latest artifact.id).map (·.result) = some "CLEAN"

def auditTrailPresent : Bool :=
  (state.evidence.any fun item =>
    item.kind ∈ ["SIGNATURE", "CHECKSUM", "MALWARE_SCAN"] && item.artifactHash = state.currentHash) &&
    state.evidence.all isVerifiedAt

/-- The result, once the latest revocation and the latest scans are found. -/
def assemble (revoked scanCurrent : Bool) : SupplyChainSecurityEvaluation :=
  let failures := [
    (!state.integrityVerified, "integrity"),
    (!scanCurrent, "currentScan"),
    (state.quarantined, "quarantine"),
    (revoked, "revocation"),
    (state.compromised, "compromise"),
    (!state.auditTrailPresent, "auditTrail"),
    (state.failedMalwareStatus, "malwareScanFailed"),
    (state.certificateStatus = some "REVOKED", "certificateRevoked")].filter (·.1) |>.map (·.2)
  { releasable := failures.isEmpty
    quarantined := state.quarantined
    revoked
    compromised := state.compromised
    integrityVerified := state.integrityVerified
    scanCurrent
    auditTrailPresent := state.auditTrailPresent
    failures }

end SupplyChainSecurityState

/-- Nothing, where an artifact id cannot be converted to a string. -/
def evaluateSupplyChainSecurity (state : SupplyChainSecurityState) : Option SupplyChainSecurityEvaluation :=
  (state.latestScanByArtifact parseDate).map fun latest =>
    state.assemble (state.revoked parseDate engine) (state.scanCurrent latest)

end SupplyChain
end DigitalSolutions

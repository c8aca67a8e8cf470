import DigitalSolutions.Foundation.Serializable
import DigitalSolutions.Licensing.LeaseOperationRows
import DigitalSolutions.Platform.Text

namespace DigitalSolutions
namespace Licensing

open Foundation Persistence Platform

/-!
# Rotation of the commercial signing key

A rotation retires the active key and puts its successor in its place, in one
serializable transaction that records the operation under its id.  What the
request says about the key is checked before the transaction begins.
-/

inductive SigningKeyStatus
  | active | retired
  deriving DecidableEq

structure CommercialSigningKey where
  id : Id
  keyId : String
  algorithm : String
  status : SigningKeyStatus
  publicKey : String
  privateKeyReference : String
  activatedAt : Time
  retiredAt : Option Time
  rotationReason : Option String
  createdBy : Option Id
  deriving DecidableEq

inductive CommercialSigningKey.Key
  | id (value : Id) | keyId (value : String) | active
  deriving DecidableEq

/-- With the partial unique index `CommercialSigningKey_one_active`. -/
instance : Keyed CommercialSigningKey CommercialSigningKey.Key where
  keys row := [.id row.id, .keyId row.keyId] ++ if row.status = .active then [.active] else []

structure RotationAuditLog where
  actorId : Id
  action : String
  targetType : String
  targetId : Id
  metadata : Json
  deriving DecidableEq

structure SigningStore where
  keys : Table CommercialSigningKey
  operations : Table LeaseOperationRow
  auditLogs : List RotationAuditLog
  deriving DecidableEq

/-- The environment of the process and the key functions of `node:crypto`. -/
structure SigningPlatform where
  processEnv : String -> Option String
  fromBase64 : String -> String
  /-- The public key of a private key, exported as PEM. -/
  derivePublicKey : String -> Option String
  /-- A public key, exported as PEM. -/
  exportPublicKey : String -> Option String
  sha256 : String -> String

structure RotationInput where
  operationId : String
  keyId : String
  algorithm : String
  publicKey : String
  privateKeyReference : String
  reason : String
  deriving DecidableEq

/-- A request, with what its guards say of it and what its transaction draws. -/
structure RotationRequest where
  input : RotationInput
  adminId : Id
  /-- The error of a request that comes from elsewhere, not from an administrator who has
  signed in recently, or too often. -/
  guarded : Option String
  keyRowId : Id
  operationRowId : Id
  now : Time

inductive RotationError
  | message (text : String)
  | uniqueViolation
  deriving DecidableEq

abbrev SigningTx (Value : Type) := Transaction RotationError SigningStore Value

/-! ## The request -/

def isKeyIdCharacter (character : Char) : Bool :=
  ('A' ≤ character && character ≤ 'Z') || ('a' ≤ character && character ≤ 'z') ||
    ('0' ≤ character && character ≤ '9') || character = '.' || character = '_' || character = '-'

def isVariableCharacter (character : Char) : Bool :=
  ('A' ≤ character && character ≤ 'Z') || ('0' ≤ character && character ≤ '9') || character = '_'

/-- `/^env:[A-Z0-9_]+$/`, with what follows the prefix. -/
def variableOf (reference : String) : Option String :=
  match reference.toList with
  | 'e' :: 'n' :: 'v' :: ':' :: name =>
    if name ≠ [] ∧ name.all isVariableCharacter then some (String.ofList name) else none
  | _ => none

namespace RotationInput

/-- The schema of the request. -/
def valid (input : RotationInput) : Bool :=
  8 ≤ utf16Length input.operationId && utf16Length input.operationId ≤ 128 &&
    1 ≤ input.keyId.toList.length && input.keyId.toList.length ≤ 64 &&
    input.keyId.toList.all isKeyIdCharacter && input.algorithm = "Ed25519" &&
    32 ≤ utf16Length input.publicKey && (variableOf input.privateKeyReference).isSome &&
    1 ≤ utf16Length input.reason && utf16Length input.reason ≤ 500

end RotationInput

namespace SigningPlatform

variable (platform : SigningPlatform)

/-- The text that `parseKey` reads a key from. -/
def rawKey (value : String) : String :=
  if "BEGIN".toList <:+: value.toList then value else platform.fromBase64 value

/-- The public key of a request. -/
def supplied (input : RotationInput) : Option String :=
  platform.exportPublicKey (platform.rawKey input.publicKey)

/-- The value of the environment that a reference names, if it is not empty. -/
def resolve (reference : String) : Option String :=
  ((variableOf reference).bind platform.processEnv).filter fun value => value ≠ ""

/-- What is checked before the transaction; the answer is the supplied key. -/
def prepare (request : RotationRequest) : Except RotationError String :=
  match request.guarded with
  | some error => .error (.message error)
  | none =>
    if request.input.valid then
      match platform.resolve request.input.privateKeyReference with
      | none => .error (.message "SIGNING_KEY_UNRESOLVED")
      | some privateValue =>
        match platform.derivePublicKey (platform.rawKey privateValue), platform.supplied request.input with
        | some derived, some supplied =>
          if derived = supplied then .ok supplied else .error (.message "SIGNING_KEY_MISMATCH")
        | _, _ => .error (.message "INVALID_ROTATION")
    else .error (.message "INVALID_ROTATION")

/-! ## The transaction -/

/-- A recorded operation was this rotation. -/
def repeats (input : RotationInput) (supplied : String) (metadata : Json) : Bool :=
  property metadata "successorKeyId" = some (.string input.keyId) &&
    property metadata "algorithm" = some (.string input.algorithm) &&
    property metadata "publicKeyFingerprint" = some (.string (platform.sha256 supplied)) &&
    property metadata "privateKeyReferenceIdentity" =
      some (.string (platform.sha256 input.privateKeyReference)) &&
    property metadata "reason" = some (.string input.reason)

def rotationMetadata (request : RotationRequest) (supplied previousKeyId : String) : Json :=
  .object [("previousKeyId", .string previousKeyId), ("successorKeyId", .string request.input.keyId),
    ("algorithm", .string request.input.algorithm),
    ("publicKeyFingerprint", .string (platform.sha256 supplied)),
    ("privateKeyReferenceIdentity", .string (platform.sha256 request.input.privateKeyReference)),
    ("actorId", .string request.adminId), ("reason", .string request.input.reason)]

def successorKey (request : RotationRequest) (supplied : String) : CommercialSigningKey where
  id := request.keyRowId
  keyId := request.input.keyId
  algorithm := request.input.algorithm
  status := .active
  publicKey := supplied
  privateKeyReference := request.input.privateKeyReference
  activatedAt := request.now
  retiredAt := none
  rotationReason := some request.input.reason
  createdBy := some request.adminId

def rotationOperation (request : RotationRequest) (supplied previousKeyId : String) : LeaseOperationRow where
  id := request.operationRowId
  operationId := request.input.operationId
  licenseId := none
  action := "KEY_ROTATION"
  status := "COMPLETED"
  resultLeaseId := none
  metadata := platform.rotationMetadata request supplied previousKeyId
  createdAt := request.now
  completedAt := some request.now

def rotationAudit (request : RotationRequest) (previousKeyId : String) : RotationAuditLog where
  actorId := request.adminId
  action := "COMMERCIAL_SIGNING_KEY_ROTATED"
  targetType := "CommercialLeaseOperation"
  targetId := request.operationRowId
  metadata := .object [("operationId", .string request.input.operationId),
    ("previousKeyId", .string previousKeyId), ("successorKeyId", .string request.input.keyId),
    ("reason", .string request.input.reason)]

def retire (request : RotationRequest) (key : CommercialSigningKey) : CommercialSigningKey :=
  { key with status := .retired, retiredAt := some request.now, rotationReason := some request.input.reason }

/-- The rotation itself, where no completed operation has the id. -/
def rotate (request : RotationRequest) (supplied : String) : SigningTx LeaseOperationRow := do
  let store <- get
  match store.keys.select (fun key => key.status = .active) with
  | [] => throw (.message "NO_ACTIVE_SIGNING_KEY")
  | [active] =>
    if (store.keys.lookup (.keyId request.input.keyId)).isSome then throw (.message "SIGNING_KEY_EXISTS")
    else
      let retired <- Transaction.orFail .uniqueViolation
        (store.keys.amend (fun key => key.id = active.id) (retire request))
      let keys <- Transaction.orFail .uniqueViolation (retired.insert (successorKey request supplied))
      let operation := platform.rotationOperation request supplied active.keyId
      let operations <- Transaction.orFail .uniqueViolation (store.operations.insert operation)
      set (SigningStore.mk keys operations (store.auditLogs ++ [rotationAudit request active.keyId]))
      return operation
  | _ => throw (.message "MULTIPLE_ACTIVE_SIGNING_KEYS")

def post (request : RotationRequest) : SigningTx LeaseOperationRow := do
  let supplied <- liftM (platform.prepare request)
  let store <- get
  match store.operations.lookup (.operationId request.input.operationId) with
  | some prior =>
    if prior.status = "COMPLETED" then
      if platform.repeats request.input supplied prior.metadata then return prior
      else throw (.message "ROTATION_REPLAY_MISMATCH")
    else platform.rotate request supplied
  | none => platform.rotate request supplied

end SigningPlatform

def rotationMachine (platform : SigningPlatform) :
    Machine (Shared SigningStore RotationRequest) (SessionMove RotationRequest)
      (SessionRefusal RotationError) :=
  Shared.machine platform.post

end Licensing
end DigitalSolutions

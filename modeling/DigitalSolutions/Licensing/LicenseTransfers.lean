import DigitalSolutions.Foundation.Processes
import DigitalSolutions.Licensing.LeaseOperationRows
import DigitalSolutions.Persistence.Stores

namespace DigitalSolutions
namespace Licensing

open Foundation Persistence

/-!
# Transfers of a licence

An administrator transfers a licence to an account and a device.  The route
prepares an operation under an id made of the target, has the licensing
package issue a lease for it, and then moves the licence.  The lease
capability belongs to another package and stands here as a parameter.
-/

structure TransferInput where
  id : Id
  accountId : Id
  installationId : String
  deviceId : String
  actorId : Id
  deriving DecidableEq

namespace TransferInput

def operationId (input : TransferInput) : String :=
  "transfer:" ++ input.id ++ ":" ++ input.accountId ++ ":" ++ input.installationId ++ ":" ++ input.deviceId

end TransferInput

/-- A row of the lease history.  The ids of leases are UUIDs. -/
structure LicenseLeaseRecord where
  licenseId : Id
  leaseId : String
  generation : Nat
  serverRevision : Nat
  installationId : String
  deviceId : String
  version : String
  status : String
  action : String
  operationId : Option String
  named : leaseId ≠ ""
  deriving DecidableEq

inductive LicenseLeaseRecord.Key
  | leaseId (value : String) | operationId (value : String)
  deriving DecidableEq

instance : Keyed LicenseLeaseRecord LicenseLeaseRecord.Key where
  keys lease := .leaseId lease.leaseId ::
    match lease.operationId with
    | some operationId => [.operationId operationId]
    | none => []

/-- A TRANSFERRED event. -/
structure TransferredEvent where
  licenseId : Id
  actorId : Id
  fromAccountId : Id
  toAccountId : Id
  operationId : String
  leaseId : String
  deriving DecidableEq

structure LicensePolicy where
  id : Id
  transferable : Bool
  deriving DecidableEq

/-- The tables of a transfer.  Which policy an order item was bought under, the
policies and the accounts do not change here. -/
structure TransferStore where
  licenses : Table License
  operations : Table LeaseOperationRow
  leases : Table LicenseLeaseRecord
  devices : Table DeviceActivation
  events : List TransferredEvent
  policyIds : List (Id × Id)
  policies : List LicensePolicy
  accountIds : List Id
  deriving DecidableEq

/-! ## The lease capability -/

structure TransferLeaseRequest where
  licenseKey : String
  installationId : String
  deviceId : String
  operationId : String
  productVersion : String
  predecessorLeaseId : String
  deriving DecidableEq

/-- What `issueCommercialLease` does to the tables, and whether it throws.  The
text stands for what it draws and reads elsewhere. -/
structure LeaseIssuer where
  issue : TransferLeaseRequest -> String -> TransferStore -> TransferStore × Bool

/-- The columns of an operation that an issuance keeps. -/
def SameOperation (old new : LeaseOperationRow) : Prop :=
  new.id = old.id ∧ new.operationId = old.operationId ∧ new.licenseId = old.licenseId ∧
    new.action = old.action ∧ new.metadata = old.metadata

/-- The columns of a lease that an issuance keeps. -/
def SameLease (old new : LicenseLeaseRecord) : Prop :=
  new.licenseId = old.licenseId ∧ new.leaseId = old.leaseId ∧ new.version = old.version ∧
    new.installationId = old.installationId ∧ new.deviceId = old.deviceId ∧ new.operationId = old.operationId

/-- What the host relies on: an issuance for an operation records its lease on
it, changes nothing once that is done, and otherwise only touches leases,
devices and the operation itself. -/
structure IssuesLeases (issuer : LeaseIssuer) : Prop where
  idempotent : forall request drawn store operation, operation ∈ store.operations ->
    operation.operationId = request.operationId -> operation.resultLeaseId ≠ none ->
    (issuer.issue request drawn store).1 = store
  records : forall request drawn store, (issuer.issue request drawn store).2 = false ->
    forall operation, operation ∈ (issuer.issue request drawn store).1.operations ->
    operation.operationId = request.operationId ->
    Exists fun leaseId => operation.resultLeaseId = some leaseId ∧ leaseId ≠ ""
  issued : forall request drawn store operation,
    operation ∈ (issuer.issue request drawn store).1.operations -> forall leaseId,
    operation.resultLeaseId = some leaseId ->
    operation ∈ store.operations ∨
      (operation.operationId = request.operationId ∧ Exists fun lease =>
        lease ∈ (issuer.issue request drawn store).1.leases ∧ lease.leaseId = leaseId ∧
        lease.operationId = some request.operationId)
  completed : forall request drawn store operation,
    operation ∈ (issuer.issue request drawn store).1.operations -> operation.status = "COMPLETED" ->
    operation ∈ store.operations ∨ operation.resultLeaseId ≠ none
  operations : forall request drawn store operation, operation ∈ store.operations ->
    Exists fun later => later ∈ (issuer.issue request drawn store).1.operations ∧
      SameOperation operation later ∧ (operation.operationId ≠ request.operationId -> later = operation)
  noneAdded : forall request drawn store later,
    later ∈ (issuer.issue request drawn store).1.operations ->
    Exists fun operation => operation ∈ store.operations ∧ SameOperation operation later
  leases : forall request drawn store lease, lease ∈ store.leases ->
    Exists fun later => later ∈ (issuer.issue request drawn store).1.leases ∧ SameLease lease later
  frame : forall request drawn store,
    (issuer.issue request drawn store).1.licenses = store.licenses ∧
    (issuer.issue request drawn store).1.events = store.events ∧
    (issuer.issue request drawn store).1.policyIds = store.policyIds ∧
    (issuer.issue request drawn store).1.policies = store.policies ∧
    (issuer.issue request drawn store).1.accountIds = store.accountIds

/-! ## The route -/

/-- What the host calls in other packages. -/
structure TransferHost where
  sha256 : String -> String
  decryptLicenseKey : String -> String
  issuer : LeaseIssuer

def leaseOrder (left right : LicenseLeaseRecord) : Bool :=
  right.generation < left.generation ||
    (right.generation = left.generation && right.serverRevision ≤ left.serverRevision)

/-- The latest active lease of the licence. -/
def currentLease (licenseId : Id) (store : TransferStore) : Option LicenseLeaseRecord :=
  ((store.leases.select fun lease => lease.licenseId = licenseId && lease.status = "ACTIVE").mergeSort
    leaseOrder).head?

/-- A text that JavaScript treats as true. -/
def truthyText (value : Option Json) : Option String :=
  match value with
  | some (.string text) => if text = "" then none else some text
  | _ => none

/-- The lease that is to be replaced: the one the operation was prepared with, or
the current one. -/
def sourceLease (licenseId : Id) (existing : Option LeaseOperationRow) (store : TransferStore) :
    Option LicenseLeaseRecord :=
  let found := match existing with
    | some operation =>
      (truthyText (property operation.metadata "predecessorLeaseId")).bind fun leaseId =>
        store.leases.lookup (.leaseId leaseId)
    | none => currentLease licenseId store
  found.filter fun lease => lease.version ≠ ""

def transferMetadata (input : TransferInput) (current : License) (policyId : Id) (source : LicenseLeaseRecord)
    (existing : Option LeaseOperationRow) : Json :=
  let stored := existing.bind fun operation => property operation.metadata "sourceAccountId"
  .object
    [("sourceAccountId", match stored with
        | some .null => .string current.accountId
        | some value => value
        | none => .string current.accountId),
      ("targetAccountId", .string input.accountId), ("installationId", .string input.installationId),
      ("deviceId", .string input.deviceId), ("policyId", .string policyId),
      ("predecessorLeaseId", .string source.leaseId), ("sourceInstallationId", .string source.installationId),
      ("sourceDeviceId", .string source.deviceId), ("actorId", .string input.actorId)]

def comparedKeys : List String :=
  ["sourceAccountId", "targetAccountId", "installationId", "deviceId", "policyId", "predecessorLeaseId"]

/-- A repeated request names another transfer than the stored one. -/
def replayMismatch (metadata prior : Json) : Bool :=
  comparedKeys.any fun key => property prior key ≠ property metadata key

def newOperation (input : TransferInput) (metadata : Json) (now : Time) (id : Id) : LeaseOperationRow :=
  { id
    operationId := input.operationId
    licenseId := some input.id
    action := "TRANSFER"
    status := "PREPARED"
    resultLeaseId := none
    metadata
    createdAt := now
    completedAt := none }

def leaseRequest (host : TransferHost) (input : TransferInput) (keyCiphertext : String)
    (source : LicenseLeaseRecord) : TransferLeaseRequest :=
  { licenseKey := host.decryptLicenseKey keyCiphertext
    installationId := input.installationId
    deviceId := input.deviceId
    operationId := input.operationId
    productVersion := source.version
    predecessorLeaseId := source.leaseId }

def transferredEvent (input : TransferInput) (fromAccountId : Id) (leaseId : String) : TransferredEvent :=
  { licenseId := input.id
    actorId := input.actorId
    fromAccountId
    toAccountId := input.accountId
    operationId := input.operationId
    leaseId }

/-- What the last transaction writes. -/
def moveLicense (host : TransferHost) (input : TransferInput) (fromAccountId : Id) (leaseId : String)
    (now : Time) (store : TransferStore) : TransferStore :=
  { store with
    devices := store.devices.update (fun device => device.licenseId = input.id ∧ device.active = true ∧
        device.deviceHash ≠ host.sha256 input.deviceId) fun device =>
      { device with active := false, deactivatedAt := some now }
    licenses := store.licenses.update (fun license => license.id = input.id) fun license =>
      { license with accountId := input.accountId }
    events := store.events ++ [transferredEvent input fromAccountId leaseId]
    operations := store.operations.update (fun operation => operation.operationId = input.operationId)
      fun operation => { operation with status := "COMPLETED", completedAt := some now } }

/-- The last transaction: the licence moves with the lease of the operation. -/
def finalize (host : TransferHost) (input : TransferInput) (fromAccountId : Id) (now : Time)
    (store : TransferStore) : Option TransferStore :=
  match store.operations.lookup (.operationId input.operationId) with
  | none => none
  | some operation =>
    match present operation.resultLeaseId with
    | none => none
    | some leaseId =>
      if store.accountIds.contains input.accountId then
        match store.licenses.lookup (.id input.id) with
        | none => none
        | some _ => some (moveLicense host input fromAccountId leaseId now store)
      else none

/-! ## Concurrent requests -/

inductive TransferPoint
  | reading (input : TransferInput)
  | policing (input : TransferInput) (current : License) (keyCiphertext : String)
  | finding (input : TransferInput) (current : License) (keyCiphertext : String) (policyId : Id)
  | sourcing (input : TransferInput) (current : License) (keyCiphertext : String) (policyId : Id)
      (existing : Option LeaseOperationRow)
  | creating (input : TransferInput) (current : License) (keyCiphertext : String) (metadata : Json)
      (source : LicenseLeaseRecord)
  | issuing (input : TransferInput) (current : License) (keyCiphertext : String) (source : LicenseLeaseRecord)
  | finalizing (input : TransferInput) (current : License)
  deriving DecidableEq

/-- The clock, the id of a new row, what the lease capability draws, and whether
the access throws. -/
structure TransferDraw where
  now : Time
  fresh : Id
  drawn : String
  throws : Bool

/-- Where a request goes on with an operation of this status. -/
def preparedPoint (input : TransferInput) (current : License) (keyCiphertext : String)
    (source : LicenseLeaseRecord) (status : String) : TransferPoint :=
  if status = "COMPLETED" then .finalizing input current else .issuing input current keyCiphertext source

/-- One access.  What throws ends the request. -/
def transferStep (host : TransferHost) (store : TransferStore) (draw : TransferDraw) :
    TransferPoint -> TransferStore × Option TransferPoint
  | .reading input =>
    match store.licenses.lookup (.id input.id) with
    | none => (store, none)
    | some current =>
      match current.status, present current.keyCiphertext with
      | .active, some keyCiphertext => (store, some (.policing input current keyCiphertext))
      | _, _ => (store, none)
  | .policing input current keyCiphertext =>
    match store.policyIds.find? fun entry => entry.1 = current.orderItemId with
    | none => (store, none)
    | some (_, policyId) =>
      match store.policies.find? fun policy => policy.id = policyId with
      | none => (store, none)
      | some policy =>
        (store, if policy.transferable then some (.finding input current keyCiphertext policyId) else none)
  | .finding input current keyCiphertext policyId =>
    (store, some (.sourcing input current keyCiphertext policyId
      (store.operations.lookup (.operationId input.operationId))))
  | .sourcing input current keyCiphertext policyId existing =>
    match sourceLease input.id existing store with
    | none => (store, none)
    | some source =>
      let metadata := transferMetadata input current policyId source existing
      match existing with
      | none => (store, some (.creating input current keyCiphertext metadata source))
      | some operation =>
        if replayMismatch metadata operation.metadata then (store, none)
        else (store, some (preparedPoint input current keyCiphertext source operation.status))
  | .creating input current keyCiphertext metadata source =>
    match store.operations.insert (newOperation input metadata draw.now draw.fresh) with
    | none => (store, none)
    | some operations =>
      ({ store with operations }, some (preparedPoint input current keyCiphertext source "PREPARED"))
  | .issuing input current keyCiphertext source =>
    let (after, thrown) := host.issuer.issue (leaseRequest host input keyCiphertext source) draw.drawn store
    (after, if thrown then none else some (.finalizing input current))
  | .finalizing input current =>
    match finalize host input current.accountId draw.now store with
    | none => (store, none)
    | some after => (after, none)

def transferProtocol (host : TransferHost) :
    Protocol TransferStore TransferInput TransferPoint TransferDraw Empty Empty where
  enter := .reading
  advance store point draw := .ok (if draw.throws then (store, none) else transferStep host store draw point)
  ambient _ event := nomatch event

end Licensing
end DigitalSolutions

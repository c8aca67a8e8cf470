import DigitalSolutions.Foundation.Processes
import DigitalSolutions.Licensing.Fulfillment
import DigitalSolutions.Licensing.LicenseTransfers

namespace DigitalSolutions
namespace Licensing

open Foundation Persistence Platform

/-!
# Leases of renewals

A paid renewal extends the licences in the transaction of the payment, and
prepares an operation for each of their active devices.  The leases are issued
afterwards, one by one, by the process that has handled the payment and by a
job of the scheduler.
-/

/-- The tables of renewals.  The rows of `leaseOperations` are all renewals and
stand in the order of `createdAt`, those of `leases` in the order of
`issuedAt`. -/
structure RenewalStore where
  licensing : LicensingStore
  leases : Table LicenseLeaseRecord
  /-- The orders whose payment has been settled. -/
  settled : List Id

/-! ## The lease capability -/

structure RenewalIssue where
  licenseKey : String
  installationId : String
  deviceId : String
  operationId : RenewalOperationId
  productVersion : String
  deriving DecidableEq

/-- What `issueCommercialLease` does for a renewal, and whether it throws.  The
text stands for what it draws and reads elsewhere. -/
structure RenewalIssuer where
  issue : RenewalIssue -> String -> RenewalStore -> RenewalStore × Bool

def completeOperation (operationId : RenewalOperationId) (completedAt : Time)
    (operation : CommercialLeaseOperation) : CommercialLeaseOperation :=
  if operation.operationId = operationId then
    { operation with status := .completed, completedAt := some completedAt }
  else operation

/-- What the host relies on: an issuance for an operation that is completed
changes nothing, any other one at most completes its operation, and none
extends a licence or a subscription. -/
structure IssuesRenewals (issuer : RenewalIssuer) : Prop where
  idempotent : forall request drawn store operation, operation ∈ store.licensing.leaseOperations ->
    operation.operationId = request.operationId -> operation.status = .completed ->
    (issuer.issue request drawn store).1 = store
  operations : forall request drawn store,
    (issuer.issue request drawn store).1.licensing.leaseOperations = store.licensing.leaseOperations ∨
      Exists fun completedAt => (issuer.issue request drawn store).1.licensing.leaseOperations.rows =
        store.licensing.leaseOperations.rows.map (completeOperation request.operationId completedAt)
  frame : forall request drawn store,
    (issuer.issue request drawn store).1.licensing.licenses = store.licensing.licenses ∧
    (issuer.issue request drawn store).1.licensing.subscriptions = store.licensing.subscriptions ∧
    (issuer.issue request drawn store).1.settled = store.settled

structure RenewalHost where
  package : LicensingPackage
  environment : Environment
  /-- The orders and their items, which do not change here. -/
  commerce : CommerceStore
  sha256 : String -> String
  decryptLicenseKey : String -> String
  issuer : RenewalIssuer

/-! ## What is read of a licence -/

structure LeaseBinding where
  installationId : String
  deviceId : String
  version : String
  deriving DecidableEq

/-- The columns of a licence that both loops select. -/
structure LicenseRead where
  keyCiphertext : Option String
  activations : List String
  leaseHistory : List LeaseBinding
  deriving DecidableEq

/-- The active leases of a licence, the latest first. -/
def leaseHistory (licenseId : Id) (leases : Table LicenseLeaseRecord) : List LeaseBinding :=
  (leases.select fun lease => lease.licenseId = licenseId && lease.status = "ACTIVE").reverse.map fun lease =>
    ⟨lease.installationId, lease.deviceId, lease.version⟩

def readLicense (store : RenewalStore) (licenseId : Id) : Option LicenseRead :=
  (store.licensing.licenses.lookup (.id licenseId)).map fun license =>
    { keyCiphertext := license.keyCiphertext
      activations := activeDeviceHashes store.licensing licenseId
      leaseHistory := leaseHistory licenseId store.leases }

/-- What the package is asked for: the device is still active, and bound by a
lease. -/
def renewalIssue (host : RenewalHost) (license : LicenseRead) (deviceHash : String)
    (operationId : RenewalOperationId) : Option RenewalIssue :=
  match license.activations.find? (fun candidate => candidate = deviceHash) with
  | none => none
  | some activation =>
    match license.leaseHistory.find? (fun candidate => host.sha256 candidate.deviceId = activation),
      present license.keyCiphertext with
    | some binding, some keyCiphertext => some
        { licenseKey := host.decryptLicenseKey keyCiphertext
          installationId := binding.installationId
          deviceId := binding.deviceId
          operationId
          productVersion := binding.version }
    | _, _ => none

/-- What the payment asks the package for. -/
def paymentIssue (host : RenewalHost) (store : RenewalStore) (request : RenewalLeaseRequest) :
    Option RenewalIssue :=
  (readLicense store request.licenseId).bind fun license =>
    renewalIssue host license request.deviceHash request.operationId

/-! ## The recovery -/

/-- A row that the recovery has read. -/
structure RecoveryCandidate where
  operationId : RenewalOperationId
  deviceHash : String
  license : Option LicenseRead
  deriving DecidableEq

/-- `String(metadata.deviceHash ?? "")`. -/
def recordedDeviceHash (operation : CommercialLeaseOperation) : String :=
  match operation.metadata.decision with
  | .successorLeasePending deviceHash => deviceHash
  | .entitlementRenewedNoActiveInstallation => ""

def preparedOperations (store : RenewalStore) : List CommercialLeaseOperation :=
  store.licensing.leaseOperations.select fun operation => operation.status = .prepared

def recoveryCandidate (store : RenewalStore) (operation : CommercialLeaseOperation) : RecoveryCandidate where
  operationId := operation.operationId
  deviceHash := recordedDeviceHash operation
  license := readLicense store operation.licenseId

/-- The query of `preparedRenewalRecovery`. -/
def recoveryCandidates (store : RenewalStore) : List RecoveryCandidate :=
  ((preparedOperations store).take 20).map (recoveryCandidate store)

/-- What the recovery asks the package for. -/
def recoveryIssue (host : RenewalHost) (candidate : RecoveryCandidate) : Option RenewalIssue :=
  candidate.license.bind fun license => renewalIssue host license candidate.deviceHash candidate.operationId

/-! ## Processes -/

inductive RenewalCall
  | payment (orderId : Id) (evidence : PaymentEvidence)
  | recovery (dryRun : Bool)

inductive RenewalPoint
  | paying (orderId : Id) (evidence : PaymentEvidence)
  | leasing (requests : List RenewalLeaseRequest)
  | issuing (request : RenewalIssue) (rest : List RenewalLeaseRequest)
  | selecting (dryRun : Bool)
  | recovering (candidates : List RecoveryCandidate)
  deriving DecidableEq

structure RenewalDraw where
  moment : Moment
  drawn : String
  throws : Bool

/-- The transaction of a payment, as far as it is about licences: an order is
fulfilled when its settlement is new. -/
def payOrder (host : RenewalHost) (moment : Moment) (orderId : Id) (evidence : PaymentEvidence)
    (store : RenewalStore) : RenewalStore × List RenewalLeaseRequest :=
  if orderId ∈ store.settled then (store, [])
  else
    match (fulfillOrderLicensing host.package host.environment host.commerce moment orderId evidence
        ⟨none, none⟩).run store.licensing with
    | .error _ => (store, [])
    | .ok (requests, licensing) => ({ store with licensing, settled := orderId :: store.settled }, requests)

/-- One access.  What throws in a loop ends its turn, anything else the process. -/
def renewalStep (host : RenewalHost) (store : RenewalStore) (draw : RenewalDraw) :
    RenewalPoint -> RenewalStore × Option RenewalPoint
  | .paying orderId evidence =>
    if draw.throws then (store, none)
    else
      let (paid, requests) := payOrder host draw.moment orderId evidence store
      (paid, some (.leasing requests))
  | .leasing [] => (store, none)
  | .leasing (request :: rest) =>
    if draw.throws then (store, some (.leasing rest))
    else
      match paymentIssue host store request with
      | none => (store, some (.leasing rest))
      | some issue => (store, some (.issuing issue rest))
  | .issuing request rest =>
    if draw.throws then (store, some (.leasing rest))
    else ((host.issuer.issue request draw.drawn store).1, some (.leasing rest))
  | .selecting dryRun =>
    if draw.throws || dryRun then (store, none) else (store, some (.recovering (recoveryCandidates store)))
  | .recovering [] => (store, none)
  | .recovering (candidate :: rest) =>
    match recoveryIssue host candidate with
    | none => (store, some (.recovering rest))
    | some request =>
      if draw.throws then (store, some (.recovering rest))
      else ((host.issuer.issue request draw.drawn store).1, some (.recovering rest))

/-- What other routes do to devices and leases. -/
inductive RenewalAmbient
  | devices (deviceActivations : Table DeviceActivation)
  | leases (leases : Table LicenseLeaseRecord)

def RenewalAmbient.change (store : RenewalStore) : RenewalAmbient -> RenewalStore
  | .devices rows => { store with licensing := { store.licensing with deviceActivations := rows } }
  | .leases rows => { store with leases := rows }

def renewalProtocol (host : RenewalHost) :
    Protocol RenewalStore RenewalCall RenewalPoint RenewalDraw RenewalAmbient Empty where
  enter
    | .payment orderId evidence => .paying orderId evidence
    | .recovery dryRun => .selecting dryRun
  advance store point draw := .ok (renewalStep host store draw point)
  ambient store event := .ok (event.change store)

end Licensing
end DigitalSolutions

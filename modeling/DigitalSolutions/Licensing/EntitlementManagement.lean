import DigitalSolutions.Licensing.BillingInterval
import DigitalSolutions.Platform.Environment
import DigitalSolutions.Platform.Text

namespace DigitalSolutions
namespace Licensing

open Foundation Persistence Platform

/-!
# Licensing fulfilment of an order

`fulfillOrderLicensing` walks the items of an order.  An item of a renewal
order extends the renewed subscription and every licence under it.  Any other
item is answered by a new licence, preceded by a new subscription when the
item recurs.  The licence is unique per order item in the database, the
extension is not guarded by anything.

The licensing package stands between this function and the repository that
writes the rows.  It checks its input and passes it on.
-/

structure PaymentEvidence where
  paymentId : Option Id
  paymentEventId : Option String
  deriving DecidableEq

structure LicensingFulfillmentTarget where
  accountId : Option Id
  orderItemId : Option Id
  deriving DecidableEq

structure RenewalLeaseRequest where
  operationId : RenewalOperationId
  licenseId : Id
  deviceHash : String
  deriving DecidableEq

structure LicenseKeyMaterial where
  publicId : String
  keyHash : String
  keyLastFour : String
  keyCiphertext : String
  deriving DecidableEq

structure IssueInput where
  keyMaterial : LicenseKeyMaterial
  accountId : Id
  orderId : Id
  orderItemId : Id
  productId : Id
  editionId : Option Id
  purchasePlanId : Option Id
  subscriptionId : Option Id
  maxSeats : Int
  maxDevicesPerSeat : Int
  expiresAt : Option Time
  deriving DecidableEq

structure LicenseSnapshot where
  id : Id
  publicId : String
  subscriptionId : Option Id
  status : LicenseStatus
  expiresAt : Option Time
  deriving DecidableEq

structure RenewInput where
  subscriptionId : Id
  orderId : Id
  periodStart : Time
  periodEnd : Time
  effectiveAt : Time
  discountedCycleConsumed : Bool
  paymentId : Option Id
  paymentEventId : Option String
  deriving DecidableEq

structure RenewalOperation where
  operationId : RenewalOperationId
  licenseId : Id
  deviceHash : Option String
  status : LeaseOperationStatus
  effectiveExpiry : Time
  deriving DecidableEq

structure Renewal where
  licenses : List LicenseSnapshot
  renewalOperations : List RenewalOperation
  deriving DecidableEq

/-- An answer of the licensing package: accepted with a value, or anything
else, which the host treats as retryable. -/
inductive LicensingResult (Value : Type)
  | ok (value : Value)
  | refused
  deriving DecidableEq

/-- `@bke/licensing/logic/entitlement-management`. -/
structure LicensingPackage where
  initialExpiration : Time -> Option Int -> Option Time
  renewalExpiration : Option Time -> Time -> Int -> Time
  issue : IssueInput -> Program IssueInput (fun _ => LicenseSnapshot) (LicensingResult LicenseSnapshot)
  renewSubscription : RenewInput -> Program RenewInput (fun _ => Renewal) (LicensingResult Renewal)

def LicensingResult.accepted {Value : Type} (result : LicensingResult Value) : Prop :=
  result ≠ .refused

/-- What the host relies on: an accepted call went through the repository
once, unchanged, and its answer is the repository's. -/
structure LicensingPackage.Lawful (package : LicensingPackage) : Prop where
  issue_relays : Program.Relays package.issue LicensingResult.accepted
    (fun answer result => result = .ok answer)
  renewSubscription_relays : Program.Relays package.renewSubscription LicensingResult.accepted
    (fun answer result => result = .ok answer)

/-! ## The repository -/

def issuedLicense (moment : Moment) (input : IssueInput) : License where
  id := moment.draw (.licenseId input.orderItemId)
  publicId := input.keyMaterial.publicId
  keyHash := input.keyMaterial.keyHash
  keyLastFour := input.keyMaterial.keyLastFour
  keyCiphertext := some input.keyMaterial.keyCiphertext
  accountId := input.accountId
  orderId := input.orderId
  orderItemId := input.orderItemId
  productId := input.productId
  editionId := input.editionId
  purchasePlanId := input.purchasePlanId
  subscriptionId := input.subscriptionId
  status := .active
  maxSeats := input.maxSeats
  maxDevicesPerSeat := input.maxDevicesPerSeat
  expiresAt := input.expiresAt
  createdAt := moment.now

/-- `issue` of the repository. -/
def issue (moment : Moment) (input : IssueInput) : Tx LicensingStore LicenseSnapshot := do
  let store <- get
  let licenses <- Transaction.orFail .uniqueViolation
    (store.licenses.insert (issuedLicense moment input))
  set { store with licenses }
  return {
    id := moment.draw (.licenseId input.orderItemId)
    publicId := input.keyMaterial.publicId
    subscriptionId := input.subscriptionId
    status := .active
    expiresAt := input.expiresAt }

def activeDeviceHashes (store : LicensingStore) (licenseId : Id) : List String :=
  (store.deviceActivations.select (fun activation =>
    activation.licenseId = licenseId && activation.active)).map DeviceActivation.deviceHash

/-- The lease operations one renewed licence asks for: one per active device,
or a single completed one when there is none. -/
def renewalOperations (input : RenewInput) (license : License) (effectiveExpiry : Time)
    (deviceHashes : List String) : List RenewalOperation :=
  if deviceHashes.isEmpty then
    [{ operationId := ⟨input.orderId, license.id, none⟩, licenseId := license.id, deviceHash := none,
       status := .completed, effectiveExpiry }]
  else
    deviceHashes.map (fun deviceHash =>
      { operationId := ⟨input.orderId, license.id, some deviceHash⟩, licenseId := license.id,
        deviceHash := some deviceHash, status := .prepared, effectiveExpiry })

/-- The stored row of a renewal operation.  An operation that exists already
is left as it is. -/
def leaseOperationRow (input : RenewInput) (license : License) (operation : RenewalOperation) :
    CommercialLeaseOperation where
  operationId := operation.operationId
  licenseId := license.id
  status := operation.status
  metadata := {
    orderId := input.orderId
    paymentId := input.paymentId
    paymentEventId := input.paymentEventId
    oldExpiry := license.expiresAt
    newExpiry := operation.effectiveExpiry
    durationMs := input.periodEnd - input.periodStart
    decision := match operation.deviceHash with
      | some deviceHash => .successorLeasePending deviceHash
      | none => .entitlementRenewedNoActiveInstallation }
  completedAt := match operation.deviceHash with
    | some _ => none
    | none => some input.effectiveAt

def reactivateLicense (effectiveExpiry : Time) (license : License) : License :=
  { license with status := .active, expiresAt := some effectiveExpiry }

def renewLicense (package : LicensingPackage) (input : RenewInput) (license : License)
    (store : LicensingStore) : LicensingStore × LicenseSnapshot × List RenewalOperation :=
  let durationMs := input.periodEnd - input.periodStart
  let effectiveExpiry := package.renewalExpiration license.expiresAt input.effectiveAt durationMs
  let operations := renewalOperations input license effectiveExpiry
    (activeDeviceHashes store license.id)
  ({ store with
      licenses := store.licenses.update (fun row => row.id = license.id)
        (reactivateLicense effectiveExpiry)
      leaseOperations := operations.foldl (fun table operation =>
        (table.insertOrIgnore (leaseOperationRow input license operation)).1) store.leaseOperations },
    { id := license.id, publicId := license.publicId, subscriptionId := some input.subscriptionId,
      status := .active, expiresAt := some effectiveExpiry },
    operations)

/-- The loop of `renewSubscription`; the licences were read before it. -/
def renewLicenses (package : LicensingPackage) (input : RenewInput) :
    List License -> LicensingStore -> LicensingStore × Renewal
  | [], store => (store, ⟨[], []⟩)
  | license :: rest, store =>
    let (renewed, snapshot, operations) := renewLicense package input license store
    let (final, renewal) := renewLicenses package input rest renewed
    (final, ⟨snapshot :: renewal.licenses, operations ++ renewal.renewalOperations⟩)

def licensesOf (store : LicensingStore) (subscriptionId : Id) : List License :=
  store.licenses.select (fun license => license.subscriptionId = some subscriptionId)

/-- `renewSubscription` of the repository. -/
def renewSubscription (package : LicensingPackage) (input : RenewInput) :
    Tx LicensingStore Renewal := do
  let store <- get
  let (renewed, renewal) :=
    renewLicenses package input (licensesOf store input.subscriptionId) store
  set renewed
  return renewal

/-! ## Fulfilment -/

/-- The billing interval of an item, from the item itself or, for an item
written before it carried one, from its catalogue price. -/
def billingInterval (commerce : CommerceStore) (item : OrderItem) :
    Except TransactionError (IntervalUnit × Int) :=
  match item.intervalUnit with
  | some intervalUnit => .ok (intervalUnit, item.intervalCount.getD 1)
  | none =>
    match commerce.prices.lookup (.id item.priceId) with
    | none => .error .recordNotFound
    | some legacyPrice =>
      match legacyPrice.intervalUnit with
      | some intervalUnit => .ok (intervalUnit, legacyPrice.intervalCount.getD 1)
      | none => .error (.payment .processingFailed)

def renewalReminderAt (periodEnd : Time) : IntervalUnit -> Time
  | .month => addDays periodEnd (-7)
  | .year => addDays periodEnd (-30)

/-- Numbers that JavaScript treats as true. -/
def positiveCount : Option Int -> Bool
  | some count => count ≠ 0
  | none => false

def consumesDiscount (item : OrderItem) (subscription : Subscription) : Bool :=
  item.offerId.isSome && positiveCount subscription.discountedCyclesTotal &&
    subscription.discountedCyclesConsumed < subscription.discountedCyclesTotal.getD 0

def extendSubscription (periodStart periodEnd : Time) (intervalUnit : IntervalUnit)
    (consumeDiscount : Bool) (subscription : Subscription) : Subscription :=
  { subscription with
    status := .active
    currentPeriodStart := periodStart
    currentPeriodEnd := periodEnd
    renewalReminderAt := renewalReminderAt periodEnd intervalUnit
    discountedCyclesConsumed :=
      if consumeDiscount then subscription.discountedCyclesConsumed + 1
      else subscription.discountedCyclesConsumed }

def leaseRequests (operations : List RenewalOperation) : List RenewalLeaseRequest :=
  operations.filterMap (fun operation =>
    match operation.status, operation.deviceHash with
    | .prepared, some deviceHash => some ⟨operation.operationId, operation.licenseId, deviceHash⟩
    | _, _ => none)

/-- The branch for an item whose order renews a subscription. -/
def renewItem (package : LicensingPackage) (moment : Moment) (order : Order)
    (evidence : PaymentEvidence) (item : OrderItem) (intervalUnit : IntervalUnit)
    (intervalCount : Int) (subscriptionId : Id) : Tx LicensingStore (List RenewalLeaseRequest) := do
  let store <- get
  let existing <- Transaction.orFail .recordNotFound
    (store.subscriptions.lookup (.id subscriptionId))
  let periodStart := if existing.currentPeriodEnd > moment.now then existing.currentPeriodEnd
    else moment.now
  let periodEnd := addBillingInterval periodStart intervalUnit intervalCount
  let consumeDiscount := consumesDiscount item existing
  set { store with
    subscriptions := store.subscriptions.update (fun row => row.id = existing.id)
      (extendSubscription periodStart periodEnd intervalUnit consumeDiscount) }
  let input : RenewInput := {
    subscriptionId := existing.id
    orderId := order.id
    periodStart
    periodEnd
    effectiveAt := moment.now
    discountedCycleConsumed := consumeDiscount
    paymentId := evidence.paymentId
    paymentEventId := evidence.paymentEventId }
  let renewal <- (package.renewSubscription input).connect (renewSubscription package)
  match renewal with
  | .ok renewal => return leaseRequests renewal.renewalOperations
  | .refused => throw .retryable

def createdSubscription (moment : Moment) (order : Order) (accountId : Id) (item : OrderItem)
    (intervalUnit : IntervalUnit) (intervalCount : Int) : Subscription :=
  let periodEnd := addBillingInterval moment.now intervalUnit intervalCount
  let pricing := item.pricingSnapshot
  let cycles := pricing.offer.bind OfferSnapshot.discountedBillingCycles
  { id := moment.draw (.subscriptionId item.id)
    accountId
    orderId := order.id
    productId := item.productId
    editionId := item.editionId
    purchasePlanId := item.purchasePlanId
    status := .active
    seats := item.quantity * item.policySnapshot.maxSeats
    currentPeriodStart := moment.now
    currentPeriodEnd := periodEnd
    renewalReminderAt := renewalReminderAt periodEnd intervalUnit
    currency := some order.currency
    normalRecurringAmountMinor := some (pricing.catalogAmountMinor.getD item.unitAmountMinor)
    discountedRecurringAmountMinor :=
      if pricing.offer.isSome then pricing.finalAmountMinor else none
    promotionalDiscountBps := pricing.offer.bind OfferSnapshot.discountBps
    discountedCyclesTotal := cycles
    discountedCyclesConsumed := if positiveCount cycles then 1 else 0
    offerId := item.offerId
    offerSnapshot := pricing.offer
    pricingVersion := item.pricingVersion }

def issueInput (environment : Environment) (moment : Moment) (order : Order) (accountId : Id)
    (item : OrderItem) (subscriptionId : Option Id) (expiresAt : Option Time) : IssueInput :=
  let plaintextKey := moment.draw (.licensePlaintextKey item.id)
  { keyMaterial := {
      publicId := moment.draw (.licensePublicId item.id)
      keyHash := environment.hashLicenseKey plaintextKey
      keyLastFour := lastFour plaintextKey
      keyCiphertext := environment.encryptLicenseKey plaintextKey }
    accountId
    orderId := order.id
    orderItemId := item.id
    productId := item.productId
    editionId := item.editionId
    purchasePlanId := item.purchasePlanId
    subscriptionId
    maxSeats := item.quantity * item.policySnapshot.maxSeats
    maxDevicesPerSeat := item.policySnapshot.maxDevicesPerSeat
    expiresAt }

def issueItem (package : LicensingPackage) (environment : Environment) (moment : Moment)
    (order : Order) (accountId : Id) (item : OrderItem) (subscriptionId : Option Id)
    (expiresAt : Option Time) : Tx LicensingStore (List RenewalLeaseRequest) := do
  let issued <- (package.issue
    (issueInput environment moment order accountId item subscriptionId expiresAt)).connect
      (issue moment)
  match issued with
  | .ok _ => return []
  | .refused => throw .retryable

/-- The branch for a recurring item whose order renews nothing. -/
def subscribeItem (package : LicensingPackage) (environment : Environment) (moment : Moment)
    (order : Order) (accountId : Id) (item : OrderItem) (intervalUnit : IntervalUnit)
    (intervalCount : Int) : Tx LicensingStore (List RenewalLeaseRequest) := do
  let store <- get
  let subscription := createdSubscription moment order accountId item intervalUnit intervalCount
  let subscriptions <- Transaction.orFail .uniqueViolation (store.subscriptions.insert subscription)
  set { store with subscriptions }
  issueItem package environment moment order accountId item (some subscription.id)
    (some subscription.currentPeriodEnd)

/-- The body of the loop over the items. -/
def fulfillItem (package : LicensingPackage) (environment : Environment) (commerce : CommerceStore)
    (moment : Moment) (order : Order) (accountId : Id) (evidence : PaymentEvidence)
    (item : OrderItem) : Tx LicensingStore (List RenewalLeaseRequest) :=
  match item.billingType with
  | .oneTime =>
    issueItem package environment moment order accountId item none
      (package.initialExpiration moment.now item.policySnapshot.validityDays)
  | .subscription =>
    match billingInterval commerce item with
    | .error failure => throw failure
    | .ok (intervalUnit, intervalCount) =>
      match order.renewalSubscriptionId with
      | some subscriptionId =>
        renewItem package moment order evidence item intervalUnit intervalCount subscriptionId
      | none =>
        subscribeItem package environment moment order accountId item intervalUnit intervalCount

def fulfillItems (package : LicensingPackage) (environment : Environment) (commerce : CommerceStore)
    (moment : Moment) (order : Order) (accountId : Id) (evidence : PaymentEvidence) :
    List OrderItem -> Tx LicensingStore (List RenewalLeaseRequest)
  | [] => return []
  | item :: rest => do
    let requests <- fulfillItem package environment commerce moment order accountId evidence item
    let later <- fulfillItems package environment commerce moment order accountId evidence rest
    return requests ++ later

/-- The items a fulfilment is about: all of the order, or the one it names. -/
def targetItems (commerce : CommerceStore) (order : Order) (target : LicensingFulfillmentTarget) :
    List OrderItem :=
  let items := commerce.orderItems.select (fun item => item.orderId = order.id)
  match target.orderItemId with
  | some orderItemId => items.filter (fun item => item.id = orderItemId)
  | none => items

def fulfillOrderLicensing (package : LicensingPackage) (environment : Environment)
    (commerce : CommerceStore) (moment : Moment) (orderId : Id) (evidence : PaymentEvidence)
    (target : LicensingFulfillmentTarget) : Tx LicensingStore (List RenewalLeaseRequest) := do
  let order <- Transaction.orFail .recordNotFound (commerce.orders.lookup (.id orderId))
  let accountId := target.accountId.getD order.accountId
  let items := targetItems commerce order target
  if target.orderItemId.isSome ∧ items.length ≠ 1 then
    throw (.payment .processingFailed)
  fulfillItems package environment commerce moment order accountId evidence items

end Licensing
end DigitalSolutions

import DigitalSolutions.Foundation.Table
import DigitalSolutions.Persistence.Json

namespace DigitalSolutions
namespace Persistence

open Foundation

/-!
# Rows of the purchase, payment and licensing tables

The row types follow `prisma/schema.prisma` and the SQL migrations that add
the owner tables (`PaymentProviderEvent`, `PaymentCheckoutAttempt`,
`PaymentSettlementFact`, `Entitlement`, `ClaimCode`).  Columns that no
modelled function reads or writes are left out, and so are the audit log, the
notifications and the licence event log, which the modelled transactions only
append to.

Each row lists the unique indexes of its table.  CHECK constraints that tie a
status to other columns become the shape of the status: a revoked entitlement
carries its evidence, and an available claim code its ciphertext.

Instants are milliseconds since the epoch and money is in minor units.
-/

abbrev Id := String

abbrev Time := Int

/-! ## Commerce -/

inductive OrderStatus
  | pending | paid | cancelled | refunded | partiallyRefunded
  deriving DecidableEq

inductive FulfillmentMode
  | accountEntitlement | claimCode
  deriving DecidableEq

structure Order where
  id : Id
  number : String
  sourceReference : Option String
  accountId : Id
  status : OrderStatus
  fulfillmentMode : FulfillmentMode
  fulfillmentSnapshot : Json
  currency : String
  totalMinor : Int
  createdAt : Time
  paidAt : Option Time
  renewalSubscriptionId : Option Id
  deriving DecidableEq

inductive Order.Key
  | id (value : Id) | number (value : String) | sourceReference (value : String)
  deriving DecidableEq

instance : Keyed Order Order.Key where
  keys order := .id order.id :: .number order.number ::
    order.sourceReference.toList.map .sourceReference

inductive BillingType
  | oneTime | subscription
  deriving DecidableEq

inductive IntervalUnit
  | month | year
  deriving DecidableEq

inductive PurchasePlanType
  | perpetual | monthly | annual
  deriving DecidableEq

/-- The licence policy frozen into an order item. -/
structure PolicySnapshot where
  maxSeats : Int
  maxDevicesPerSeat : Int
  validityDays : Option Int
  deriving DecidableEq

structure OfferSnapshot where
  discountBps : Option Int
  discountedBillingCycles : Option Int
  deriving DecidableEq

structure PricingSnapshot where
  catalogAmountMinor : Option Int
  finalAmountMinor : Option Int
  offer : Option OfferSnapshot
  deriving DecidableEq

structure OrderItem where
  id : Id
  orderId : Id
  productId : Id
  editionId : Option Id
  purchasePlanId : Option Id
  priceId : Id
  productName : String
  editionName : Option String
  planName : Option String
  priceName : String
  planType : Option PurchasePlanType
  quantity : Nat
  unitAmountMinor : Int
  billingType : BillingType
  intervalUnit : Option IntervalUnit
  intervalCount : Option Int
  offerId : Option Id
  entitlementSnapshot : Json
  policySnapshot : PolicySnapshot
  pricingSnapshot : PricingSnapshot
  pricingVersion : Option String
  deriving DecidableEq

inductive OrderItem.Key
  | id (value : Id)
  deriving DecidableEq

instance : Keyed OrderItem OrderItem.Key where
  keys item := [.id item.id]

/-- The interval of a catalogue price, which order items written before the
interval was frozen into them fall back to. -/
structure Price where
  id : Id
  intervalUnit : Option IntervalUnit
  intervalCount : Option Int
  deriving DecidableEq

inductive Price.Key
  | id (value : Id)
  deriving DecidableEq

instance : Keyed Price Price.Key where
  keys price := [.id price.id]

inductive InvoiceStatus
  | draft | final | void
  deriving DecidableEq

structure Invoice where
  id : Id
  number : String
  orderId : Id
  status : InvoiceStatus
  issuedAt : Option Time
  deriving DecidableEq

inductive Invoice.Key
  | id (value : Id) | number (value : String) | orderId (value : Id)
  deriving DecidableEq

instance : Keyed Invoice Invoice.Key where
  keys invoice := [.id invoice.id, .number invoice.number, .orderId invoice.orderId]

inductive OfferRedemptionStatus
  | reserved | applied | released | refunded
  deriving DecidableEq

structure OfferRedemption where
  id : Id
  orderId : Id
  status : OfferRedemptionStatus
  reservedAt : Time
  appliedAt : Option Time
  releasedAt : Option Time
  deriving DecidableEq

inductive OfferRedemption.Key
  | id (value : Id) | orderId (value : Id)
  deriving DecidableEq

instance : Keyed OfferRedemption OfferRedemption.Key where
  keys redemption := [.id redemption.id, .orderId redemption.orderId]

/-! ## Payments: the tables of the payments package -/

/-- The values the CHECK constraint on `PaymentProviderEvent.type` allows. -/
inductive ProviderEventType
  | paymentPaid | paymentFailed | paymentRefunded | paymentRefundUpdated | unknown
  deriving DecidableEq

inductive RefundStatus
  | pending | succeeded | failed
  deriving DecidableEq

structure PaymentProviderEvent where
  id : Id
  provider : String
  eventId : String
  payloadHash : String
  eventFingerprint : String
  rawType : Option String
  type : ProviderEventType
  externalPaymentId : Option String
  externalCheckoutId : Option String
  reference : Option String
  externalRefundId : Option String
  refundStatus : Option RefundStatus
  amountMinor : Option Int
  currency : Option String
  livemode : Bool
  occurredAt : Time
  receivedAt : Time
  deriving DecidableEq

inductive PaymentProviderEvent.Key
  | id (value : Id) | event (provider eventId : String)
  deriving DecidableEq

instance : Keyed PaymentProviderEvent PaymentProviderEvent.Key where
  keys event := [.id event.id, .event event.provider event.eventId]

inductive CheckoutAttemptStatus
  | creating | pending | failed | cancelled
  deriving DecidableEq

structure PaymentCheckoutAttempt where
  id : Id
  sourceReference : String
  commercialReference : String
  provider : String
  requestFingerprint : String
  amountMinor : Int
  currency : String
  payerSnapshot : Json
  itemsSnapshot : Json
  status : CheckoutAttemptStatus
  externalCheckoutId : Option String
  checkoutUrl : Option String
  failureCode : Option String
  createdAt : Time
  updatedAt : Time
  deriving DecidableEq

inductive PaymentCheckoutAttempt.Key
  | id (value : Id) | sourceReference (value : String)
  | external (provider externalCheckoutId : String)
  deriving DecidableEq

instance : Keyed PaymentCheckoutAttempt PaymentCheckoutAttempt.Key where
  keys attempt := .id attempt.id :: .sourceReference attempt.sourceReference ::
    attempt.externalCheckoutId.toList.map (.external attempt.provider)

structure PaymentSettlementFact where
  id : Id
  providerEventRecordId : Id
  checkoutAttemptId : Id
  provider : String
  eventId : String
  externalPaymentId : String
  externalCheckoutId : String
  commercialReference : String
  amountMinor : Int
  currency : String
  livemode : Bool
  settledAt : Time
  createdAt : Time
  deriving DecidableEq

inductive PaymentSettlementFact.Key
  | id (value : Id) | providerEventRecordId (value : Id)
  | externalPayment (provider externalPaymentId : String)
  deriving DecidableEq

instance : Keyed PaymentSettlementFact PaymentSettlementFact.Key where
  keys fact := [.id fact.id, .providerEventRecordId fact.providerEventRecordId,
    .externalPayment fact.provider fact.externalPaymentId]

/-! ## Payments: the tables of the host -/

inductive PaymentStatus
  | pending | paid | failed | refunded | partiallyRefunded
  deriving DecidableEq

structure Payment where
  id : Id
  orderId : Id
  provider : String
  externalId : String
  status : PaymentStatus
  amountMinor : Int
  currency : String
  paidAt : Option Time
  createdAt : Time
  deriving DecidableEq

inductive Payment.Key
  | id (value : Id) | external (provider externalId : String)
  deriving DecidableEq

instance : Keyed Payment Payment.Key where
  keys payment := [.id payment.id, .external payment.provider payment.externalId]

/-- The texts the host writes into the status column of `PaymentAttempt`. -/
inductive PaymentAttemptStatus
  | creating | pending | completed | failed | expired | cancelled
  deriving DecidableEq

structure PaymentAttempt where
  id : Id
  orderId : Id
  provider : String
  idempotencyKey : String
  externalCheckoutId : Option String
  checkoutUrl : Option String
  status : PaymentAttemptStatus
  createdAt : Time
  deriving DecidableEq

inductive PaymentAttempt.Key
  | id (value : Id) | idempotencyKey (value : String) | externalCheckoutId (value : String)
  deriving DecidableEq

instance : Keyed PaymentAttempt PaymentAttempt.Key where
  keys attempt := .id attempt.id :: .idempotencyKey attempt.idempotencyKey ::
    attempt.externalCheckoutId.toList.map .externalCheckoutId

/-- The codes a payment operation may report. -/
inductive PaymentErrorCode
  | signatureInvalid | signatureStale | eventReplayConflict | amountMismatch | currencyMismatch
  | referenceMismatch | checkoutMismatch | modeMismatch | eventUnsupported | alreadySettled
  | refundNotAllowed | refundConflict | reconciliationRequired | providerUnavailable
  | processingRetryable | processingFailed
  deriving DecidableEq

def PaymentErrorCode.text : PaymentErrorCode -> String
  | signatureInvalid => "PAYMENT_SIGNATURE_INVALID"
  | signatureStale => "PAYMENT_SIGNATURE_STALE"
  | eventReplayConflict => "PAYMENT_EVENT_REPLAY_CONFLICT"
  | amountMismatch => "PAYMENT_AMOUNT_MISMATCH"
  | currencyMismatch => "PAYMENT_CURRENCY_MISMATCH"
  | referenceMismatch => "PAYMENT_REFERENCE_MISMATCH"
  | checkoutMismatch => "PAYMENT_CHECKOUT_MISMATCH"
  | modeMismatch => "PAYMENT_MODE_MISMATCH"
  | eventUnsupported => "PAYMENT_EVENT_UNSUPPORTED"
  | alreadySettled => "PAYMENT_ALREADY_SETTLED"
  | refundNotAllowed => "PAYMENT_REFUND_NOT_ALLOWED"
  | refundConflict => "PAYMENT_REFUND_CONFLICT"
  | reconciliationRequired => "PAYMENT_RECONCILIATION_REQUIRED"
  | providerUnavailable => "PAYMENT_PROVIDER_UNAVAILABLE"
  | processingRetryable => "PAYMENT_PROCESSING_RETRYABLE"
  | processingFailed => "PAYMENT_PROCESSING_FAILED"

/-- `code.includes(part)`. -/
def PaymentErrorCode.includes (code : PaymentErrorCode) (part : String) : Bool :=
  code.text.toList.tails.any (fun rest => part.toList.isPrefixOf rest)

inductive RefundOperationStatus
  | requested | pending | providerConfirmed | succeeded | failed
  deriving DecidableEq

structure RefundOperation where
  id : Id
  orderId : Id
  paymentId : Id
  provider : String
  amountMinor : Int
  currency : String
  reasonCode : String
  idempotencyKey : String
  externalRefundId : Option String
  status : RefundOperationStatus
  lastErrorCode : Option PaymentErrorCode
  requestedById : Id
  completedAt : Option Time
  deriving DecidableEq

inductive RefundOperation.Key
  | id (value : Id) | idempotencyKey (value : String) | externalRefundId (value : String)
  deriving DecidableEq

instance : Keyed RefundOperation RefundOperation.Key where
  keys operation := .id operation.id :: .idempotencyKey operation.idempotencyKey ::
    operation.externalRefundId.toList.map .externalRefundId

/-! ## Webhooks -/

inductive WebhookStatus
  | received | processed | ignored | failed
  deriving DecidableEq

inductive ResolutionStatus
  | «open» | acknowledged | resolved
  deriving DecidableEq

/-- The verified event as ingestion stores it beside the webhook row. -/
structure StoredEvent where
  eventId : String
  rawType : Option String
  type : ProviderEventType
  externalPaymentId : Option String
  externalCheckoutId : Option String
  reference : Option String
  externalRefundId : Option String
  refundStatus : Option RefundStatus
  amountMinor : Option Int
  currency : Option String
  livemode : Bool
  occurredAt : Time
  eventFingerprint : Option String
  deriving DecidableEq

structure WebhookEvent where
  id : Id
  provider : String
  externalEventId : String
  rawEventType : Option String
  eventType : ProviderEventType
  livemode : Bool
  payloadHash : String
  normalizedData : Option StoredEvent
  status : WebhookStatus
  error : Option PaymentErrorCode
  lastErrorCode : Option PaymentErrorCode
  mismatchCategory : Option PaymentErrorCode
  processingAttempts : Nat
  conflictCount : Nat
  receivedAt : Time
  lastAttemptAt : Option Time
  processedAt : Option Time
  occurredAt : Option Time
  orderId : Option Id
  paymentAttemptId : Option Id
  paymentId : Option Id
  providerCheckoutId : Option String
  providerPaymentId : Option String
  providerRefundId : Option String
  resolutionStatus : ResolutionStatus
  deriving DecidableEq

inductive WebhookEvent.Key
  | id (value : Id) | event (provider externalEventId : String)
  deriving DecidableEq

instance : Keyed WebhookEvent WebhookEvent.Key where
  keys webhook := [.id webhook.id, .event webhook.provider webhook.externalEventId]

/-! ## Entitlements -/

/-- The text that says where a right came from.  Identifiers hold no colon,
so the three shapes and their parts can be read back from the text. -/
inductive SourceReference
  | commerce (orderId orderItemId : Id)
  | claim (claimCodeId : Id)
  | other (text : String)
  deriving DecidableEq

/-- Status of a right together with the columns its CHECK constraint ties to
the status. -/
inductive EntitlementState
  | active
  | revoked (revokedAt : Time) (revocationReference : String) (revocationSnapshot : Json)
  deriving DecidableEq

structure Entitlement where
  id : Id
  subjectId : Id
  resourceId : Id
  sourceReference : SourceReference
  state : EntitlementState
  quantity : Nat
  scopeSnapshot : Json
  grantSnapshot : Json
  validFrom : Time
  validUntil : Option Time
  createdAt : Time
  deriving DecidableEq

inductive Entitlement.Key
  | id (value : Id) | sourceReference (value : SourceReference)
  deriving DecidableEq

instance : Keyed Entitlement Entitlement.Key where
  keys entitlement := [.id entitlement.id, .sourceReference entitlement.sourceReference]

inductive ClaimCodeStatus
  | available | claimed | revoked | expired
  deriving DecidableEq

/-- Status of a claim code together with the columns its CHECK constraints
tie to the status: only an available code still has its ciphertext. -/
inductive ClaimCodeState
  | available (codeCiphertext : String)
  | claimed (claimedAt : Time) (claimedByUserId claimedToAccountId entitlementId : Id)
  | revoked (revokedAt : Time)
  | expired
  deriving DecidableEq

def ClaimCodeState.status : ClaimCodeState -> ClaimCodeStatus
  | available _ => .available
  | claimed .. => .claimed
  | revoked _ => .revoked
  | expired => .expired

def ClaimCodeState.entitlementId : ClaimCodeState -> Option Id
  | claimed _ _ _ entitlementId => some entitlementId
  | _ => none

structure ClaimCode where
  id : Id
  orderId : Id
  orderItemId : Id
  unitIndex : Nat
  purchaserAccountId : Id
  codeHash : String
  codeLastFour : String
  state : ClaimCodeState
  resourceId : Id
  productId : Id
  editionId : Option Id
  purchasePlanId : Option Id
  scopeSnapshot : Json
  grantSnapshot : Json
  validFrom : Time
  validUntil : Option Time
  expiresAt : Option Time
  deriving DecidableEq

inductive ClaimCode.Key
  | id (value : Id) | codeHash (value : String) | entitlementId (value : Id)
  | unit (orderItemId : Id) (unitIndex : Nat)
  deriving DecidableEq

instance : Keyed ClaimCode ClaimCode.Key where
  keys code := .id code.id :: .codeHash code.codeHash :: .unit code.orderItemId code.unitIndex ::
    code.state.entitlementId.toList.map .entitlementId

/-! ## Licensing -/

inductive LicenseStatus
  | active | suspended | expired | revoked
  deriving DecidableEq

structure License where
  id : Id
  publicId : String
  keyHash : String
  keyLastFour : String
  keyCiphertext : Option String
  accountId : Id
  orderId : Id
  orderItemId : Id
  productId : Id
  editionId : Option Id
  purchasePlanId : Option Id
  subscriptionId : Option Id
  status : LicenseStatus
  maxSeats : Int
  maxDevicesPerSeat : Int
  expiresAt : Option Time
  createdAt : Time
  deriving DecidableEq

inductive License.Key
  | id (value : Id) | publicId (value : String) | keyHash (value : String) | orderItemId (value : Id)
  deriving DecidableEq

instance : Keyed License License.Key where
  keys license := [.id license.id, .publicId license.publicId, .keyHash license.keyHash,
    .orderItemId license.orderItemId]

inductive SubscriptionStatus
  | pending | active | pastDue | expired | cancelled
  deriving DecidableEq

structure Subscription where
  id : Id
  accountId : Id
  orderId : Id
  productId : Id
  editionId : Option Id
  purchasePlanId : Option Id
  status : SubscriptionStatus
  seats : Int
  currentPeriodStart : Time
  currentPeriodEnd : Time
  renewalReminderAt : Time
  currency : Option String
  normalRecurringAmountMinor : Option Int
  discountedRecurringAmountMinor : Option Int
  promotionalDiscountBps : Option Int
  discountedCyclesTotal : Option Int
  discountedCyclesConsumed : Int
  offerId : Option Id
  offerSnapshot : Option OfferSnapshot
  pricingVersion : Option String
  deriving DecidableEq

inductive Subscription.Key
  | id (value : Id)
  deriving DecidableEq

instance : Keyed Subscription Subscription.Key where
  keys subscription := [.id subscription.id]

structure DeviceActivation where
  id : Id
  licenseId : Id
  deviceHash : String
  active : Bool
  deactivatedAt : Option Time
  deriving DecidableEq

inductive DeviceActivation.Key
  | id (value : Id) | device (licenseId deviceHash : String)
  deriving DecidableEq

instance : Keyed DeviceActivation DeviceActivation.Key where
  keys activation := [.id activation.id, .device activation.licenseId activation.deviceHash]

inductive LeaseOperationStatus
  | pending | prepared | completed
  deriving DecidableEq

inductive RenewalDecision
  | successorLeasePending (deviceHash : String)
  | entitlementRenewedNoActiveInstallation
  deriving DecidableEq

structure RenewalMetadata where
  orderId : Id
  paymentId : Option Id
  paymentEventId : Option String
  oldExpiry : Option Time
  newExpiry : Time
  durationMs : Int
  decision : RenewalDecision
  deriving DecidableEq

/-- The operation identifier of a renewal, `renewal:order:license:device`,
where a licence without an active device has the last part `none`. -/
structure RenewalOperationId where
  orderId : Id
  licenseId : Id
  deviceHash : Option String
  deriving DecidableEq

structure CommercialLeaseOperation where
  operationId : RenewalOperationId
  licenseId : Id
  status : LeaseOperationStatus
  metadata : RenewalMetadata
  completedAt : Option Time
  deriving DecidableEq

inductive CommercialLeaseOperation.Key
  | operationId (value : RenewalOperationId)
  deriving DecidableEq

instance : Keyed CommercialLeaseOperation CommercialLeaseOperation.Key where
  keys operation := [.operationId operation.operationId]

end Persistence
end DigitalSolutions

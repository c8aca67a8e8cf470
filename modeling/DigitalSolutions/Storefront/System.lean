import DigitalSolutions.Commerce.Checkout
import DigitalSolutions.Foundation.Machine
import DigitalSolutions.Orders.Continuation
import DigitalSolutions.Payments.Refunds
import DigitalSolutions.Payments.WebhookIngestion
import DigitalSolutions.Scheduler.CommerceLifecycle

namespace DigitalSolutions
namespace Storefront

open Foundation Persistence Platform Commerce Entitlements Licensing Orders Payments Scheduler

/-!
# The storefront as a machine of transactions

Every committed database transaction of the purchase and payment paths is one
action.  A request handler is a sequence of such transactions with arbitrary
pauses, so every interleaving of handlers, every redelivery and every retry is
a schedule of this machine; a schedule may also do what no handler would do,
and the results hold all the same.

The administrator's cancellation is not an action here.  It is two separate
statements, and the module about cancellations interleaves them.
-/

inductive HostTransaction
  /-- The commerce package persists a checkout. -/
  | createPendingOrder (rows : CheckoutRows)
  /-- The payments package persists the provider checkout of a checkout. -/
  | recordCheckoutAttempt (attempt : PaymentCheckoutAttempt)
  | claimEvent (moment : Moment) (input : ProviderEventClaim)
  | noteConflict (provider eventId : String)
  | reopenDelivered (moment : Moment) (webhookId : Id)
  | restoreOwnerEvent (webhookId : Id)
  | reopenStored (moment : Moment) (webhookId : Id)
  | processVerifiedEvent (moment : Moment) (providerEventRecordId : Id)
  | recordFailure (moment : Moment) (provider eventId : String) (code : PaymentErrorCode)
    (retryable : Bool)
  | cancelOrder (moment : Moment) (orderId : Id) (permits : Id -> Bool)
  | cancelAgentPendingOrder (moment : Moment) (orderId accountId : Id)
  | commerceLifecycle (now : Time)
  | reserveCheckout (moment : Moment) (orderId : Id) (permits : Id -> Bool)
  | storeCheckout (orderId : Id) (idempotencyKey : String) (checkout : WebCheckoutResult)
    (permits : Id -> Bool)
  | abandonReservation (idempotencyKey : String)
  | openRefundOperation (operationId : Id) (request : RefundRequest)
  | storeRefundResult (moment : Moment) (operationId : Id) (result : RefundProviderResult)
  | failRefundOperation (moment : Moment) (operationId : Id) (code : PaymentErrorCode)
  | revealClaimCode (moment : Moment) (claimCodeId purchaserAccountId : Id)
  | consumeClaimCode (moment : Moment) (input : ClaimCodeConsumeInput)
  | issueCommercialLease (moment : Moment) (request : CommercialLeaseRequest)
  | deactivateDevice (moment : Moment) (accountId licenseId deviceActivationId : Id)

def recordCheckoutAttempt (attempt : PaymentCheckoutAttempt) : Tx PaymentsStore Unit := do
  let store <- get
  let checkoutAttempts <- Transaction.orFail .uniqueViolation (store.checkoutAttempts.insert attempt)
  set { store with checkoutAttempts }

/-- Process the event of a stored owner row, which is how every handler comes
by its event. -/
def processStoredEvent (host : Host) (moment : Moment) (providerEventRecordId : Id) : Tx Db Unit := do
  let db <- get
  let event <- Transaction.orFail .recordNotFound
    (db.payments.providerEvents.lookup (.id providerEventRecordId))
  let _ <- processVerifiedEvent host moment (snapshot event)

def restoreOwnerEvent (webhookId : Id) : Tx Db Unit := do
  let db <- get
  let webhook <- Transaction.orFail .recordNotFound (db.webhookEvents.lookup (.id webhookId))
  let _ <- (ownerEventForStoredWebhook webhook).within Db.paymentsPart

def commit (host : Host) : HostTransaction -> Tx Db Unit
  | .createPendingOrder rows => (createPendingOrder rows).within Db.commercePart
  | .recordCheckoutAttempt attempt => (recordCheckoutAttempt attempt).within Db.paymentsPart
  | .claimEvent moment input => do let _ <- claimEvent moment input
  | .noteConflict provider eventId =>
    modify (fun db => { db with webhookEvents := noteConflict provider eventId db.webhookEvents })
  | .reopenDelivered moment webhookId =>
    modify (fun db => { db with webhookEvents := reopenDelivered moment webhookId db.webhookEvents })
  | .restoreOwnerEvent webhookId => restoreOwnerEvent webhookId
  | .reopenStored moment webhookId =>
    modify (fun db => { db with webhookEvents := reopenStored moment webhookId db.webhookEvents })
  | .processVerifiedEvent moment providerEventRecordId =>
    processStoredEvent host moment providerEventRecordId
  | .recordFailure moment provider eventId code retryable =>
    (recordFailure moment provider eventId code retryable).within Db.webhookPart
  | .cancelOrder moment orderId permits => cancelOrder moment orderId permits
  | .cancelAgentPendingOrder moment orderId accountId => do
    let _ <- cancelAgentPendingOrder moment orderId accountId
  | .commerceLifecycle now => modify (commerceLifecycle now)
  | .reserveCheckout moment orderId permits => do
    let _ <- reserveCheckout host.environment moment orderId permits
  | .storeCheckout orderId idempotencyKey checkout permits => do
    let _ <- storeCheckout orderId idempotencyKey checkout permits
  | .abandonReservation idempotencyKey =>
    modify (fun db => { db with hostPayments := abandonReservation idempotencyKey db.hostPayments })
  | .openRefundOperation operationId request => do
    let _ <- openRefundOperation host.environment.paymentProvider operationId request
  | .storeRefundResult moment operationId result => storeRefundResult operationId result moment
  | .failRefundOperation moment operationId code =>
    modify (fun db => { db with
      hostPayments := failRefundOperation operationId code moment db.hostPayments })
  | .revealClaimCode moment claimCodeId purchaserAccountId => do
    let _ <- (revealClaimCode host.environment moment claimCodeId purchaserAccountId).within
      Db.entitlementsPart
  | .consumeClaimCode moment input => do
    let _ <- consumeClaimCode host.licensing host.environment moment input
  | .issueCommercialLease moment request =>
    (host.leases.issue moment request).within Db.licensingPart
  | .deactivateDevice moment accountId licenseId deviceActivationId =>
    modify (fun db => { db with
      licensing := deactivateDevice moment accountId licenseId deviceActivationId db.licensing })

/-- The storefront wired to a host. -/
def storefront (host : Host) : Machine Db HostTransaction TransactionError :=
  Machine.ofTransactions (commit host)

theorem storefront_step {host : Host} {before after : Db} {transaction : HostTransaction} :
    (storefront host).step before transaction = .ok after ↔
      (commit host transaction).Commits before () after :=
  Machine.ofTransactions_step

end Storefront
end DigitalSolutions

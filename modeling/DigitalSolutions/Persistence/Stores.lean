import DigitalSolutions.Foundation.Transaction
import DigitalSolutions.Persistence.Schema

namespace DigitalSolutions
namespace Persistence

open Foundation

/-!
# The database as a product of stores

The tables are grouped by the module that owns them.  A modelled function
takes the smallest store it needs, so that what it leaves alone is read off
its type.  A host transaction confines each call to the store of the callee
and works itself on the whole database.
-/

structure CommerceStore where
  orders : Table Order
  orderItems : Table OrderItem
  prices : Table Price
  invoices : Table Invoice
  offerRedemptions : Table OfferRedemption
  deriving DecidableEq

/-- The tables of the payments package. -/
structure PaymentsStore where
  providerEvents : Table PaymentProviderEvent
  checkoutAttempts : Table PaymentCheckoutAttempt
  settlementFacts : Table PaymentSettlementFact
  deriving DecidableEq

/-- The payment tables of the host, which predate the payments package. -/
structure HostPaymentsStore where
  payments : Table Payment
  paymentAttempts : Table PaymentAttempt
  refundOperations : Table RefundOperation
  deriving DecidableEq

structure EntitlementsStore where
  entitlements : Table Entitlement
  claimCodes : Table ClaimCode
  deriving DecidableEq

structure LicensingStore where
  licenses : Table License
  subscriptions : Table Subscription
  deviceActivations : Table DeviceActivation
  leaseOperations : Table CommercialLeaseOperation
  deriving DecidableEq

structure Db where
  commerce : CommerceStore
  payments : PaymentsStore
  hostPayments : HostPaymentsStore
  webhookEvents : Table WebhookEvent
  entitlements : EntitlementsStore
  licensing : LicensingStore
  deriving DecidableEq

namespace Db

def empty : Db where
  commerce := ⟨∅, ∅, ∅, ∅, ∅⟩
  payments := ⟨∅, ∅, ∅⟩
  hostPayments := ⟨∅, ∅, ∅⟩
  webhookEvents := ∅
  entitlements := ⟨∅, ∅⟩
  licensing := ⟨∅, ∅, ∅, ∅⟩

def commercePart : Transaction.Part Db CommerceStore where
  get := Db.commerce
  set commerce db := { db with commerce }

def paymentsPart : Transaction.Part Db PaymentsStore where
  get := Db.payments
  set payments db := { db with payments }

def hostPaymentsPart : Transaction.Part Db HostPaymentsStore where
  get := Db.hostPayments
  set hostPayments db := { db with hostPayments }

def webhookPart : Transaction.Part Db (Table WebhookEvent) where
  get := Db.webhookEvents
  set webhookEvents db := { db with webhookEvents }

def entitlementsPart : Transaction.Part Db EntitlementsStore where
  get := Db.entitlements
  set entitlements db := { db with entitlements }

def licensingPart : Transaction.Part Db LicensingStore where
  get := Db.licensing
  set licensing db := { db with licensing }

end Db

/-- Why a transaction fails: an error the code throws on purpose, or one the
database reports. -/
inductive TransactionError
  | lifecycle (code : PaymentErrorCode) (retryable : Bool)
  | message (text : String)
  | uniqueViolation
  | recordNotFound
  deriving DecidableEq

/-- `throw new PaymentLifecycleError(code)`. -/
def TransactionError.payment (code : PaymentErrorCode) : TransactionError := .lifecycle code false

/-- `throw new PaymentLifecycleError("PAYMENT_PROCESSING_RETRYABLE", true)`. -/
def TransactionError.retryable : TransactionError := .lifecycle .processingRetryable true

/-- The code `safePaymentError` lets out of the process. -/
def TransactionError.safePaymentError : TransactionError -> PaymentErrorCode
  | lifecycle code _ => code
  | _ => .processingFailed

abbrev Tx (Store Value : Type) := Transaction TransactionError Store Value

/-- What the process draws at random inside a transaction, named by what the
draw is for.  A transaction is given the outcome of every draw. -/
inductive Draw
  | entitlementId (sourceReference : SourceReference)
  | claimCodeId (orderItemId : Id) (unitIndex : Nat)
  | claimCodePlaintext (orderItemId : Id) (unitIndex : Nat)
  | claimCodeNonce (orderItemId : Id) (unitIndex : Nat)
  | subscriptionId (orderItemId : Id)
  | licenseId (orderItemId : Id)
  | licensePublicId (orderItemId : Id)
  | licensePlaintextKey (orderItemId : Id)
  | paymentId
  | paymentAttemptId
  | settlementFactId
  | idempotencyKey
  deriving DecidableEq

/-- What a transaction gets from outside the database: the clock and the
outcome of its random draws. -/
structure Moment where
  now : Time
  draw : Draw -> String

/-- A text that JavaScript treats as true: absent and empty are the same. -/
def present : Option String -> Option String
  | some text => if text.isEmpty then none else some text
  | none => none

@[simp] theorem present_none : present none = none := rfl

theorem present_eq_some {field : Option String} {text : String} :
    present field = some text ↔ field = some text ∧ text ≠ "" := by
  cases field with
  | none => simp only [present, reduceCtorEq, false_and]
  | some stored =>
    by_cases blank : stored = ""
    · subst blank
      simp [present]
    · simp only [present, String.isEmpty_iff, blank, if_false, Option.some.injEq]
      constructor
      · intro same
        exact ⟨same, same ▸ blank⟩
      · exact fun both => both.1

end Persistence
end DigitalSolutions

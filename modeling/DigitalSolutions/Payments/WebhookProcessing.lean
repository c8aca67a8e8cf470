import DigitalSolutions.Payments.SettlementTransaction

namespace DigitalSolutions
namespace Payments

open Foundation Persistence Platform Commerce Entitlements Licensing

/-!
# Processing a verified payment event

`processVerifiedEvent` runs one serializable transaction per event.  A paid
event goes through the settlement reaction; a failed or refunded one is
resolved to its order by the host itself and then writes the payment, the
attempts, and for a confirmed refund everything the order granted.  The last
write of every branch is the webhook row.
-/

variable {requests : List RenewalLeaseRequest} {resolved : OperationalOrder}
variable {change : WebhookEvent -> WebhookEvent}

/-- A verified event as the process holds it: the stored row with its blank
texts dropped. -/
structure VerifiedEvent where
  providerEventRecordId : Id
  provider : String
  eventId : String
  rawType : Option String
  type : ProviderEventType
  externalPaymentId : Option String
  externalCheckoutId : Option String
  reference : Option String
  externalRefundId : Option String
  refundStatus : Option RefundStatus
  amountMinor : Option Int
  currency : Option String
  livemode : Bool
  occurredAt : Time
  receivedAt : Time
  deriving DecidableEq

def snapshot (row : PaymentProviderEvent) : VerifiedEvent where
  providerEventRecordId := row.id
  provider := row.provider
  eventId := row.eventId
  rawType := present row.rawType
  type := row.type
  externalPaymentId := present row.externalPaymentId
  externalCheckoutId := present row.externalCheckoutId
  reference := present row.reference
  externalRefundId := present row.externalRefundId
  refundStatus := row.refundStatus
  amountMinor := row.amountMinor
  currency := present row.currency
  livemode := row.livemode
  occurredAt := row.occurredAt
  receivedAt := row.receivedAt

/-! ## Resolving the order of an operational event -/

structure OperationalOrder where
  order : Order
  hostAttempt : Option PaymentAttempt
  packageAttempt : Option PaymentCheckoutAttempt
  knownPayment : Option Payment
  deriving DecidableEq

def hostAttemptOf (store : HostPaymentsStore) (event : VerifiedEvent) : Option PaymentAttempt :=
  event.externalCheckoutId.bind (fun checkout =>
    store.paymentAttempts.lookup (.externalCheckoutId checkout))

def packageAttemptOf (store : PaymentsStore) (event : VerifiedEvent) :
    Option PaymentCheckoutAttempt :=
  event.externalCheckoutId.bind (fun checkout =>
    store.checkoutAttempts.lookup (.external event.provider checkout))

def knownPaymentOf (store : HostPaymentsStore) (event : VerifiedEvent) : Option Payment :=
  event.externalPaymentId.bind (fun externalId =>
    store.payments.lookup (.external event.provider externalId))

/-- The currency test: an event with a currency must name the one of the
order, and only a refund update of a known payment may leave it out. -/
def currencyMismatch (event : VerifiedEvent) (order : Order) (knownPayment : Option Payment) : Bool :=
  match event.currency with
  | some currency => toUpperCase currency ≠ toUpperCase order.currency
  | none => event.type ≠ .paymentRefundUpdated || knownPayment.isNone

/-- The checks on a candidate order, in their order in the source. -/
def operationalMismatch (event : VerifiedEvent) (order : Order) (hostAttempt : Option PaymentAttempt)
    (packageOrder byReference : Option Order) (knownPayment : Option Payment) :
    Option PaymentErrorCode :=
  if hostAttempt.any (fun attempt => packageOrder.any (fun other => attempt.orderId ≠ other.id)) then
    some .checkoutMismatch
  else if byReference.any (fun other => other.id ≠ order.id) then
    some .referenceMismatch
  else if knownPayment.any (fun payment => payment.orderId ≠ order.id) then
    some .referenceMismatch
  else if event.reference.any (fun reference => reference ≠ order.id && reference ≠ order.number) then
    some .referenceMismatch
  else if event.amountMinor ≠ some order.totalMinor then
    some .amountMismatch
  else if currencyMismatch event order knownPayment then
    some .currencyMismatch
  else
    none

def resolveOperationalOrder (db : Db) (event : VerifiedEvent) :
    Except TransactionError OperationalOrder :=
  let hostAttempt := hostAttemptOf db.hostPayments event
  let packageAttempt := packageAttemptOf db.payments event
  let orderOf := fun orderId => db.commerce.orders.lookup (.id orderId)
  let packageOrder := packageAttempt.bind (fun attempt => orderOf attempt.commercialReference)
  let byReference := event.reference.bind (orderByReference db.commerce)
  let knownPayment := knownPaymentOf db.hostPayments event
  if event.externalCheckoutId.isSome ∧ hostAttempt.isNone ∧ packageAttempt.isNone ∧
      knownPayment.isNone then
    .error (.payment .checkoutMismatch)
  else
    match (hostAttempt.bind (fun attempt => orderOf attempt.orderId)) <|> packageOrder <|>
        byReference <|> (knownPayment.bind (fun payment => orderOf payment.orderId)) with
    | none => .error (.payment .referenceMismatch)
    | some order =>
      match operationalMismatch event order hostAttempt packageOrder byReference knownPayment with
      | some code => .error (.payment code)
      | none => .ok { order, hostAttempt, packageAttempt, knownPayment }

/-! ## Payments and attempts of the host -/

/-- `payment.upsert` on the provider's identifier of the payment. -/
def upsertPayment (moment : Moment) (orderId : Id) (provider externalId : String) (amountMinor : Int)
    (currency : String) (status : PaymentStatus) (paidAt : Option Time) : Tx HostPaymentsStore Id := do
  let store <- get
  match store.payments.lookup (.external provider externalId) with
  | some payment =>
    set { store with
      payments := store.payments.update (fun row => row.id = payment.id)
        (fun row => { row with status, paidAt := paidAt <|> row.paidAt }) }
    return payment.id
  | none =>
    let payment : Payment := {
      id := moment.draw .paymentId, orderId, provider, externalId, status, amountMinor, currency,
      paidAt, createdAt := moment.now }
    let payments <- Transaction.orFail .uniqueViolation (store.payments.insert payment)
    set { store with payments }
    return payment.id

def setAttemptStatus (attempt : Option PaymentAttempt) (status : PaymentAttemptStatus)
    (store : HostPaymentsStore) : HostPaymentsStore :=
  { store with
    paymentAttempts := store.paymentAttempts.update
      (fun row => some row.id = attempt.map PaymentAttempt.id) (fun row => { row with status }) }

def failPackageAttempt (moment : Moment) (attempt : Option PaymentCheckoutAttempt)
    (store : PaymentsStore) : PaymentsStore :=
  { store with
    checkoutAttempts := store.checkoutAttempts.update
      (fun row => some row.id = attempt.map PaymentCheckoutAttempt.id)
      (fun row => { row with
        status := .failed, failureCode := some "PAYMENT_FAILED", updatedAt := moment.now }) }

/-! ## The branches of `processVerifiedEvent` -/

/-- What a branch hands on to the webhook row and to the renewal leases. -/
structure BranchOutcome where
  orderId : Id
  hostAttemptId : Option Id
  paymentId : Option Id
  renewalRequests : List RenewalLeaseRequest
  deriving DecidableEq

def processPaidEvent (host : Host) (moment : Moment) (event : VerifiedEvent) :
    Tx Db BranchOutcome := do
  match event.externalPaymentId, event.amountMinor, event.currency with
  | some externalPaymentId, some amountMinor, some currency =>
    let settlement <- reactToPaidSettlement host moment event.providerEventRecordId
      host.environment.livemode
    let settled <- get
    let order <- Transaction.orFail .recordNotFound
      (settled.commerce.orders.lookup (.id settlement.order.orderId))
    let paymentId <- (upsertPayment moment order.id event.provider externalPaymentId amountMinor
      currency .paid (some event.occurredAt)).within Db.hostPaymentsPart
    let hostAttempt := hostAttemptOf settled.hostPayments event
    modify (fun db => { db with hostPayments := setAttemptStatus hostAttempt .completed db.hostPayments })
    let renewalRequests <-
      if settlement.paymentSettlementDisposition = .created ∧
          settlement.order.fulfillmentMode = .accountEntitlement then
        (fulfillOrderLicensing host.licensing host.environment settled.commerce moment order.id
          ⟨some paymentId, some event.eventId⟩ ⟨none, none⟩).within Db.licensingPart
      else
        pure []
    return ⟨order.id, hostAttempt.map PaymentAttempt.id, some paymentId, renewalRequests⟩
  | _, _, _ => throw (.payment .referenceMismatch)

/-- `payment.failed`: nothing happens once the order left its payment behind. -/
def processFailedEvent (moment : Moment) (event : VerifiedEvent) (resolved : OperationalOrder) :
    Tx Db (Option Id) := do
  if awaitsPayment resolved.order then
    let paymentId <-
      match event.externalPaymentId, event.amountMinor, event.currency with
      | some externalPaymentId, some amountMinor, some currency =>
        some <$> (upsertPayment moment resolved.order.id event.provider externalPaymentId amountMinor
          currency .failed none).within Db.hostPaymentsPart
      | _, _, _ => pure (resolved.knownPayment.map Payment.id)
    modify (fun db => { db with
      hostPayments := setAttemptStatus resolved.hostAttempt .failed db.hostPayments
      payments := failPackageAttempt moment resolved.packageAttempt db.payments })
    return paymentId
  else
    return resolved.knownPayment.map Payment.id

/-- A refund update that is not a success only moves its refund operation. -/
def processRefundProgress (event : VerifiedEvent) (store : HostPaymentsStore) : HostPaymentsStore :=
  { store with
    refundOperations := store.refundOperations.update
      (fun row => event.externalRefundId.isSome && row.externalRefundId = event.externalRefundId)
      (fun row => { row with
        status := if event.refundStatus = some .failed then .failed else .pending
        lastErrorCode := if event.refundStatus = some .failed then some .refundNotAllowed else none }) }

def refundPayments (order : Order) (event : VerifiedEvent) (store : HostPaymentsStore) :
    HostPaymentsStore :=
  { store with
    payments := store.payments.update
      (fun row => row.orderId = order.id && row.provider = event.provider &&
        event.externalPaymentId.all (fun externalId => row.externalId = externalId))
      (fun row => { row with status := .refunded }) }

/-- The rows of the commerce store a confirmed refund writes. -/
def refundCommerce (orderId : Id) (store : CommerceStore) : CommerceStore :=
  { store with
    orders := store.orders.update (fun row => row.id = orderId)
      (fun row => { row with status := .refunded })
    invoices := store.invoices.update (fun row => row.orderId = orderId)
      (fun row => { row with status := .void })
    offerRedemptions := store.offerRedemptions.update (fun row => row.orderId = orderId)
      (fun row => { row with status := .refunded }) }

/-- Only codes nobody has claimed are revoked, and they lose their text. -/
def revokeCodes (orderId : Id) (revokedAt : Time) (store : EntitlementsStore) : EntitlementsStore :=
  { store with
    claimCodes := store.claimCodes.update
      (fun code => code.orderId = orderId && code.state.status = .available)
      (fun code => { code with state := .revoked revokedAt })
      (fun code chosen => keys_of_available (by simp_all) rfl) }

def licenseOfRefund (order : Order) (license : License) : Bool :=
  license.orderId = order.id ||
    order.renewalSubscriptionId.any (fun subscriptionId => license.subscriptionId = some subscriptionId)

def subscriptionOfRefund (order : Order) (subscription : Subscription) : Bool :=
  subscription.orderId = order.id ||
    order.renewalSubscriptionId.any (fun subscriptionId => subscription.id = subscriptionId)

def revokeLicensing (order : Order) (now : Time) (store : LicensingStore) : LicensingStore :=
  let licenseIds := (store.licenses.select (licenseOfRefund order)).map License.id
  { store with
    licenses := store.licenses.update (fun row => row.id ∈ licenseIds)
      (fun row => { row with status := .revoked })
    deviceActivations := store.deviceActivations.update
      (fun row => row.licenseId ∈ licenseIds && row.active)
      (fun row => { row with active := false, deactivatedAt := some now })
    subscriptions := store.subscriptions.update (subscriptionOfRefund order)
      (fun row => { row with status := .cancelled }) }

/-- The refund operations that a confirmed refund completes: the one that
carries its identifier, and those of the payment it names. -/
def succeedRefundOperations (event : VerifiedEvent) (paymentId : Option Id)
    (store : HostPaymentsStore) : Option HostPaymentsStore :=
  match event.externalRefundId with
  | none => some store
  | some externalRefundId => do
    let refundOperations <- store.refundOperations.amend
      (fun row => row.externalRefundId = some externalRefundId || row.paymentId = paymentId.getD "")
      (fun row => { row with
        externalRefundId := some externalRefundId
        status := .succeeded
        completedAt := some event.occurredAt
        lastErrorCode := none })
    return { store with refundOperations }

def revocationEvidence (order : Order) (event : VerifiedEvent) :
    OrderEntitlementRevocationEvidence where
  revocationReference :=
    "refund:" ++ event.provider ++ ":" ++ event.externalRefundId.getD event.eventId
  revocationSnapshot := .object [
    ("reason", .string "REFUND_CONFIRMED"), ("orderId", .string order.id),
    ("provider", .string event.provider), ("eventId", .string event.eventId),
    ("externalRefundId", event.externalRefundId.elim .null .string)]
  revokedAt := event.occurredAt

/-- A confirmed refund of a paid order. -/
def confirmRefund (host : Host) (moment : Moment) (event : VerifiedEvent)
    (resolved : OperationalOrder) : Tx Db Unit := do
  let order := resolved.order
  let db <- get
  if (db.commerce.invoices.lookup (.orderId order.id)).isNone then
    throw .recordNotFound
  set { db with
    hostPayments := refundPayments order event db.hostPayments
    commerce := refundCommerce order.id db.commerce
    entitlements := revokeCodes order.id event.occurredAt db.entitlements }
  if order.fulfillmentMode = .accountEntitlement then
    let _ <- (revokeOrderEntitlements host.entitlements host.environment
      (itemsOf db.commerce order.id) order.id (revocationEvidence order event)).within
        Db.entitlementsPart
  modify (fun db => { db with licensing := revokeLicensing order moment.now db.licensing })
  let refunded <- get
  let hostPayments <- Transaction.orFail .uniqueViolation
    (succeedRefundOperations event (resolved.knownPayment.map Payment.id) refunded.hostPayments)
  set { refunded with hostPayments }

/-- Everything but a paid event. -/
def processOperationalEvent (host : Host) (moment : Moment) (event : VerifiedEvent) :
    Tx Db BranchOutcome := do
  let db <- get
  let resolved <- liftM (resolveOperationalOrder db event)
  let outcome := fun paymentId => (⟨resolved.order.id, resolved.hostAttempt.map PaymentAttempt.id,
    paymentId, []⟩ : BranchOutcome)
  let knownPaymentId := resolved.knownPayment.map Payment.id
  if event.type = .paymentFailed then
    let paymentId <- processFailedEvent moment event resolved
    return outcome paymentId
  else if event.type = .paymentRefundUpdated ∧ event.refundStatus ≠ some .succeeded then
    modify (fun db => { db with hostPayments := processRefundProgress event db.hostPayments })
    return outcome knownPaymentId
  else if resolved.order.status = .paid then
    confirmRefund host moment event resolved
    return outcome knownPaymentId
  else if resolved.order.status ≠ .refunded then
    throw (.payment .refundConflict)
  else
    return outcome knownPaymentId

/-! ## The webhook row -/

def markProcessed (moment : Moment) (event : VerifiedEvent) (outcome : BranchOutcome)
    (webhook : WebhookEvent) : WebhookEvent :=
  { webhook with
    orderId := some outcome.orderId
    paymentAttemptId := outcome.hostAttemptId <|> webhook.paymentAttemptId
    paymentId := outcome.paymentId <|> webhook.paymentId
    providerCheckoutId := event.externalCheckoutId <|> webhook.providerCheckoutId
    providerPaymentId := event.externalPaymentId <|> webhook.providerPaymentId
    providerRefundId := event.externalRefundId <|> webhook.providerRefundId
    status := .processed
    error := none
    lastErrorCode := none
    mismatchCategory := none
    processedAt := some moment.now
    lastAttemptAt := some moment.now
    resolutionStatus := .resolved }

/-- `webhookEvent.update` on the provider's identifier; the row must exist. -/
def updateWebhook (provider externalEventId : String) (change : WebhookEvent -> WebhookEvent)
    (keeps : forall webhook, Keyed.keys (change webhook) = Keyed.keys webhook) :
    Tx (Table WebhookEvent) Unit := do
  let table <- get
  if (table.lookup (.event provider externalEventId)).isNone then
    throw .recordNotFound
  set (table.update (fun row => row.provider = provider && row.externalEventId = externalEventId)
    change (fun row _ => keeps row))

/-- The serializable transaction of `processVerifiedEvent`. -/
def processEvent (host : Host) (moment : Moment) (event : VerifiedEvent) :
    Tx Db (List RenewalLeaseRequest) := do
  let outcome <-
    if event.type = .paymentPaid then processPaidEvent host moment event
    else processOperationalEvent host moment event
  (updateWebhook event.provider event.eventId (markProcessed moment event outcome)
    (fun _ => rfl)).within Db.webhookPart
  return outcome.renewalRequests

def markIgnored (moment : Moment) (webhook : WebhookEvent) : WebhookEvent :=
  { webhook with
    status := .ignored
    lastErrorCode := some .eventUnsupported
    processedAt := some moment.now
    resolutionStatus := .acknowledged }

/-- `processVerifiedEvent` up to the renewal leases, which are issued after
the transaction and whose failures are swallowed. -/
def processVerifiedEvent (host : Host) (moment : Moment) (event : VerifiedEvent) :
    Tx Db (List RenewalLeaseRequest) := do
  if event.livemode ≠ host.environment.livemode then
    throw (.payment .modeMismatch)
  if event.type = .unknown then
    (updateWebhook event.provider event.eventId (markIgnored moment)
      (fun _ => rfl)).within Db.webhookPart
    return []
  processEvent host moment event

/-- The part of a webhook row that names the event and holds its content. -/
def webhookTerms (webhook : WebhookEvent) : Id × String × String × Option StoredEvent :=
  (webhook.id, webhook.provider, webhook.externalEventId, webhook.normalizedData)

/-! ## What a committed branch did -/

section Effects

variable {host : Host} {moment : Moment} {event : VerifiedEvent} {before after : Db}

/-- What the resolution of an operational event has established. -/
structure Resolves (db : Db) (event : VerifiedEvent) (resolved : OperationalOrder) : Prop where
  found : db.commerce.orders.lookup (.id resolved.order.id) = some resolved.order
  hostAttempt : resolved.hostAttempt = hostAttemptOf db.hostPayments event
  packageAttempt : resolved.packageAttempt = packageAttemptOf db.payments event
  knownPayment : resolved.knownPayment = knownPaymentOf db.hostPayments event
  paymentOfOrder : forall payment, resolved.knownPayment = some payment ->
    payment.orderId = resolved.order.id
  amount : event.amountMinor = some resolved.order.totalMinor

private theorem orElse_eq_some {Value : Type} {first second : Option Value} {value : Value}
    (found : (first <|> second) = some value) : first = some value ∨ second = some value := by
  cases first with
  | none => exact Or.inr found
  | some stored => exact Or.inl found

theorem operationalMismatch_eq_none {order : Order} {hostAttempt : Option PaymentAttempt}
    {packageOrder byReference : Option Order} {knownPayment : Option Payment}
    (agrees : operationalMismatch event order hostAttempt packageOrder byReference knownPayment = none) :
    (forall payment, knownPayment = some payment -> payment.orderId = order.id) ∧
      event.amountMinor = some order.totalMinor := by
  unfold operationalMismatch at agrees
  split at agrees
  · cases agrees
  split at agrees
  · cases agrees
  split at agrees
  · cases agrees
  rename_i samePayment
  split at agrees
  · cases agrees
  split at agrees
  · cases agrees
  rename_i sameAmount
  constructor
  · intro payment known
    subst known
    simpa using samePayment
  · exact not_not.mp sameAmount

theorem resolveOperationalOrder_resolves {db : Db}
    (done : resolveOperationalOrder db event = .ok resolved) : Resolves db event resolved := by
  unfold resolveOperationalOrder at done
  dsimp only at done
  split at done
  · cases done
  split at done
  case h_1 => cases done
  case h_2 order candidate =>
    split at done
    case h_1 => cases done
    case h_2 agrees =>
      cases done
      have checked := operationalMismatch_eq_none agrees
      have byId : forall {orderId : Id}, db.commerce.orders.lookup (.id orderId) = some order ->
          db.commerce.orders.lookup (.id order.id) = some order := by
        intro orderId found
        exact db.commerce.orders.lookup_of_mem (db.commerce.orders.lookup_mem found)
          (by simp [Keyed.keys])
      have found : db.commerce.orders.lookup (.id order.id) = some order := by
        rcases orElse_eq_some candidate with ofAttempt | candidate
        · rcases Option.bind_eq_some_iff.mp ofAttempt with ⟨attempt, _, found⟩
          exact byId found
        rcases orElse_eq_some candidate with ofPackage | candidate
        · rcases Option.bind_eq_some_iff.mp ofPackage with ⟨attempt, _, found⟩
          exact byId found
        rcases orElse_eq_some candidate with ofReference | ofPayment
        · rcases Option.bind_eq_some_iff.mp ofReference with ⟨reference, _, found⟩
          exact lookup_orderByReference found
        · rcases Option.bind_eq_some_iff.mp ofPayment with ⟨payment, _, found⟩
          exact byId found
      exact
        { found
          hostAttempt := rfl
          packageAttempt := rfl
          knownPayment := rfl
          paymentOfOrder := checked.1
          amount := checked.2 }

/-- The licensing fulfilment of a paid event runs for a fact that is new and
an order that is fulfilled to an account. -/
def fulfillsLicensing (settlement : PaidSettlement) : Prop :=
  settlement.paymentSettlementDisposition = .created ∧
    settlement.order.fulfillmentMode = .accountEntitlement

/-- Everything a committed paid event has done. -/
structure PaidCommit (host : Host) (moment : Moment) (event : VerifiedEvent) (before : Db)
    (outcome : BranchOutcome) (after : Db) (settlement : PaidSettlement) (settled : Db) (order : Order)
    (hostPayments : HostPaymentsStore) : Prop where
  payable : Exists fun externalPaymentId => Exists fun amountMinor => Exists fun currency =>
    Exists fun paymentId =>
      event.externalPaymentId = some externalPaymentId ∧ event.amountMinor = some amountMinor ∧
      event.currency = some currency ∧ outcome.paymentId = some paymentId ∧
      (upsertPayment moment order.id event.provider externalPaymentId amountMinor currency .paid
        (some event.occurredAt)).Commits settled.hostPayments paymentId hostPayments
  reacted : (reactToPaidSettlement host moment event.providerEventRecordId
    host.environment.livemode).Commits before settlement settled
  found : settled.commerce.orders.lookup (.id settlement.order.orderId) = some order
  licensed : fulfillsLicensing settlement ->
    (fulfillOrderLicensing host.licensing host.environment settled.commerce moment order.id
      ⟨outcome.paymentId, some event.eventId⟩ ⟨none, none⟩).Commits settled.licensing
        outcome.renewalRequests after.licensing
  unlicensed : ¬ fulfillsLicensing settlement -> after.licensing = settled.licensing
  orderId : outcome.orderId = order.id
  commerce : after.commerce = settled.commerce
  payments : after.payments = settled.payments
  webhookEvents : after.webhookEvents = settled.webhookEvents
  entitlements : after.entitlements = settled.entitlements
  hostPayments : after.hostPayments =
    setAttemptStatus (hostAttemptOf settled.hostPayments event) .completed hostPayments

theorem processPaidEvent_commits {outcome : BranchOutcome}
    (commits : (processPaidEvent host moment event).Commits before outcome after) :
    Exists fun settlement => Exists fun settled => Exists fun order => Exists fun hostPayments =>
      PaidCommit host moment event before outcome after settlement settled order hostPayments := by
  unfold processPaidEvent at commits
  split at commits
  case h_2 => exact absurd commits Transaction.not_commits_throw
  case h_1 externalPaymentId amountMinor currency payment amount money =>
    simp only [Transaction.commits_bind, Transaction.commits_get, Transaction.commits_orFail,
      Transaction.commits_within, Transaction.commits_modify] at commits
    rcases commits with ⟨settlement, settled, reacted, _, _, ⟨rfl, rfl⟩, order, _, ⟨found, rfl⟩,
      paymentId, _, ⟨hostPayments, upserted, rfl⟩, _, _, rfl, commits⟩
    refine ⟨settlement, settled, order, hostPayments, ?_⟩
    rcases Transaction.commits_ite.mp commits with ⟨fulfills, commits⟩ | ⟨skips, commits⟩
    · simp only [Transaction.commits_bind, Transaction.commits_within,
        Transaction.commits_pure] at commits
      rcases commits with ⟨requests, _, ⟨licensing, licensed, rfl⟩, rfl, rfl⟩
      exact
        { payable := ⟨externalPaymentId, amountMinor, currency, paymentId, payment, amount, money,
            rfl, upserted⟩
          reacted
          found
          licensed := fun _ => licensed
          unlicensed := fun skips => absurd fulfills skips
          orderId := rfl
          commerce := rfl
          payments := rfl
          webhookEvents := rfl
          entitlements := rfl
          hostPayments := rfl }
    · simp only [Transaction.commits_bind, Transaction.commits_pure] at commits
      rcases commits with ⟨requests, _, ⟨rfl, rfl⟩, rfl, rfl⟩
      exact
        { payable := ⟨externalPaymentId, amountMinor, currency, paymentId, payment, amount, money,
            rfl, upserted⟩
          reacted
          found
          licensed := fun fulfills => absurd fulfills skips
          unlicensed := fun _ => rfl
          orderId := rfl
          commerce := rfl
          payments := rfl
          webhookEvents := rfl
          entitlements := rfl
          hostPayments := rfl }

/-- Everything a confirmed refund has done. -/
structure RefundCommit (host : Host) (moment : Moment) (event : VerifiedEvent)
    (resolved : OperationalOrder) (before after : Db) : Prop where
  invoiced : (before.commerce.invoices.lookup (.orderId resolved.order.id)).isSome = true
  commerce : after.commerce = refundCommerce resolved.order.id before.commerce
  payments : after.payments = before.payments
  webhookEvents : after.webhookEvents = before.webhookEvents
  licensing : after.licensing = revokeLicensing resolved.order moment.now before.licensing
  hostPayments : succeedRefundOperations event (resolved.knownPayment.map Payment.id)
    (refundPayments resolved.order event before.hostPayments) = some after.hostPayments
  revokedRights : resolved.order.fulfillmentMode = .accountEntitlement -> Exists fun count =>
    (revokeOrderEntitlements host.entitlements host.environment
      (itemsOf before.commerce resolved.order.id) resolved.order.id
      (revocationEvidence resolved.order event)).Commits
        (revokeCodes resolved.order.id event.occurredAt before.entitlements) count after.entitlements
  keptRights : resolved.order.fulfillmentMode ≠ .accountEntitlement ->
    after.entitlements = revokeCodes resolved.order.id event.occurredAt before.entitlements

theorem confirmRefund_commits {answer : Unit}
    (commits : (confirmRefund host moment event resolved).Commits before answer after) :
    RefundCommit host moment event resolved before after := by
  unfold confirmRefund at commits
  rw [Transaction.commits_get_bind] at commits
  rcases Transaction.commits_ite.mp commits with ⟨_, commits⟩ | ⟨invoiced, commits⟩
  · simp only [Transaction.commits_bind, Transaction.not_commits_throw, false_and, exists_false] at commits
  simp only [Transaction.commits_bind, Transaction.commits_set] at commits
  rcases commits with ⟨_, _, rfl, commits⟩
  have isSome : (before.commerce.invoices.lookup (.orderId resolved.order.id)).isSome = true :=
    Option.isSome_iff_ne_none.mpr (fun missing => invoiced (Option.isNone_iff_eq_none.mpr missing))
  rcases Transaction.commits_ite.mp commits with ⟨account, commits⟩ | ⟨gift, commits⟩
  · simp only [Transaction.commits_bind, Transaction.commits_get, Transaction.commits_within,
      Transaction.commits_modify, Transaction.commits_orFail, Transaction.commits_set] at commits
    rcases commits with ⟨count, _, ⟨entitlements, revoked, rfl⟩, _, _, rfl, _, _, ⟨rfl, rfl⟩,
      hostPayments, _, ⟨succeeded, rfl⟩, rfl⟩
    exact
      { invoiced := isSome
        commerce := rfl
        payments := rfl
        webhookEvents := rfl
        licensing := rfl
        hostPayments := succeeded
        revokedRights := fun _ => ⟨count, revoked⟩
        keptRights := fun gift => absurd account gift }
  · simp only [Transaction.commits_bind, Transaction.commits_get, Transaction.commits_modify,
      Transaction.commits_orFail, Transaction.commits_set] at commits
    rcases commits with ⟨_, _, rfl, _, _, ⟨rfl, rfl⟩, hostPayments, _, ⟨succeeded, rfl⟩, rfl⟩
    exact
      { invoiced := isSome
        commerce := rfl
        payments := rfl
        webhookEvents := rfl
        licensing := rfl
        hostPayments := succeeded
        revokedRights := fun account => absurd account gift
        keptRights := fun _ => rfl }

/-- The branches of an operational event, each with its guard. -/
inductive OperationalCommit (host : Host) (moment : Moment) (event : VerifiedEvent)
    (resolved : OperationalOrder) (before after : Db) : Prop
  | failed (type : event.type = .paymentFailed) (awaits : awaitsPayment resolved.order = true)
    (hostPayments : HostPaymentsStore)
    (recorded : hostPayments = before.hostPayments ∨
      Exists fun externalPaymentId => Exists fun amountMinor => Exists fun currency =>
        Exists fun paymentId => event.externalPaymentId = some externalPaymentId ∧
          event.amountMinor = some amountMinor ∧ event.currency = some currency ∧
          (upsertPayment moment resolved.order.id event.provider externalPaymentId amountMinor currency
            .failed none).Commits before.hostPayments paymentId hostPayments)
    (wrote : after = { before with
      hostPayments := setAttemptStatus resolved.hostAttempt .failed hostPayments
      payments := failPackageAttempt moment resolved.packageAttempt before.payments })
  | failedLate (type : event.type = .paymentFailed) (settled : awaitsPayment resolved.order = false)
    (wrote : after = before)
  | progress (type : event.type = .paymentRefundUpdated)
    (unsuccessful : event.refundStatus ≠ some .succeeded)
    (wrote : after = { before with
      hostPayments := processRefundProgress event before.hostPayments })
  | refunded (type : event.type ≠ .paymentFailed)
    (successful : event.type = .paymentRefundUpdated -> event.refundStatus = some .succeeded)
    (paid : resolved.order.status = .paid)
    (wrote : RefundCommit host moment event resolved before after)
  | repeated (type : event.type ≠ .paymentFailed)
    (successful : event.type = .paymentRefundUpdated -> event.refundStatus = some .succeeded)
    (refunded : resolved.order.status = .refunded) (wrote : after = before)

private theorem processFailedEvent_commits {paymentId : Option Id} (type : event.type = .paymentFailed)
    (commits : (processFailedEvent moment event resolved).Commits before paymentId after) :
    OperationalCommit host moment event resolved before after := by
  unfold processFailedEvent at commits
  rcases Transaction.commits_ite.mp commits with ⟨awaits, commits⟩ | ⟨settled, commits⟩
  · dsimp only at commits
    split at commits
    case h_1 externalPaymentId amountMinor currency payment amount money =>
      simp only [Transaction.commits_bind, Transaction.commits_map, Transaction.commits_within,
        Transaction.commits_modify, Transaction.commits_pure] at commits
      rcases commits with ⟨_, _, ⟨stored, ⟨hostPayments, upserted, rfl⟩, rfl⟩, _, _, rfl, rfl, rfl⟩
      exact .failed type awaits hostPayments
        (Or.inr ⟨externalPaymentId, amountMinor, currency, stored, payment, amount, money, upserted⟩) rfl
    case h_2 =>
      simp only [Transaction.commits_bind, Transaction.commits_modify,
        Transaction.commits_pure] at commits
      rcases commits with ⟨_, _, ⟨rfl, rfl⟩, _, _, rfl, rfl, rfl⟩
      exact .failed type awaits before.hostPayments (Or.inl rfl) rfl
  · rw [Transaction.commits_pure] at commits
    exact .failedLate type (by simpa using settled) commits.2.symm

theorem processOperationalEvent_commits {outcome : BranchOutcome}
    (commits : (processOperationalEvent host moment event).Commits before outcome after) :
    Exists fun resolved => Resolves before event resolved ∧
      OperationalCommit host moment event resolved before after := by
  unfold processOperationalEvent at commits
  simp only [Transaction.commits_bind, Transaction.commits_get, Transaction.commits_liftM] at commits
  rcases commits with ⟨_, _, ⟨rfl, rfl⟩, resolved, _, ⟨done, rfl⟩, commits⟩
  refine ⟨resolved, resolveOperationalOrder_resolves done, ?_⟩
  rcases Transaction.commits_ite.mp commits with ⟨type, commits⟩ | ⟨type, commits⟩
  · simp only [Transaction.commits_bind, Transaction.commits_pure] at commits
    rcases commits with ⟨paymentId, _, failed, _, rfl⟩
    exact processFailedEvent_commits type failed
  rcases Transaction.commits_ite.mp commits with ⟨progress, commits⟩ | ⟨final, commits⟩
  · simp only [Transaction.commits_bind, Transaction.commits_modify, Transaction.commits_pure] at commits
    rcases commits with ⟨_, _, rfl, _, rfl⟩
    exact .progress progress.1 progress.2 rfl
  have successful : event.type = .paymentRefundUpdated -> event.refundStatus = some .succeeded := by
    intro updated
    by_contra unsuccessful
    exact final ⟨updated, unsuccessful⟩
  rcases Transaction.commits_ite.mp commits with ⟨paid, commits⟩ | ⟨unpaid, commits⟩
  · simp only [Transaction.commits_bind, Transaction.commits_pure] at commits
    rcases commits with ⟨_, _, confirmed, _, rfl⟩
    exact .refunded type successful paid (confirmRefund_commits confirmed)
  rcases Transaction.commits_ite.mp commits with ⟨_, commits⟩ | ⟨refunded, commits⟩
  · exact absurd commits Transaction.not_commits_throw
  · rw [Transaction.commits_pure] at commits
    exact .repeated type successful (not_not.mp refunded) commits.2.symm

theorem updateWebhook_commits {provider externalEventId : String}
    {keeps : forall webhook, Keyed.keys (change webhook) = Keyed.keys webhook}
    {table updated : Table WebhookEvent} {answer : Unit}
    (commits : (updateWebhook provider externalEventId change keeps).Commits table answer updated) :
    (table.lookup (.event provider externalEventId)).isSome = true ∧
      updated = table.update
        (fun row => row.provider = provider && row.externalEventId = externalEventId) change
        (fun row _ => keeps row) := by
  unfold updateWebhook at commits
  rw [Transaction.commits_get_bind] at commits
  rcases Transaction.commits_ite.mp commits with ⟨_, commits⟩ | ⟨known, commits⟩
  · simp only [Transaction.commits_bind, Transaction.not_commits_throw, false_and, exists_false] at commits
  · have isSome := Option.isSome_iff_ne_none.mpr
      (fun missing => known (Option.isNone_iff_eq_none.mpr missing))
    exact ⟨isSome, (Transaction.commits_set.mp commits).symm⟩

/-- An update of a row that exists commits. -/
theorem updateWebhook_of_known {provider externalEventId : String}
    {keeps : forall webhook, Keyed.keys (change webhook) = Keyed.keys webhook}
    {table : Table WebhookEvent} (known : (table.lookup (.event provider externalEventId)).isSome = true) :
    (updateWebhook provider externalEventId change keeps).Commits table ()
      (table.update (fun row => row.provider = provider && row.externalEventId = externalEventId) change
        (fun row _ => keeps row)) := by
  unfold updateWebhook
  rw [Transaction.commits_bind]
  refine ⟨table, table, Transaction.commits_get.mpr ⟨rfl, rfl⟩, ?_⟩
  refine Transaction.commits_ite.mpr (Or.inr ⟨?_, Transaction.commits_set.mpr rfl⟩)
  intro missing
  rw [Option.isNone_iff_eq_none.mp missing] at known
  cases known

/-- The whole of a committed event: an unknown event marks its webhook row,
and any other runs its branch first. -/
inductive EventCommit (host : Host) (moment : Moment) (event : VerifiedEvent) (before after : Db) :
    Prop
  | ignored (type : event.type = .unknown) (webhookEvents : Table WebhookEvent)
    (wrote : after = { before with webhookEvents })
  | paid (type : event.type = .paymentPaid) (outcome : BranchOutcome) (processed : Db)
    (branch : (processPaidEvent host moment event).Commits before outcome processed)
    (webhookEvents : Table WebhookEvent) (wrote : after = { processed with webhookEvents })
  | operational (type : event.type ≠ .paymentPaid) (resolved : OperationalOrder) (processed : Db)
    (resolves : Resolves before event resolved)
    (branch : OperationalCommit host moment event resolved before processed)
    (webhookEvents : Table WebhookEvent) (wrote : after = { processed with webhookEvents })

theorem processVerifiedEvent_commits
    (commits : (processVerifiedEvent host moment event).Commits before requests after) :
    EventCommit host moment event before after := by
  unfold processVerifiedEvent at commits
  rcases Transaction.commits_ite.mp commits with ⟨_, commits⟩ | ⟨_, commits⟩
  · simp only [Transaction.commits_bind, Transaction.not_commits_throw, false_and, exists_false] at commits
  rcases Transaction.commits_ite.mp commits with ⟨unknown, commits⟩ | ⟨_, commits⟩
  · simp only [Transaction.commits_bind, Transaction.commits_within, Transaction.commits_pure] at commits
    rcases commits with ⟨_, _, ⟨webhookEvents, _, rfl⟩, _, rfl⟩
    exact .ignored unknown webhookEvents rfl
  unfold processEvent at commits
  rcases Transaction.commits_ite.mp commits with ⟨paid, commits⟩ | ⟨unpaid, commits⟩
  · simp only [Transaction.commits_bind, Transaction.commits_within, Transaction.commits_pure] at commits
    rcases commits with ⟨outcome, processed, branch, _, _, ⟨webhookEvents, _, rfl⟩, _, rfl⟩
    exact .paid paid outcome processed branch webhookEvents rfl
  · simp only [Transaction.commits_bind, Transaction.commits_within, Transaction.commits_pure] at commits
    rcases commits with ⟨outcome, processed, branch, _, _, ⟨webhookEvents, _, rfl⟩, _, rfl⟩
    rcases processOperationalEvent_commits branch with ⟨resolved, resolves, operational⟩
    exact .operational unpaid resolved processed resolves operational webhookEvents rfl

theorem event_providerEvents (commits : EventCommit host moment event before after) :
    SameEvents before.payments after.payments ∨
      (event.type = .paymentFailed ∧
        after.payments.providerEvents = before.payments.providerEvents) := by
  cases commits with
  | ignored _ webhookEvents wrote =>
    rw [wrote]
    exact Or.inl ⟨rfl, rfl⟩
  | paid _ outcome processed branch webhookEvents wrote =>
    rcases processPaidEvent_commits branch with ⟨settlement, settled, order, hostPayments, paid⟩
    have events := reactToPaidSettlement_events paid.reacted
    rw [wrote]
    exact Or.inl (paid.payments ▸ events)
  | operational _ resolved processed resolves branch webhookEvents wrote =>
    rw [wrote]
    cases branch with
    | failed type _ hostPayments _ wrote => exact Or.inr ⟨type, by rw [wrote]; rfl⟩
    | failedLate _ _ wrote => exact Or.inl (by rw [wrote]; exact ⟨rfl, rfl⟩)
    | progress _ _ wrote => exact Or.inl (by rw [wrote]; exact ⟨rfl, rfl⟩)
    | refunded _ _ _ wrote => exact Or.inl ⟨by rw [wrote.payments], by rw [wrote.payments]⟩
    | repeated _ _ _ wrote => exact Or.inl (by rw [wrote]; exact ⟨rfl, rfl⟩)

/-- What a committed event writes on its webhook row. -/
inductive Marks (moment : Moment) (event : VerifiedEvent) : (WebhookEvent -> WebhookEvent) -> Prop
  | ignored (unknown : event.type = .unknown) : Marks moment event (markIgnored moment)
  | processed (supported : event.type ≠ .unknown) (outcome : BranchOutcome) :
    Marks moment event (markProcessed moment event outcome)

theorem processVerifiedEvent_marks
    (commits : (processVerifiedEvent host moment event).Commits before requests after) :
    (before.webhookEvents.lookup (.event event.provider event.eventId)).isSome = true ∧
    Exists fun change : WebhookEvent -> WebhookEvent => Marks moment event change ∧
      after.webhookEvents.rows = before.webhookEvents.rows.map (fun row =>
        if row.provider = event.provider && row.externalEventId = event.eventId then change row
        else row) := by
  unfold processVerifiedEvent at commits
  rcases Transaction.commits_ite.mp commits with ⟨_, commits⟩ | ⟨_, commits⟩
  · simp only [Transaction.commits_bind, Transaction.not_commits_throw, false_and, exists_false] at commits
  rcases Transaction.commits_ite.mp commits with ⟨unknown, commits⟩ | ⟨supported, commits⟩
  · simp only [Transaction.commits_bind, Transaction.commits_within, Transaction.commits_pure] at commits
    rcases commits with ⟨_, _, ⟨webhookEvents, marked, rfl⟩, _, rfl⟩
    rcases updateWebhook_commits marked with ⟨known, wrote⟩
    exact ⟨known, markIgnored moment, .ignored unknown, congrArg Table.rows wrote⟩
  unfold processEvent at commits
  rcases Transaction.commits_ite.mp commits with ⟨paid, commits⟩ | ⟨unpaid, commits⟩
  · simp only [Transaction.commits_bind, Transaction.commits_within, Transaction.commits_pure] at commits
    rcases commits with ⟨outcome, processed, branch, _, _, ⟨webhookEvents, marked, rfl⟩, _, rfl⟩
    rcases processPaidEvent_commits branch with ⟨settlement, settled, order, hostPayments, paid⟩
    have same : processed.webhookEvents = before.webhookEvents :=
      paid.webhookEvents.trans (reactToPaidSettlement_frame paid.reacted).2.1
    rcases updateWebhook_commits marked with ⟨known, wrote⟩
    have wroteRows := congrArg Table.rows wrote
    change (processed.webhookEvents.lookup _).isSome = true at known
    change _ = processed.webhookEvents.rows.map _ at wroteRows
    rw [same] at known wroteRows
    exact ⟨known, markProcessed moment event outcome, .processed supported outcome, wroteRows⟩
  · simp only [Transaction.commits_bind, Transaction.commits_within, Transaction.commits_pure] at commits
    rcases commits with ⟨outcome, processed, branch, _, _, ⟨webhookEvents, marked, rfl⟩, _, rfl⟩
    rcases processOperationalEvent_commits branch with ⟨resolved, resolves, operational⟩
    have same : processed.webhookEvents = before.webhookEvents := by
      cases operational with
      | failed _ _ _ _ wrote => rw [wrote]
      | failedLate _ _ wrote => rw [wrote]
      | progress _ _ wrote => rw [wrote]
      | refunded _ _ _ wrote => exact wrote.webhookEvents
      | repeated _ _ _ wrote => rw [wrote]
    rcases updateWebhook_commits marked with ⟨known, wrote⟩
    have wroteRows := congrArg Table.rows wrote
    change (processed.webhookEvents.lookup _).isSome = true at known
    change _ = processed.webhookEvents.rows.map _ at wroteRows
    rw [same] at known wroteRows
    exact ⟨known, markProcessed moment event outcome, .processed supported outcome, wroteRows⟩

/-- What a committed event has done to the webhook rows: the row of the event
exists and has become processed or ignored. -/
theorem processVerifiedEvent_webhooks
    (commits : (processVerifiedEvent host moment event).Commits before requests after) :
    (before.webhookEvents.lookup (.event event.provider event.eventId)).isSome = true ∧
    Exists fun change : WebhookEvent -> WebhookEvent =>
      (forall row, (change row).status = if event.type = .unknown then .ignored else .processed) ∧
      (forall row, webhookTerms (change row) = webhookTerms row) ∧
      after.webhookEvents.rows = before.webhookEvents.rows.map (fun row =>
        if row.provider = event.provider && row.externalEventId = event.eventId then change row
        else row) := by
  rcases processVerifiedEvent_marks commits with ⟨known, change, marks, wrote⟩
  refine ⟨known, change, ?_, ?_, wrote⟩
  · intro row
    cases marks with
    | ignored unknown => exact (if_pos unknown).symm
    | processed supported outcome => exact (if_neg supported).symm
  · intro row
    cases marks with
    | ignored unknown => rfl
    | processed supported outcome => rfl

end Effects

end Payments
end DigitalSolutions

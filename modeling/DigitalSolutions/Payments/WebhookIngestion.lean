import DigitalSolutions.Payments.WebhookProcessing

namespace DigitalSolutions
namespace Payments

open Foundation Persistence

/-!
# Ingesting a webhook

A verified delivery is claimed in one serializable transaction that stores
the operational webhook row and the owner event of the payments package.  A
second delivery of the same event finds both rows.  What happens then depends
on the status of the webhook row, which is read and written outside the
transaction.
-/

structure ProviderEventClaim where
  id : Id
  provider : String
  eventId : String
  payloadHash : String
  eventFingerprint : String
  rawType : Option String
  type : ProviderEventType
  externalPaymentId : Option String
  externalCheckoutId : Option String
  reference : Option String
  externalRefundId : Option String
  refundStatus : Option RefundStatus
  amountMinor : Option Int
  currency : Option String
  livemode : Bool
  occurredAt : Time
  deriving DecidableEq

def storedEvent (input : ProviderEventClaim) : StoredEvent where
  eventId := input.eventId
  rawType := present input.rawType
  type := input.type
  externalPaymentId := present input.externalPaymentId
  externalCheckoutId := present input.externalCheckoutId
  reference := present input.reference
  externalRefundId := present input.externalRefundId
  refundStatus := input.refundStatus
  amountMinor := input.amountMinor
  currency := present input.currency
  livemode := input.livemode
  occurredAt := input.occurredAt
  eventFingerprint := some input.eventFingerprint

def receivedWebhook (moment : Moment) (input : ProviderEventClaim) : WebhookEvent where
  id := input.id
  provider := input.provider
  externalEventId := input.eventId
  rawEventType := input.rawType
  eventType := input.type
  livemode := input.livemode
  payloadHash := input.payloadHash
  normalizedData := some (storedEvent input)
  status := .received
  error := none
  lastErrorCode := none
  mismatchCategory := none
  processingAttempts := 1
  conflictCount := 0
  receivedAt := moment.now
  lastAttemptAt := some moment.now
  processedAt := none
  occurredAt := some input.occurredAt
  orderId := none
  paymentAttemptId := none
  paymentId := none
  providerCheckoutId := input.externalCheckoutId
  providerPaymentId := input.externalPaymentId
  providerRefundId := input.externalRefundId
  resolutionStatus := .open

/-- The fingerprint of a stored webhook row, as far as it has one. -/
def operationalFingerprint (operational : WebhookEvent) (input : ProviderEventClaim) : String :=
  match operational.normalizedData.bind (fun event => present event.eventFingerprint) with
  | some fingerprint => fingerprint
  | none =>
    if operational.payloadHash = input.payloadHash then input.eventFingerprint
    else "LEGACY_EVENT_FINGERPRINT_MISMATCH"

def ownerEvent (moment : Moment) (operational : WebhookEvent) (input : ProviderEventClaim) :
    PaymentProviderEvent where
  id := operational.id
  provider := input.provider
  eventId := input.eventId
  payloadHash := operational.payloadHash
  eventFingerprint := operationalFingerprint operational input
  rawType := input.rawType
  type := input.type
  externalPaymentId := input.externalPaymentId
  externalCheckoutId := input.externalCheckoutId
  reference := input.reference
  externalRefundId := input.externalRefundId
  refundStatus := input.refundStatus
  amountMinor := input.amountMinor
  currency := input.currency
  livemode := operational.livemode
  occurredAt := operational.occurredAt.getD input.occurredAt
  receivedAt := moment.now

/-- INSERT … ON CONFLICT ("provider", "eventId") DO NOTHING: a clash of the
identifier alone is an error of the statement. -/
def insertOwnerEvent (event : PaymentProviderEvent) (table : Table PaymentProviderEvent) :
    Option (Table PaymentProviderEvent) :=
  match table.lookup (.event event.provider event.eventId) with
  | some _ => some table
  | none => table.insert event

structure ProviderEventClaimResult where
  created : Bool
  record : PaymentProviderEvent
  deriving DecidableEq

/-- The transaction of `repository.claim`. -/
def claimEvent (moment : Moment) (input : ProviderEventClaim) : Tx Db ProviderEventClaimResult := do
  let db <- get
  let (webhookEvents, insertedCount) := db.webhookEvents.insertOrIgnore (receivedWebhook moment input)
  let operational <- Transaction.orFail .recordNotFound
    (webhookEvents.lookup (.event input.provider input.eventId))
  let providerEvents <- Transaction.orFail .uniqueViolation
    (insertOwnerEvent (ownerEvent moment operational input) db.payments.providerEvents)
  let record <- Transaction.orFail (.message "PAYMENTS_PROVIDER_EVENT_DISAPPEARED")
    (providerEvents.lookup (.event input.provider input.eventId))
  set { db with webhookEvents, payments := { db.payments with providerEvents } }
  return ⟨insertedCount = 1, record⟩

/-- What a committed claim has stored and what it reports. -/
structure ClaimCommit (moment : Moment) (input : ProviderEventClaim) (before : Db)
    (result : ProviderEventClaimResult) (after : Db) (operational : WebhookEvent) : Prop where
  webhookEvents :
    after.webhookEvents = (before.webhookEvents.insertOrIgnore (receivedWebhook moment input)).1
  created : result.created =
    decide ((before.webhookEvents.insertOrIgnore (receivedWebhook moment input)).2 = 1)
  found : after.webhookEvents.lookup (.event input.provider input.eventId) = some operational
  providerEvents : insertOwnerEvent (ownerEvent moment operational input)
    before.payments.providerEvents = some after.payments.providerEvents
  record : after.payments.providerEvents.lookup (.event input.provider input.eventId) =
    some result.record
  rest : after = { before with
    webhookEvents := after.webhookEvents
    payments := { before.payments with providerEvents := after.payments.providerEvents } }

theorem claimEvent_commits {moment : Moment} {input : ProviderEventClaim} {before after : Db}
    {result : ProviderEventClaimResult}
    (commits : (claimEvent moment input).Commits before result after) :
    Exists fun operational => ClaimCommit moment input before result after operational := by
  unfold claimEvent at commits
  rw [Transaction.commits_get_bind] at commits
  simp only [Transaction.commits_bind, Transaction.commits_orFail, Transaction.commits_set,
    Transaction.commits_pure] at commits
  rcases commits with ⟨operational, _, ⟨found, rfl⟩, providerEvents, _, ⟨inserted, rfl⟩, record, _,
    ⟨recorded, rfl⟩, _, _, rfl, rfl, rfl⟩
  exact ⟨operational,
    { webhookEvents := rfl
      created := rfl
      found
      providerEvents := inserted
      record := recorded
      rest := rfl }⟩

/-! ## The ingestion package -/

inductive IngestResult
  | rejected
  | failed
  | accepted (value : VerifiedEvent) (disposition : FactDisposition)
  deriving DecidableEq

/-- `@bke/payments/logic/provider-event-ingestion`, after verification. -/
structure IngestionPackage where
  ingest : ProviderEventClaim ->
    Program ProviderEventClaim (fun _ => ProviderEventClaimResult) IngestResult

/-- What the host relies on.  A delivery fails before anything is stored, or
it was claimed once.  It is then refused only when the stored event has
another fingerprint, and an accepted one is reported as created exactly when
the repository says so. -/
def IngestionPackage.Lawful (package : IngestionPackage) : Prop :=
  forall {Failure Store : Type}
    (handle : ProviderEventClaim -> Transaction Failure Store ProviderEventClaimResult)
    (input : ProviderEventClaim) (before after : Store) (result : IngestResult),
    ((package.ingest input).connect handle).Commits before result after ->
    (result = .failed ∧ after = before) ∨
    Exists fun claimed => (handle input).Commits before claimed after ∧
      ((result = .rejected ∧ claimed.record.eventFingerprint ≠ input.eventFingerprint) ∨
        result = .accepted (snapshot claimed.record) (if claimed.created then .created else .existing))

/-! ## The statements around the claim -/

/-- A delivery that contradicts the stored event is counted and refused. -/
def noteConflict (provider eventId : String) (table : Table WebhookEvent) : Table WebhookEvent :=
  table.update (fun row => row.provider = provider && row.externalEventId = eventId)
    (fun row => { row with
      conflictCount := row.conflictCount + 1
      lastErrorCode := some .eventReplayConflict
      resolutionStatus := .open })

/-- A failed event is taken up again by a redelivery. -/
def reopenDelivered (moment : Moment) (webhookId : Id) (table : Table WebhookEvent) :
    Table WebhookEvent :=
  table.update (fun row => row.id = webhookId)
    (fun row => { row with
      status := .received
      error := none
      lastErrorCode := none
      processedAt := none
      processingAttempts := row.processingAttempts + 1
      lastAttemptAt := some moment.now })

/-- A failed event is taken up again by `retryStoredWebhook`. -/
def reopenStored (moment : Moment) (webhookId : Id) (table : Table WebhookEvent) :
    Table WebhookEvent :=
  table.update (fun row => row.id = webhookId)
    (fun row => { row with
      status := .received
      processingAttempts := row.processingAttempts + 1
      lastAttemptAt := some moment.now
      error := none
      lastErrorCode := none })

/-- `recordFailure`, on the provider the host is configured with. -/
def recordFailure (moment : Moment) (provider eventId : String) (code : PaymentErrorCode)
    (retryable : Bool) : Tx (Table WebhookEvent) Unit :=
  updateWebhook provider eventId (fun row => { row with
    status := .failed
    error := some code
    lastErrorCode := some code
    mismatchCategory := if code.includes "MISMATCH" then some code else row.mismatchCategory
    resolutionStatus := .open
    lastAttemptAt := some moment.now
    processedAt := if retryable then row.processedAt else none }) (fun _ => rfl)

/-! ## Retrying a stored webhook -/

/-- The admission test of `retryStoredWebhook`. -/
def retryable (webhook : WebhookEvent) : Bool :=
  webhook.status = .failed && webhook.normalizedData.isSome

/-- The owner event of a row that was stored before the payments package
owned its events. -/
def restoredOwnerEvent (webhook : WebhookEvent) (event : StoredEvent) : PaymentProviderEvent where
  id := webhook.id
  provider := webhook.provider
  eventId := webhook.externalEventId
  payloadHash := webhook.payloadHash
  eventFingerprint := event.eventFingerprint.getD webhook.payloadHash
  rawType := webhook.rawEventType <|> event.rawType
  type := event.type
  externalPaymentId := event.externalPaymentId
  externalCheckoutId := event.externalCheckoutId
  reference := event.reference
  externalRefundId := event.externalRefundId
  refundStatus := event.refundStatus
  amountMinor := event.amountMinor
  currency := event.currency
  livemode := webhook.livemode
  occurredAt := webhook.occurredAt.getD event.occurredAt
  receivedAt := webhook.receivedAt

/-- `ownerEventForStoredWebhook`. -/
def ownerEventForStoredWebhook (webhook : WebhookEvent) : Tx PaymentsStore VerifiedEvent := do
  let store <- get
  match store.providerEvents.lookup (.event webhook.provider webhook.externalEventId) with
  | some existing => return snapshot existing
  | none =>
    match webhook.normalizedData with
    | none => throw (.payment .reconciliationRequired)
    | some event =>
      if event.eventId.isEmpty then
        throw (.payment .reconciliationRequired)
      let providerEvents <- Transaction.orFail .uniqueViolation
        (store.providerEvents.insert (restoredOwnerEvent webhook event))
      set { store with providerEvents }
      return snapshot (restoredOwnerEvent webhook event)

/-- The owner event is there already, or it is restored from the stored row. -/
theorem ownerEventForStoredWebhook_commits {webhook : WebhookEvent} {before after : PaymentsStore}
    {result : VerifiedEvent}
    (commits : (ownerEventForStoredWebhook webhook).Commits before result after) :
    (Exists fun existing => before.providerEvents.lookup
        (.event webhook.provider webhook.externalEventId) = some existing ∧
      result = snapshot existing ∧ after = before) ∨
    (before.providerEvents.lookup (.event webhook.provider webhook.externalEventId) = none ∧
      Exists fun event => webhook.normalizedData = some event ∧
        result = snapshot (restoredOwnerEvent webhook event) ∧
        before.providerEvents.insert (restoredOwnerEvent webhook event) = some after.providerEvents ∧
        after = { before with providerEvents := after.providerEvents }) := by
  unfold ownerEventForStoredWebhook at commits
  rw [Transaction.commits_get_bind] at commits
  split at commits
  case h_1 existing found =>
    rcases Transaction.commits_pure.mp commits with ⟨rfl, rfl⟩
    exact Or.inl ⟨existing, found, rfl, rfl⟩
  case h_2 missing =>
    split at commits
    case h_1 => exact absurd commits Transaction.not_commits_throw
    case h_2 event stored =>
      rcases Transaction.commits_ite.mp commits with ⟨_, commits⟩ | ⟨_, commits⟩
      · simp only [Transaction.commits_bind, Transaction.not_commits_throw, false_and,
          exists_false] at commits
      · simp only [Transaction.commits_bind, Transaction.commits_orFail, Transaction.commits_set,
          Transaction.commits_pure] at commits
        rcases commits with ⟨providerEvents, _, ⟨inserted, rfl⟩, _, _, rfl, rfl, rfl⟩
        exact Or.inr ⟨missing, event, stored, rfl, inserted, rfl⟩

/-- The rows the payment operations sweep selects, oldest first. -/
def retryCandidates (table : Table WebhookEvent) : List WebhookEvent :=
  ((table.select (fun row => row.status = .failed && row.resolutionStatus = .open &&
    (row.lastErrorCode = some .processingRetryable ||
      row.lastErrorCode = some .providerUnavailable))).insertionSort
        (fun left right => left.receivedAt ≤ right.receivedAt)).take 20

end Payments
end DigitalSolutions

import DigitalSolutions.Storefront.CommerceWrites
import DigitalSolutions.Storefront.Reference

namespace DigitalSolutions
namespace Storefront

open Foundation Persistence Platform Orders Payments

/-!
# Deliveries, retries and crashes

A webhook handler commits several times: it claims the event, perhaps reopens
the row, processes the event, perhaps records a failure.  This machine gives
every handler a program counter between its commits, lets any number of
handlers run at once, and lets each of them stop for good at any point.
-/

/-- Where a handler stands between two of its statements. -/
inductive Handler
  /-- A delivery that contradicts the stored event. -/
  | conflicting (eventId : String)
  /-- A repeated delivery that has yet to look at the webhook row. -/
  | checking (event : VerifiedEvent)
  | reopening (webhookId : Id) (event : VerifiedEvent)
  /-- A retry that has read its row. -/
  | restoring (webhook : WebhookEvent)
  | reopeningStored (webhookId : Id) (event : VerifiedEvent)
  | processing (event : VerifiedEvent)
  | failing (event : VerifiedEvent) (code : PaymentErrorCode) (retryable : Bool)
  deriving DecidableEq

structure Intake where
  db : Db
  handlers : Nat -> Option Handler
  /-- The events that were acknowledged to the provider as duplicates. -/
  duplicates : List (String × String)

namespace Intake

def opening : Intake := ⟨Db.empty, fun _ => none, []⟩

def stop (handlerId : Nat) (intake : Intake) : Intake :=
  { intake with handlers := Function.update intake.handlers handlerId none }

/-- The handler moves on to another statement. -/
def goTo (handlerId : Nat) (handler : Handler) (intake : Intake) : Intake :=
  { intake with handlers := Function.update intake.handlers handlerId (some handler) }

end Intake

inductive IntakeStep
  /-- A verified delivery arrives and is claimed. -/
  | deliver (handlerId : Nat) (moment : Moment) (input : ProviderEventClaim)
  /-- An operator retries a stored webhook. -/
  | retry (handlerId : Nat) (webhookId : Id)
  /-- The payment operations sweep retries one of its candidates. -/
  | sweep (handlerId : Nat) (webhookId : Id)
  /-- A handler runs its next statement. -/
  | advance (handlerId : Nat) (moment : Moment)
  /-- The database aborts the processing transaction of a handler. -/
  | abort (handlerId : Nat) (code : PaymentErrorCode) (retryable : Bool)
  /-- The process of a handler stops. -/
  | crash (handlerId : Nat)
  /-- An administrator acknowledges a row. -/
  | acknowledge (webhookId : Id)
  /-- Anything else the storefront does. -/
  | transaction (transaction : HostTransaction)

def acknowledgeWebhook (webhookId : Id) (table : Table WebhookEvent) : Table WebhookEvent :=
  table.update (fun row => row.id = webhookId)
    (fun row => { row with resolutionStatus := .acknowledged })

/-- The next statement of a handler. -/
def advance (host : Host) (moment : Moment) (handlerId : Nat) (intake : Intake) : Handler -> Intake
  | .conflicting eventId =>
    { intake.stop handlerId with
      db := { intake.db with
        webhookEvents := noteConflict host.environment.paymentProvider eventId intake.db.webhookEvents } }
  | .checking event =>
    match intake.db.webhookEvents.lookup (.event event.provider event.eventId) with
    | none => intake.stop handlerId
    | some webhook =>
      if webhook.status ≠ .failed then
        { intake.stop handlerId with
          duplicates := (event.provider, event.eventId) :: intake.duplicates }
      else intake.goTo handlerId (.reopening webhook.id event)
  | .reopening webhookId event =>
    { intake.goTo handlerId (.processing event) with
      db := { intake.db with
        webhookEvents := reopenDelivered moment webhookId intake.db.webhookEvents } }
  | .restoring webhook =>
    match (ownerEventForStoredWebhook webhook).run intake.db.payments with
    | .error _ => intake.stop handlerId
    | .ok (event, payments) =>
      { intake.goTo handlerId (.reopeningStored webhook.id event) with
        db := { intake.db with payments } }
  | .reopeningStored webhookId event =>
    { intake.goTo handlerId (.processing event) with
      db := { intake.db with
        webhookEvents := reopenStored moment webhookId intake.db.webhookEvents } }
  | .processing event =>
    match (processVerifiedEvent host moment event).run intake.db with
    | .ok (_, db) => { intake.stop handlerId with db }
    | .error failure =>
      intake.goTo handlerId (.failing event failure.safePaymentError (failure = .retryable))
  | .failing event code retryable =>
    match (recordFailure moment host.environment.paymentProvider event.eventId code retryable).run
        intake.db.webhookEvents with
    | .ok (_, webhookEvents) => { intake.stop handlerId with db := { intake.db with webhookEvents } }
    | .error _ => intake.stop handlerId

/-- The first statement of `retryStoredWebhook`: read the row and test it. -/
def startRetry (handlerId : Nat) (webhookId : Id) (intake : Intake) :
    Except TransactionError Intake :=
  match intake.db.webhookEvents.lookup (.id webhookId) with
  | none => .error (.message "NOT_FOUND")
  | some webhook =>
    if retryable webhook = false then .error (.payment .reconciliationRequired)
    else .ok (intake.goTo handlerId (.restoring webhook))

def intakeStep (host : Host) (ingestion : IngestionPackage) (intake : Intake) :
    IntakeStep -> Except TransactionError Intake
  | .deliver handlerId moment input =>
    if (intake.handlers handlerId).isSome ∨ input.provider ≠ host.environment.paymentProvider then
      .error (.message "REFUSED")
    else
      match ((ingestion.ingest input).connect (claimEvent moment)).run intake.db with
      | .error failure => .error failure
      | .ok (.failed, db) => .ok { intake with db }
      | .ok (.rejected, db) =>
        .ok { intake.goTo handlerId (.conflicting input.eventId) with db }
      | .ok (.accepted event .created, db) =>
        .ok { intake.goTo handlerId (.processing event) with db }
      | .ok (.accepted event .existing, db) =>
        .ok { intake.goTo handlerId (.checking event) with db }
  | .retry handlerId webhookId =>
    if (intake.handlers handlerId).isSome then .error (.message "REFUSED")
    else startRetry handlerId webhookId intake
  | .sweep handlerId webhookId =>
    if (intake.handlers handlerId).isSome ∨
        webhookId ∉ (retryCandidates intake.db.webhookEvents).map WebhookEvent.id then
      .error (.message "REFUSED")
    else startRetry handlerId webhookId intake
  | .advance handlerId moment =>
    match intake.handlers handlerId with
    | none => .error (.message "REFUSED")
    | some handler => .ok (advance host moment handlerId intake handler)
  | .abort handlerId code retryable =>
    match intake.handlers handlerId with
    | some (.processing event) => .ok (intake.goTo handlerId (.failing event code retryable))
    | _ => .error (.message "REFUSED")
  | .crash handlerId => .ok (intake.stop handlerId)
  | .acknowledge webhookId =>
    .ok { intake with
      db := { intake.db with
        webhookEvents := acknowledgeWebhook webhookId intake.db.webhookEvents } }
  | .transaction transaction =>
    if ofHandlers transaction then .error (.message "REFUSED")
    else
      match (commit host transaction).run intake.db with
      | .error failure => .error failure
      | .ok (_, db) => .ok { intake with db }

/-- The storefront as seen by webhook handlers. -/
def intake (host : Host) (ingestion : IngestionPackage) : Machine Intake IntakeStep TransactionError where
  step := intakeStep host ingestion

/-! ## What one step does -/

/-- Where a delivery goes on, by the answer of the payments package. -/
def ingested (input : ProviderEventClaim) : IngestResult -> Option Handler
  | .failed => none
  | .rejected => some (.conflicting input.eventId)
  | .accepted event .created => some (.processing event)
  | .accepted event .existing => some (.checking event)

/-- The handler and the row of a retry, whoever asks for it. -/
def IntakeStep.retries : IntakeStep -> Option (Nat × Id)
  | .retry handlerId webhookId | .sweep handlerId webhookId => some (handlerId, webhookId)
  | _ => none

/-- What an accepted step has met and where it leads. -/
inductive IntakeMove (host : Host) (ingestion : IngestionPackage) (before : Intake) :
    IntakeStep -> Intake -> Prop
  | delivered (handlerId : Nat) (moment : Moment) (input : ProviderEventClaim)
    (free : before.handlers handlerId = none)
    (configured : input.provider = host.environment.paymentProvider) (result : IngestResult) (db : Db)
    (ran : ((ingestion.ingest input).connect (claimEvent moment)).Commits before.db result db) :
    IntakeMove host ingestion before (.deliver handlerId moment input)
      { before with db, handlers := Function.update before.handlers handlerId (ingested input result) }
  | started (step : IntakeStep) (handlerId : Nat) (webhookId : Id)
    (opens : step.retries = some (handlerId, webhookId))
    (free : before.handlers handlerId = none) (webhook : WebhookEvent)
    (found : before.db.webhookEvents.lookup (.id webhookId) = some webhook)
    (admitted : retryable webhook = true) :
    IntakeMove host ingestion before step (before.goTo handlerId (.restoring webhook))
  | advanced (handlerId : Nat) (moment : Moment) (handler : Handler)
    (stands : before.handlers handlerId = some handler) :
    IntakeMove host ingestion before (.advance handlerId moment) (advance host moment handlerId before handler)
  | aborted (handlerId : Nat) (code : PaymentErrorCode) (retryable : Bool) (event : VerifiedEvent)
    (stands : before.handlers handlerId = some (.processing event)) :
    IntakeMove host ingestion before (.abort handlerId code retryable)
      (before.goTo handlerId (.failing event code retryable))
  | crashed (handlerId : Nat) :
    IntakeMove host ingestion before (.crash handlerId) (before.stop handlerId)
  | acknowledged (webhookId : Id) :
    IntakeMove host ingestion before (.acknowledge webhookId)
      { before with
        db := { before.db with webhookEvents := acknowledgeWebhook webhookId before.db.webhookEvents } }
  | elsewhere (transaction : HostTransaction) (foreign : ofHandlers transaction = false) (db : Db)
    (ran : (commit host transaction).Commits before.db () db) :
    IntakeMove host ingestion before (.transaction transaction) { before with db }

/-- A handler that is not there stays so. -/
theorem update_none_of_free {intake : Intake} {handlerId : Nat} (free : intake.handlers handlerId = none) :
    intake.handlers = Function.update intake.handlers handlerId none := by
  rw [← free, Function.update_eq_self]

theorem startRetry_moves {host : Host} {ingestion : IngestionPackage} {before after : Intake}
    {step : IntakeStep} {handlerId : Nat} {webhookId : Id}
    (opens : step.retries = some (handlerId, webhookId))
    (free : before.handlers handlerId = none)
    (accepted : startRetry handlerId webhookId before = .ok after) :
    IntakeMove host ingestion before step after := by
  unfold startRetry at accepted
  split at accepted
  · cases accepted
  · rename_i webhook found
    split at accepted
    · cases accepted
    · rename_i admitted
      cases accepted
      exact .started step handlerId webhookId opens free webhook found (by simpa using admitted)

theorem intakeStep_moves {host : Host} {ingestion : IngestionPackage} {before after : Intake}
    {step : IntakeStep} (accepted : (intake host ingestion).step before step = .ok after) :
    IntakeMove host ingestion before step after := by
  change intakeStep host ingestion before step = .ok after at accepted
  cases step with
  | deliver handlerId moment input =>
    rw [intakeStep] at accepted
    split at accepted
    · cases accepted
    rename_i admitted
    rw [not_or, Option.not_isSome_iff_eq_none, not_not] at admitted
    split at accepted
    · cases accepted
    · rename_i db ran
      cases accepted
      have move := IntakeMove.delivered handlerId moment input admitted.1 admitted.2 .failed db ran
      rw [ingested, ← update_none_of_free admitted.1] at move
      exact move
    all_goals
      rename_i ran
      cases accepted
      exact .delivered handlerId moment input admitted.1 admitted.2 _ _ ran
  | retry handlerId webhookId =>
    rw [intakeStep] at accepted
    split at accepted
    · cases accepted
    · rename_i free
      exact startRetry_moves rfl (Option.not_isSome_iff_eq_none.mp free) accepted
  | sweep handlerId webhookId =>
    rw [intakeStep] at accepted
    split at accepted
    · cases accepted
    · rename_i admitted
      rw [not_or, Option.not_isSome_iff_eq_none] at admitted
      exact startRetry_moves rfl admitted.1 accepted
  | advance handlerId moment =>
    rw [intakeStep] at accepted
    split at accepted
    · cases accepted
    · rename_i handler stands
      cases accepted
      exact .advanced handlerId moment handler stands
  | abort handlerId code retryable =>
    rw [intakeStep] at accepted
    split at accepted
    · rename_i event stands
      cases accepted
      exact .aborted handlerId code retryable event stands
    · cases accepted
  | crash handlerId =>
    cases accepted
    exact .crashed handlerId
  | acknowledge webhookId =>
    cases accepted
    exact .acknowledged webhookId
  | transaction transaction =>
    rw [intakeStep] at accepted
    split at accepted
    · cases accepted
    · rename_i foreign
      split at accepted
      · cases accepted
      · rename_i ran
        cases accepted
        exact .elsewhere transaction (by simpa using foreign) _ ran

/-- The key of an event in both tables. -/
abbrev EventKey : Type := String × String

def eventKey (event : VerifiedEvent) : EventKey := (event.provider, event.eventId)

def webhookKey (webhook : WebhookEvent) : EventKey := (webhook.provider, webhook.externalEventId)

def ownerKey (event : PaymentProviderEvent) : EventKey := (event.provider, event.eventId)

theorem webhookKey_of_lookup {table : Table WebhookEvent} {provider eventId : String}
    {webhook : WebhookEvent} (found : table.lookup (.event provider eventId) = some webhook) :
    webhookKey webhook = (provider, eventId) := by
  have key := table.lookup_key found
  simp only [Keyed.keys, List.mem_cons, reduceCtorEq, WebhookEvent.Key.event.injEq, List.not_mem_nil,
    or_false, false_or] at key
  simp only [webhookKey, key]

theorem ownerKey_of_lookup {table : Table PaymentProviderEvent} {provider eventId : String}
    {owner : PaymentProviderEvent} (found : table.lookup (.event provider eventId) = some owner) :
    ownerKey owner = (provider, eventId) := by
  have key := table.lookup_key found
  simp only [Keyed.keys, List.mem_cons, reduceCtorEq, PaymentProviderEvent.Key.event.injEq,
    List.not_mem_nil, or_false, false_or] at key
  simp only [ownerKey, key]

/-- The event whose row a handler has set to `received` and not yet answered. -/
def Handler.held : Handler -> Option EventKey
  | .processing event | .failing event _ _ => some (eventKey event)
  | _ => none

/-- The event that a handler may still set to `received`, or holds already. -/
def Handler.target : Handler -> Option EventKey
  | .conflicting _ | .checking _ => none
  | .reopening _ event | .reopeningStored _ event | .processing event | .failing event _ _ =>
    some (eventKey event)
  | .restoring webhook => some (webhookKey webhook)

/-- The row a handler refers to by its identifier. -/
def Handler.webhookId : Handler -> Option Id
  | .reopening webhookId _ | .reopeningStored webhookId _ => some webhookId
  | .restoring webhook => some webhook.id
  | _ => none

/-- The row that a handler is about to set back to `received`. -/
def Handler.reopens : Handler -> Option Id
  | .reopening webhookId _ | .reopeningStored webhookId _ => some webhookId
  | _ => none

theorem Handler.target_of_held {handler : Handler} {key : EventKey} (held : handler.held = some key) :
    handler.target = some key := by
  cases handler with
  | processing event => exact held
  | failing event code retryable => exact held
  | _ => cases held

/-- The columns of a webhook row that no step but a new delivery sets. -/
abbrev SameRows : Table WebhookEvent -> Table WebhookEvent -> Prop := Table.SameColumn webhookTerms

/-- Owner events are only added, and only for rows that exist. -/
structure OwnersAdded (webhookEvents : Table WebhookEvent)
    (before after : Table PaymentProviderEvent) : Prop where
  kept : forall event, event ∈ before -> event ∈ after
  added : forall event, event ∈ after -> event ∈ before ∨
    Exists fun row => row ∈ webhookEvents ∧ webhookKey row = ownerKey event

theorem OwnersAdded.same (webhookEvents : Table WebhookEvent) (table : Table PaymentProviderEvent) :
    OwnersAdded webhookEvents table table :=
  ⟨fun _ member => member, fun _ member => Or.inl member⟩

/-- The identity, the content and the status of a webhook row. -/
def webhookState (webhook : WebhookEvent) : (Id × String × String × Option StoredEvent) × WebhookStatus :=
  (webhookTerms webhook, webhook.status)

/-- The event a handler aims at has a row, which is the row it refers to. -/
def Grounded (webhookEvents : Table WebhookEvent) (handler : Handler) : Prop :=
  forall key, handler.target = some key -> Exists fun row => row ∈ webhookEvents ∧
    webhookKey row = key ∧ forall webhookId, handler.webhookId = some webhookId -> row.id = webhookId

/-- The event whose effect a step commits.  An event of a type that the host
does not support has none. -/
def committedKey (host : Host) (intake : Intake) : IntakeStep -> Option EventKey
  | .advance handlerId moment =>
    match intake.handlers handlerId with
    | some (.processing event) =>
      match (processVerifiedEvent host moment event).run intake.db with
      | .ok _ => if event.type = .unknown then none else some (eventKey event)
      | .error _ => none
    | _ => none
  | _ => none

/-- What one step does to the webhook rows, the owner events and at most one
handler. -/
inductive Turn (host : Host) (before : Intake) (step : IntakeStep) (after : Intake) : Prop
  /-- A first delivery stores its row, and its handler goes on to process it. -/
  | created (handlerId : Nat) (free : before.handlers handlerId = none) (event : VerifiedEvent)
    (row : WebhookEvent) (inserted : before.db.webhookEvents.insert row = some after.db.webhookEvents)
    (stored : row.normalizedData.isSome = true)
    (configured : row.provider = host.environment.paymentProvider)
    (key : webhookKey row = eventKey event)
    (owners : OwnersAdded after.db.webhookEvents before.db.payments.providerEvents
      after.db.payments.providerEvents)
    (owned : Exists fun owner => owner ∈ after.db.payments.providerEvents ∧
      ownerKey owner = webhookKey row)
    (handlers : after.handlers =
      Function.update before.handlers handlerId (some (.processing event)))
    (received : row.status = .received) (uncommitted : committedKey host before step = none)
  /-- No row changes its status; a handler may move on. -/
  | moved (handlerId : Nat) (next : Option Handler)
    (rows : Table.SameColumn webhookState before.db.webhookEvents after.db.webhookEvents)
    (owners : OwnersAdded after.db.webhookEvents before.db.payments.providerEvents
      after.db.payments.providerEvents)
    (handlers : after.handlers = Function.update before.handlers handlerId next)
    (holds : forall handler key, before.handlers handlerId = some handler -> handler.held = some key ->
      Exists fun later => next = some later ∧ later.held = some key)
    (grounded : forall later, next = some later -> Grounded before.db.webhookEvents later)
    (aims : forall later key, next = some later -> later.target = some key ->
      (Exists fun handler => before.handlers handlerId = some handler ∧ handler.target = some key) ∨
      Exists fun row => row ∈ before.db.webhookEvents ∧ webhookKey row = key ∧ row.status = .failed)
    (heldBefore : forall later key, next = some later -> later.held = some key ->
      Exists fun handler => before.handlers handlerId = some handler ∧ handler.held = some key)
    (uncommitted : committedKey host before step = none)
  /-- A handler takes up a failed row again. -/
  | reopened (handlerId : Nat) (handler : Handler)
    (stands : before.handlers handlerId = some handler) (quiet : handler.held = none)
    (webhookId : Id) (refers : handler.webhookId = some webhookId) (event : VerifiedEvent)
    (aims : handler.target = some (eventKey event)) (selected : WebhookEvent -> Bool)
    (change : WebhookEvent -> WebhookEvent)
    (rows : after.db.webhookEvents.rows = before.db.webhookEvents.rows.map (fun row =>
      if selected row then change row else row))
    (selects : forall row, selected row = true ↔ row.id = webhookId)
    (receives : forall row, (change row).status = .received)
    (keeps : forall row, webhookTerms (change row) = webhookTerms row)
    (owners : after.db.payments.providerEvents = before.db.payments.providerEvents)
    (handlers : after.handlers =
      Function.update before.handlers handlerId (some (.processing event)))
    (advances : Exists fun moment => step = .advance handlerId moment)
    (uncommitted : committedKey host before step = none)
    (resets : handler.reopens = some webhookId)
  /-- A handler answers the event it holds. -/
  | answered (handlerId : Nat) (handler : Handler)
    (stands : before.handlers handlerId = some handler) (event : VerifiedEvent)
    (holds : handler.held = some (eventKey event)) (selected : WebhookEvent -> Bool)
    (change : WebhookEvent -> WebhookEvent)
    (rows : after.db.webhookEvents.rows = before.db.webhookEvents.rows.map (fun row =>
      if selected row then change row else row))
    (selects : forall row, selected row = true ↔ webhookKey row = eventKey event)
    (answers : forall row, (change row).status ≠ .received)
    (keeps : forall row, webhookTerms (change row) = webhookTerms row)
    (owners : after.db.payments.providerEvents = before.db.payments.providerEvents)
    (handlers : after.handlers = Function.update before.handlers handlerId none)
    (ledger : (committedKey host before step = some (eventKey event) ∧
        forall row, (change row).status = .processed) ∨
      (committedKey host before step = none ∧ forall row, (change row).status ≠ .processed))
  | crashed (handlerId : Nat) (isCrash : step = .crash handlerId) (db : after.db = before.db)
    (handlers : after.handlers = Function.update before.handlers handlerId none)

/-- What holds whatever stops and whenever. -/
structure Sound (host : Host) (intake : Intake) : Prop where
  configured : forall row, row ∈ intake.db.webhookEvents ->
    row.provider = host.environment.paymentProvider
  stored : forall row, row ∈ intake.db.webhookEvents -> row.normalizedData.isSome = true
  owned : forall row, row ∈ intake.db.webhookEvents -> Exists fun owner =>
    owner ∈ intake.db.payments.providerEvents ∧ ownerKey owner = webhookKey row
  known : forall owner, owner ∈ intake.db.payments.providerEvents -> Exists fun row =>
    row ∈ intake.db.webhookEvents ∧ webhookKey row = ownerKey owner
  grounded : forall handlerId handler, intake.handlers handlerId = some handler ->
    Grounded intake.db.webhookEvents handler
  finite : Exists fun bound => forall handlerId, bound ≤ handlerId -> intake.handlers handlerId = none

end Storefront
end DigitalSolutions

import DigitalSolutions.Persistence.Schema

namespace DigitalSolutions
namespace EmailOutbox

open Foundation Persistence

/-!
# The email outbox

The table of queued emails, and the statements of its store.  A claim is
conditional on what was read of the row, and the outcome of an attempt on the
claim: a row that is processed by another is left alone.
-/

inductive EmailOutboxStatus
  | pending | processing | failed | permanentlyFailed | sent
  deriving DecidableEq

structure EmailOutboxRow where
  id : Id
  type : String
  recipient : String
  subject : String
  payload : List (String × String)
  status : EmailOutboxStatus
  attempts : Nat
  lastError : Option String
  createdAt : Time
  sentAt : Option Time
  claimedBy : Option String
  claimedAt : Option Time
  claimExpiresAt : Option Time
  deduplicationKey : Option String
  deriving DecidableEq

inductive EmailOutboxRow.Key
  | id (value : Id) | deduplicationKey (value : String)
  deriving DecidableEq

instance : Keyed EmailOutboxRow EmailOutboxRow.Key where
  keys row := .id row.id :: row.deduplicationKey.toList.map EmailOutboxRow.Key.deduplicationKey

def DURABLE_EMAIL_TYPES : List String :=
  ["INVOICE_ISSUED", "SECURITY_SESSIONS_REVOKED", "SECURITY_NEW_SESSION", "SECURITY_ACCOUNT_CHANGED"]

def RETIRED_COMMERCE_EMAIL_TYPES : List String :=
  ["PAYMENT_RECEIPT", "LICENSE_ISSUED", "PAYMENT_FAILED", "REFUND_CONFIRMED", "RENEWAL_REMINDER",
    "SUBSCRIPTION_EXPIRED", "TRIAL_ENDING", "TRIAL_EXPIRED", "LICENSE_EXPIRED",
    "CUSTOMER_LIFECYCLE_REVIEW", "PAYMENT_RECONCILIATION_REVIEW"]

/-- The text of an email, where its type is one that is delivered. -/
def render (type : String) (payload : List (String × String)) : Option String :=
  let invoice := (payload.lookup "invoiceNumber").getD ""
  if type = "INVOICE_ISSUED" then
    some ("Commercial invoice " ++ invoice ++ " is available in your customer portal.")
  else if type = "SECURITY_SESSIONS_REVOKED" then
    some ("Administrator session access was revoked. If this was not you, reset your password and " ++
      "review the security dashboard.")
  else if type = "SECURITY_NEW_SESSION" then
    some ("A new administrator session was created. Review the security dashboard if this was not you.")
  else if type = "SECURITY_ACCOUNT_CHANGED" then
    some ("A high-impact administrator security setting changed. Review the security dashboard if this " ++
      "was not you.")
  else none

structure EmailMessage where
  recipient : String
  subject : String
  text : String
  idempotencyKey : Option String
  deriving DecidableEq

/-- What a dispatch reads of a row. -/
structure EmailOutboxRecord where
  id : Id
  status : EmailOutboxStatus
  attempts : Nat
  message : EmailMessage

/-- A message that was handed to the provider, and under which claim. -/
structure HandOver where
  id : Id
  attempts : Nat
  message : EmailMessage

/-- The clock, the table, the worker ids that were drawn, and what was handed
to the provider, the latest first. -/
structure OutboxStore where
  now : Time
  outbox : Table EmailOutboxRow
  workers : List String
  handOvers : List HandOver

def OutboxStore.opening (now : Time) : OutboxStore := ⟨now, ∅, [], []⟩

/-! ## Statements -/

/-- `UPDATE "EmailOutbox" … WHERE …`. -/
def updateOutbox (where' : EmailOutboxRow -> Bool) (set : EmailOutboxRow -> EmailOutboxRow)
    (keeps : forall row, Keyed.keys (set row) = Keyed.keys row) (store : OutboxStore) : OutboxStore :=
  { store with outbox := store.outbox.update where' set fun row _ => keeps row }

def EmailOutboxRow.unclaimed (row : EmailOutboxRow) : EmailOutboxRow :=
  { row with claimedBy := none, claimedAt := none, claimExpiresAt := none }

def expired (now : Time) (row : EmailOutboxRow) : Bool :=
  row.status = .processing && row.claimExpiresAt.any fun expiresAt => expiresAt < now

def recoveredRow (row : EmailOutboxRow) : EmailOutboxRow := { row.unclaimed with status := .failed }

/-- The rows that can be sent, the oldest first. -/
def dispatchable (maxAttempts limit : Nat) (store : OutboxStore) : List EmailOutboxRow :=
  ((store.outbox.select fun row =>
    (row.status = .pending || row.status = .failed) && row.attempts < maxAttempts &&
      DURABLE_EMAIL_TYPES.contains row.type).insertionSort
        fun left right => left.createdAt ≤ right.createdAt).take limit

def recordOf (row : EmailOutboxRow) : Option EmailOutboxRecord :=
  (render row.type row.payload).map fun text =>
    ⟨row.id, row.status, row.attempts, ⟨row.recipient, row.subject, text, some row.id⟩⟩

/-- A type that cannot be rendered ends the dispatch. -/
def listDispatchable (maxAttempts limit : Nat) (store : OutboxStore) : Option (List EmailOutboxRecord) :=
  (dispatchable maxAttempts limit store).mapM recordOf

def claimable (record : EmailOutboxRecord) (row : EmailOutboxRow) : Bool :=
  row.id = record.id && row.status = record.status && row.attempts = record.attempts

def claimedRow (workerId : String) (claimedAt claimExpiresAt : Time) (row : EmailOutboxRow) :
    EmailOutboxRow :=
  { row with
    status := .processing
    claimedBy := some workerId
    claimedAt := some claimedAt
    claimExpiresAt := some claimExpiresAt }

/-- The row is processed under a claim of this worker. -/
def heldBy (id : Id) (workerId : String) (row : EmailOutboxRow) : Bool :=
  row.id = id && row.status = .processing && row.claimedBy = some workerId

def sentRow (sentAt : Time) (attempts : Nat) (row : EmailOutboxRow) : EmailOutboxRow :=
  { row.unclaimed with status := .sent, sentAt := some sentAt, attempts, lastError := none }

def failedRow (status : EmailOutboxStatus) (attempts : Nat) (failureCode : String) (row : EmailOutboxRow) :
    EmailOutboxRow :=
  { row.unclaimed with status, attempts, lastError := some failureCode }

def retires (row : EmailOutboxRow) : Bool :=
  RETIRED_COMMERCE_EMAIL_TYPES.contains row.type && (row.status = .pending || row.status = .failed)

def retiredRow (row : EmailOutboxRow) : EmailOutboxRow :=
  { row.unclaimed with status := .permanentlyFailed, lastError := some "EMAIL_CHANNEL_RETIRED" }

/-- The scheduler counts five attempts, whatever a dispatch was told. -/
def promotes (row : EmailOutboxRow) : Bool := row.status = .failed && 5 ≤ row.attempts

def promotedRow (row : EmailOutboxRow) : EmailOutboxRow := { row with status := .permanentlyFailed }

/-- What another part of the site asks to send. -/
structure QueuedEmail where
  id : Id
  type : String
  recipient : String
  subject : String
  payload : List (String × String)
  deduplicationKey : Option String

def queuedRow (email : QueuedEmail) (now : Time) : EmailOutboxRow where
  id := email.id
  type := email.type
  recipient := email.recipient
  subject := email.subject
  payload := email.payload
  status := .pending
  attempts := 0
  lastError := none
  createdAt := now
  sentAt := none
  claimedBy := none
  claimedAt := none
  claimExpiresAt := none
  deduplicationKey := email.deduplicationKey

/-- A row whose id or deduplication key is taken is not inserted. -/
def enqueue (email : QueuedEmail) (store : OutboxStore) : OutboxStore :=
  { store with outbox := (store.outbox.insert (queuedRow email store.now)).getD store.outbox }

def minimizedRow (recipient : String) (payload : List (String × String)) (row : EmailOutboxRow) :
    EmailOutboxRow :=
  { row with recipient, payload }

/-- What pseudonymizing a customer does to the emails. -/
def minimizeRecipient (email recipient : String) (payload : List (String × String)) (store : OutboxStore) :
    OutboxStore :=
  updateOutbox (fun row => row.recipient = email) (minimizedRow recipient payload) (fun _ => rfl) store

end EmailOutbox
end DigitalSolutions

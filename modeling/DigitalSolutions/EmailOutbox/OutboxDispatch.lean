import DigitalSolutions.EmailOutbox.OutboxStore
import DigitalSolutions.Foundation.Tickets

namespace DigitalSolutions
namespace EmailOutbox

open Foundation Persistence

/-!
# Dispatching the outbox

A worker reads a batch, and then claims, sends and records one row after the
other.  All its claims expire at one time, counted from the start of the batch.
-/

/-- One dispatch: who it is, when its claims expire, and whether it is the job
of the scheduler, which promotes failed rows in the end. -/
structure DispatchRun where
  workerId : String
  claimedAt : Time
  claimExpiresAt : Time
  scheduled : Bool

inductive OutboxRequest
  | dispatchEmailOutbox (limit : Nat) (claimTtlMs : Option Int)
  | emailLifecycle (dryRun : Bool)

inductive OutboxPoint
  | called (request : OutboxRequest)
  /-- The batch is about to start. -/
  | starting (limit : Nat) (claimTtlMs : Option Int) (scheduled : Bool)
  | recovering (run : DispatchRun) (limit : Nat)
  | listing (run : DispatchRun) (limit : Nat)
  | claiming (run : DispatchRun) (record : EmailOutboxRecord) (rest : List EmailOutboxRecord)
  | sending (run : DispatchRun) (record : EmailOutboxRecord) (rest : List EmailOutboxRecord)
  /-- The provider has answered; a failure has a code. -/
  | recording (run : DispatchRun) (record : EmailOutboxRecord) (failure : Option String)
    (rest : List EmailOutboxRecord)
  | promoting

/-- What an access meets: the id that is drawn, and the answer of the provider. -/
structure OutboxInput where
  drawn : String
  failure : Option String

inductive OutboxRefusal
  /-- A random identifier is not drawn twice. -/
  | repeated
  | backwards
  deriving DecidableEq

/-- The next row of the batch, or its end. -/
def nextRecord (run : DispatchRun) : List EmailOutboxRecord -> Option OutboxPoint
  | [] => if run.scheduled then some .promoting else none
  | record :: rest => some (.claiming run record rest)

variable (maxAttempts : Nat)

def skips (record : EmailOutboxRecord) : Bool :=
  (record.status ≠ .pending && record.status ≠ .failed) || maxAttempts ≤ record.attempts

/-- The write that records the answer of the provider. -/
def recordOutcome (run : DispatchRun) (record : EmailOutboxRecord) (failure : Option String)
    (store : OutboxStore) : OutboxStore :=
  match failure with
  | none => updateOutbox (heldBy record.id run.workerId) (sentRow store.now (record.attempts + 1))
      (fun _ => rfl) store
  | some failureCode =>
    let status := if maxAttempts ≤ record.attempts + 1 then .permanentlyFailed else .failed
    updateOutbox (heldBy record.id run.workerId) (failedRow status (record.attempts + 1) failureCode)
      (fun _ => rfl) store

def advanceOutbox (store : OutboxStore) (point : OutboxPoint) (input : OutboxInput) :
    Except OutboxRefusal (OutboxStore × Option OutboxPoint) :=
  match point with
  | .called (.dispatchEmailOutbox limit claimTtlMs) => .ok (store, some (.starting limit claimTtlMs false))
  | .called (.emailLifecycle true) => .ok (store, none)
  | .called (.emailLifecycle false) =>
    .ok (updateOutbox retires retiredRow (fun _ => rfl) store, some (.starting 100 none true))
  | .starting limit claimTtlMs scheduled =>
    if input.drawn ∈ store.workers then .error .repeated
    else .ok ({ store with workers := input.drawn :: store.workers }, some (.recovering
      ⟨input.drawn, store.now, store.now + claimTtlMs.getD (5 * 60000), scheduled⟩ limit))
  | .recovering run limit =>
    .ok (updateOutbox (expired run.claimedAt) recoveredRow (fun _ => rfl) store, some (.listing run limit))
  | .listing run limit =>
    .ok (store, (listDispatchable maxAttempts limit store).bind (nextRecord run))
  | .claiming run record rest =>
    if skips maxAttempts record then .ok (store, nextRecord run rest)
    else if (store.outbox.select (claimable record)).isEmpty then .ok (store, nextRecord run rest)
    else .ok (updateOutbox (claimable record)
      (claimedRow run.workerId run.claimedAt run.claimExpiresAt) (fun _ => rfl) store,
        some (.sending run record rest))
  | .sending run record rest =>
    .ok ({ store with handOvers := ⟨record.id, record.attempts, record.message⟩ :: store.handOvers },
      some (.recording run record input.failure rest))
  | .recording run record failure rest =>
    .ok (recordOutcome maxAttempts run record failure store, nextRecord run rest)
  | .promoting => .ok (updateOutbox promotes promotedRow (fun _ => rfl) store, none)

/-- What else happens: time passes, emails are queued, and customers are
pseudonymized. -/
inductive OutboxEvent
  | tick (later : Time)
  | queue (email : QueuedEmail)
  | minimize (email recipient : String) (payload : List (String × String))

def passOutbox (store : OutboxStore) : OutboxEvent -> Except OutboxRefusal OutboxStore
  | .tick later => if store.now ≤ later then .ok { store with now := later } else .error .backwards
  | .queue email => .ok (enqueue email store)
  | .minimize email recipient payload => .ok (minimizeRecipient email recipient payload store)

/-- Any number of dispatches at the same time. -/
def outboxProtocol :
    Protocol OutboxStore OutboxRequest OutboxPoint OutboxInput OutboxEvent OutboxRefusal where
  enter := .called
  advance := advanceOutbox maxAttempts
  ambient := passOutbox

abbrev OutboxCrowd := Crowd OutboxStore OutboxPoint

abbrev OutboxMove := CrowdMove OutboxRequest OutboxInput OutboxEvent

end EmailOutbox
end DigitalSolutions

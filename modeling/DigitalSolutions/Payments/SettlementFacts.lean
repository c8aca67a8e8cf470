import DigitalSolutions.Persistence.Stores

namespace DigitalSolutions
namespace Payments

open Foundation Persistence

/-!
# Settlement facts

The repository behind `createPaymentsSettlementFactCapability`.  A settlement
fact records that an external payment settled a checkout attempt.  There is
at most one fact per provider event and at most one per external payment, and
the first claim wins.
-/

variable {before : PaymentsStore} {input : SettlementFactClaim}
variable {after : PaymentsStore} {moment : Moment}

structure SettlementFactClaim where
  id : Id
  providerEventRecordId : Id
  checkoutAttemptId : Id
  provider : String
  eventId : String
  externalPaymentId : String
  externalCheckoutId : String
  commercialReference : String
  amountMinor : Int
  currency : String
  livemode : Bool
  settledAt : Time
  deriving DecidableEq

def claimedFact (moment : Moment) (input : SettlementFactClaim) : PaymentSettlementFact where
  id := input.id
  providerEventRecordId := input.providerEventRecordId
  checkoutAttemptId := input.checkoutAttemptId
  provider := input.provider
  eventId := input.eventId
  externalPaymentId := input.externalPaymentId
  externalCheckoutId := input.externalCheckoutId
  commercialReference := input.commercialReference
  amountMinor := input.amountMinor
  currency := input.currency
  livemode := input.livemode
  settledAt := input.settledAt
  createdAt := moment.now

structure SettlementFactClaimResult where
  created : Bool
  record : PaymentSettlementFact
  deriving DecidableEq

def findProviderEventById (id : Id) : Tx PaymentsStore (Option PaymentProviderEvent) := do
  let store <- get
  return store.providerEvents.lookup (.id id)

def findCheckoutAttempt (provider externalCheckoutId : String) :
    Tx PaymentsStore (Option PaymentCheckoutAttempt) := do
  let store <- get
  return store.checkoutAttempts.lookup (.external provider externalCheckoutId)

theorem findProviderEventById_commits {id : Id} {result : Option PaymentProviderEvent} :
    (findProviderEventById id).Commits before result after ↔
      before.providerEvents.lookup (.id id) = result ∧ before = after := by
  unfold findProviderEventById
  simp only [Transaction.commits_bind, Transaction.commits_get, Transaction.commits_pure]
  constructor
  · rintro ⟨_, _, ⟨rfl, rfl⟩, rfl, rfl⟩
    exact ⟨rfl, rfl⟩
  · rintro ⟨rfl, rfl⟩
    exact ⟨before, before, ⟨rfl, rfl⟩, rfl, rfl⟩

theorem findCheckoutAttempt_commits {provider externalCheckoutId : String}
    {result : Option PaymentCheckoutAttempt} :
    (findCheckoutAttempt provider externalCheckoutId).Commits before result after ↔
      before.checkoutAttempts.lookup (.external provider externalCheckoutId) = result ∧
        before = after := by
  unfold findCheckoutAttempt
  simp only [Transaction.commits_bind, Transaction.commits_get, Transaction.commits_pure]
  constructor
  · rintro ⟨_, _, ⟨rfl, rfl⟩, rfl, rfl⟩
    exact ⟨rfl, rfl⟩
  · rintro ⟨rfl, rfl⟩
    exact ⟨before, before, ⟨rfl, rfl⟩, rfl, rfl⟩

/-- The fact that stands in the way of a claim: the one of the same provider
event before the one of the same external payment. -/
def standingFact (store : PaymentsStore) (input : SettlementFactClaim) :
    Option PaymentSettlementFact :=
  match store.settlementFacts.lookup (.providerEventRecordId input.providerEventRecordId) with
  | some fact => some fact
  | none =>
    store.settlementFacts.lookup (.externalPayment input.provider input.externalPaymentId)

/-- `claim`: insert unless any unique index is taken, else report the fact
that is there. -/
def claim (moment : Moment) (input : SettlementFactClaim) :
    Tx PaymentsStore SettlementFactClaimResult := do
  let store <- get
  match store.settlementFacts.insert (claimedFact moment input) with
  | some settlementFacts =>
    set { store with settlementFacts }
    return ⟨true, claimedFact moment input⟩
  | none =>
    match standingFact store input with
    | some fact => return ⟨false, fact⟩
    | none => throw (.message "PAYMENTS_SETTLEMENT_FACT_DISAPPEARED")

/-- A claim either inserts its fact, or reports a standing one and writes
nothing. -/
theorem claim_commits {result : SettlementFactClaimResult}
    (commits : (claim moment input).Commits before result after) :
    (result = ⟨true, claimedFact moment input⟩ ∧
      before.settlementFacts.insert (claimedFact moment input) = some after.settlementFacts ∧
      after.providerEvents = before.providerEvents ∧
      after.checkoutAttempts = before.checkoutAttempts) ∨
    (Exists fun fact => result = ⟨false, fact⟩ ∧ standingFact before input = some fact ∧
      after = before) := by
  unfold claim at commits
  rw [Transaction.commits_get_bind] at commits
  split at commits
  case h_1 settlementFacts inserted =>
    simp only [Transaction.commits_bind, Transaction.commits_set, Transaction.commits_pure]
      at commits
    rcases commits with ⟨_, _, rfl, rfl, rfl⟩
    exact Or.inl ⟨rfl, inserted, rfl, rfl⟩
  case h_2 taken =>
    split at commits
    case h_1 fact standing =>
      rw [Transaction.commits_pure] at commits
      exact Or.inr ⟨fact, commits.1.symm, standing, commits.2.symm⟩
    case h_2 => exact absurd commits Transaction.not_commits_throw

/-- A claim whose entries are all free inserts its fact. -/
theorem claim_commits_of_free
    (free : forall key, key ∈ Keyed.keys (claimedFact moment input) ->
      before.settlementFacts.lookup key = none) :
    Exists fun settlementFacts => (claim moment input).Commits before ⟨true, claimedFact moment input⟩
      { before with settlementFacts } := by
  rcases Table.insert_of_free free with ⟨settlementFacts, inserted⟩
  refine ⟨settlementFacts, ?_⟩
  unfold claim
  rw [Transaction.commits_bind]
  refine ⟨before, before, Transaction.commits_get.mpr ⟨rfl, rfl⟩, ?_⟩
  simp only [inserted, Transaction.commits_bind, Transaction.commits_set, Transaction.commits_pure]
  exact ⟨⟨⟩, _, rfl, trivial, rfl⟩

theorem standingFact_mem {store : PaymentsStore} {fact : PaymentSettlementFact}
    (standing : standingFact store input = some fact) :
    fact ∈ store.settlementFacts := by
  unfold standingFact at standing
  split at standing
  case h_1 other found =>
    rw [Option.some.injEq] at standing
    exact standing ▸ store.settlementFacts.lookup_mem found
  case h_2 => exact store.settlementFacts.lookup_mem standing

/-! ## The package in front of the repository -/

inductive PaymentsPort
  | findProviderEventById (id : Id)
  | findCheckoutAttempt (provider externalCheckoutId : String)
  | claim (input : SettlementFactClaim)

def PaymentsPort.Answer : PaymentsPort -> Type
  | findProviderEventById _ => Option PaymentProviderEvent
  | findCheckoutAttempt _ _ => Option PaymentCheckoutAttempt
  | claim _ => SettlementFactClaimResult

def paymentsRepository (moment : Moment) :
    (port : PaymentsPort) -> Tx PaymentsStore port.Answer
  | .findProviderEventById id => findProviderEventById id
  | .findCheckoutAttempt provider externalCheckoutId => findCheckoutAttempt provider externalCheckoutId
  | .claim input => claim moment input

/-- The payments package can add settlement facts and nothing else. -/
def SameEvents (before after : PaymentsStore) : Prop :=
  after.providerEvents = before.providerEvents ∧ after.checkoutAttempts = before.checkoutAttempts

theorem SameEvents.trans {first second third : PaymentsStore} (left : SameEvents first second)
    (right : SameEvents second third) : SameEvents first third :=
  ⟨right.1.trans left.1, right.2.trans left.2⟩

theorem paymentsRepository_frame (port : PaymentsPort) (before : PaymentsStore) (answer : port.Answer)
    (after : PaymentsStore) (called : (paymentsRepository moment port).Commits before answer after) :
    SameEvents before after := by
  cases port with
  | findProviderEventById id =>
    rcases findProviderEventById_commits.mp called with ⟨_, rfl⟩
    exact ⟨rfl, rfl⟩
  | findCheckoutAttempt provider externalCheckoutId =>
    rcases findCheckoutAttempt_commits.mp called with ⟨_, rfl⟩
    exact ⟨rfl, rfl⟩
  | claim input =>
    rcases claim_commits called with ⟨_, _, events, attempts⟩ | ⟨_, _, _, rfl⟩
    · exact ⟨events, attempts⟩
    · exact ⟨rfl, rfl⟩

structure ReconcileInput where
  providerEventRecordId : Id
  expectedLivemode : Bool
  deriving DecidableEq

inductive ReconcileRejection
  | modeMismatch | checkoutMismatch | referenceMismatch | amountMismatch | currencyMismatch
  | paymentReferenceMissing | other (code : String)
  deriving DecidableEq

inductive FactDisposition
  | created | existing
  deriving DecidableEq

inductive ReconcileResult
  | rejected (code : ReconcileRejection)
  | failed
  | settled (value : PaymentSettlementFact) (disposition : FactDisposition)
  deriving DecidableEq

/-- `@bke/payments/logic/settlement-fact`.  The package draws the identifier
of a new fact itself. -/
structure PaymentsPackage where
  reconcile : Moment -> ReconcileInput ->
    Program PaymentsPort PaymentsPort.Answer ReconcileResult

/-- The claim that a package makes for an event of a checkout attempt. -/
structure ClaimsEvent (event : PaymentProviderEvent) (attempt : PaymentCheckoutAttempt)
    (input : SettlementFactClaim) : Prop where
  providerEventRecordId : input.providerEventRecordId = event.id
  checkoutAttemptId : input.checkoutAttemptId = attempt.id
  provider : input.provider = event.provider
  eventId : input.eventId = event.eventId
  externalPaymentId : some input.externalPaymentId = event.externalPaymentId
  externalCheckoutId : some input.externalCheckoutId = event.externalCheckoutId
  commercialReference : input.commercialReference = attempt.commercialReference
  amountMinor : some input.amountMinor = event.amountMinor
  attemptAmount : input.amountMinor = attempt.amountMinor
  currency : some input.currency = event.currency
  attemptCurrency : input.currency = attempt.currency
  livemode : input.livemode = event.livemode
  settledAt : input.settledAt = event.occurredAt

/-- What the host relies on.  A settled reconciliation has found the event and
the checkout attempt of its provider checkout, has made one claim for them,
and reports a created fact exactly when the repository inserted it.  It
settles a paid event that agrees with its attempt and is the first for its
payment; the status of the attempt does not matter. -/
structure PaymentsPackage.Lawful (package : PaymentsPackage) : Prop where
  settled : forall (moment : Moment) (input : ReconcileInput) (before after : PaymentsStore)
    (value : PaymentSettlementFact) (disposition : FactDisposition),
    ((package.reconcile moment input).connect (paymentsRepository moment)).Commits before
      (.settled value disposition) after ->
    Exists fun event => Exists fun externalCheckoutId => Exists fun attempt =>
      Exists fun claimInput =>
        before.providerEvents.lookup (.id input.providerEventRecordId) = some event ∧
        event.livemode = input.expectedLivemode ∧
        event.externalCheckoutId = some externalCheckoutId ∧
        before.checkoutAttempts.lookup (.external event.provider externalCheckoutId) = some attempt ∧
        ClaimsEvent event attempt claimInput ∧
        (claim moment claimInput).Commits before ⟨disposition = .created, value⟩ after
  settles : forall (moment : Moment) (input : ReconcileInput) (before : PaymentsStore)
    (event : PaymentProviderEvent) (attempt : PaymentCheckoutAttempt)
    (externalPaymentId externalCheckoutId : String),
    before.providerEvents.lookup (.id input.providerEventRecordId) = some event ->
    event.type = .paymentPaid -> event.livemode = input.expectedLivemode ->
    event.externalPaymentId = some externalPaymentId ->
    event.externalCheckoutId = some externalCheckoutId ->
    before.checkoutAttempts.lookup (.external event.provider externalCheckoutId) = some attempt ->
    event.amountMinor = some attempt.amountMinor -> event.currency = some attempt.currency ->
    (forall reference, event.reference = some reference -> reference = attempt.commercialReference) ->
    before.settlementFacts.lookup (.id (moment.draw .settlementFactId)) = none ->
    before.settlementFacts.lookup (.providerEventRecordId event.id) = none ->
    before.settlementFacts.lookup (.externalPayment event.provider externalPaymentId) = none ->
    Exists fun value => Exists fun after =>
      ((package.reconcile moment input).connect (paymentsRepository moment)).Commits before
        (.settled value .created) after

end Payments
end DigitalSolutions

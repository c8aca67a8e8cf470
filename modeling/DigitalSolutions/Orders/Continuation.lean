import DigitalSolutions.Orders.Cancellation
import DigitalSolutions.Platform.Environment

namespace DigitalSolutions
namespace Orders

open Foundation Persistence Platform Commerce

/-!
# Continuing a pending order

A continuation returns the checkout of the newest live attempt, or reserves a
new attempt, asks the provider for a checkout outside any transaction, and
stores the answer.  Between the two transactions any amount of time may pass.
The web route and the agent run the same three database steps.
-/

structure WebCheckoutItem where
  name : String
  description : String
  amountMinor : Int
  quantity : Nat
  deriving DecidableEq

/-- What the provider is asked for; the customer's name and address are the
provider's business only. -/
structure WebCheckoutInput where
  orderId : Id
  reference : String
  amountMinor : Int
  currency : String
  idempotencyKey : String
  items : List WebCheckoutItem
  deriving DecidableEq

structure WebCheckoutResult where
  externalId : String
  checkoutUrl : String
  deriving DecidableEq

def webCheckoutItem (item : OrderItem) : WebCheckoutItem where
  name := item.productName ++ (item.editionName.elim "" (fun edition => " — " ++ edition))
  description := item.planName.getD item.priceName
  amountMinor := item.unitAmountMinor
  quantity := item.quantity

def webCheckoutInput (store : CommerceStore) (order : Order) (idempotencyKey : String) :
    WebCheckoutInput where
  orderId := order.id
  reference := order.number
  amountMinor := order.totalMinor
  currency := order.currency
  idempotencyKey
  items := ((itemsOf store order.id).insertionSort (fun left right => left.id ≤ right.id)).map
    webCheckoutItem

/-- The mock provider of `createCheckout`. -/
def mockCheckout (origin : String) (input : WebCheckoutInput) : WebCheckoutResult where
  externalId := "mock_" ++ input.idempotencyKey
  checkoutUrl := origin ++ "/checkout/success?order=" ++ input.orderId ++ "&mock=1"

/-! ## Reserving an attempt -/

/-- How long a reservation without an answer keeps others out. -/
def reservationWindow : Int := 5 * 60000

/-- `orderBy: { createdAt: "desc" }, take: 1` over the live attempts. -/
def newestLiveAttempt (store : HostPaymentsStore) (orderId : Id) : Option PaymentAttempt :=
  ((store.paymentAttempts.select (fun row => row.orderId = orderId && liveAttempt row)).insertionSort
    (fun left right => right.createdAt ≤ left.createdAt)).head?

inductive Reservation
  | continued (checkoutUrl : String)
  | createCheckout (input : WebCheckoutInput)
  deriving DecidableEq

def failAttempt (attempt : Option PaymentAttempt) (store : HostPaymentsStore) : HostPaymentsStore :=
  { store with
    paymentAttempts := store.paymentAttempts.update
      (fun row => some row.id = attempt.map PaymentAttempt.id)
      (fun row => { row with status := .failed }) }

def reservedAttempt (environment : Environment) (moment : Moment) (orderId : Id) : PaymentAttempt where
  id := moment.draw .paymentAttemptId
  orderId
  provider := environment.paymentProvider
  idempotencyKey := moment.draw .idempotencyKey
  externalCheckoutId := none
  checkoutUrl := none
  status := .creating
  createdAt := moment.now

/-- The first transaction of the continue route. -/
def reserveCheckout (environment : Environment) (moment : Moment) (orderId : Id)
    (permits : Id -> Bool) : Tx Db Reservation := do
  let db <- get
  let some order := pendingOrder db.commerce orderId permits | throw (.message "NOT_FOUND")
  let existing := newestLiveAttempt db.hostPayments order.id
  if let some checkoutUrl := existing.bind (fun attempt =>
      if attempt.status = .pending then present attempt.checkoutUrl else none) then
    return .continued checkoutUrl
  if existing.any (fun attempt =>
      attempt.status = .creating && attempt.createdAt > moment.now - reservationWindow) then
    throw (.message "CHECKOUT_CREATION_IN_PROGRESS")
  let replaced := failAttempt existing db.hostPayments
  let paymentAttempts <- Transaction.orFail .uniqueViolation
    (replaced.paymentAttempts.insert (reservedAttempt environment moment order.id))
  set { db with hostPayments := { replaced with paymentAttempts } }
  return .createCheckout (webCheckoutInput db.commerce order (moment.draw .idempotencyKey))

/-- `continueAgentPendingOrder` finds the pending orders of its account. -/
def reserveAgentCheckout (environment : Environment) (moment : Moment) (orderId accountId : Id) :
    Tx Db Reservation :=
  reserveCheckout environment moment orderId (fun owner => owner = accountId)

/-- A reservation hands out the checkout that is there, or replaces the
newest live attempt by a new one in state `creating`. -/
inductive ReserveCommit (environment : Environment) (moment : Moment) (orderId : Id)
    (permits : Id -> Bool) (before : Db) : Reservation -> Db -> Prop
  | continued (order : Order) (found : pendingOrder before.commerce orderId permits = some order)
    (attempt : PaymentAttempt) (newest : newestLiveAttempt before.hostPayments order.id = some attempt)
    (pending : attempt.status = .pending) (checkoutUrl : String)
    (handedOut : present attempt.checkoutUrl = some checkoutUrl) :
    ReserveCommit environment moment orderId permits before (.continued checkoutUrl) before
  | reserved (order : Order) (found : pendingOrder before.commerce orderId permits = some order)
    (stale : forall attempt, newestLiveAttempt before.hostPayments order.id = some attempt ->
      attempt.status = .creating -> attempt.createdAt ≤ moment.now - reservationWindow)
    (paymentAttempts : Table PaymentAttempt)
    (inserted : (failAttempt (newestLiveAttempt before.hostPayments order.id)
      before.hostPayments).paymentAttempts.insert (reservedAttempt environment moment order.id) =
        some paymentAttempts) :
    ReserveCommit environment moment orderId permits before
      (.createCheckout (webCheckoutInput before.commerce order (moment.draw .idempotencyKey)))
      { before with hostPayments := { before.hostPayments with paymentAttempts } }

theorem reserveCheckout_commits {environment : Environment} {moment : Moment} {orderId : Id}
    {permits : Id -> Bool} {before after : Db} {result : Reservation}
    (commits : (reserveCheckout environment moment orderId permits).Commits before result after) :
    ReserveCommit environment moment orderId permits before result after := by
  unfold reserveCheckout at commits
  simp only [Transaction.commits_bind, Transaction.commits_get] at commits
  rcases commits with ⟨_, _, ⟨rfl, rfl⟩, commits⟩
  split at commits
  case h_2 => exact absurd commits Transaction.not_commits_throw
  case h_1 order found =>
    split at commits
    case h_1 checkoutUrl handedOut =>
      rcases Transaction.commits_pure.mp commits with ⟨rfl, rfl⟩
      rcases Option.bind_eq_some_iff.mp handedOut with ⟨attempt, newest, handedOut⟩
      split at handedOut
      case isTrue pending => exact .continued order found attempt newest pending checkoutUrl handedOut
      case isFalse => cases handedOut
    case h_2 =>
      rcases Transaction.commits_ite.mp commits with ⟨_, commits⟩ | ⟨open', commits⟩
      · simp only [Transaction.commits_bind, Transaction.not_commits_throw, false_and,
          exists_false] at commits
      simp only [Transaction.commits_bind, Transaction.commits_orFail, Transaction.commits_set,
        Transaction.commits_pure] at commits
      rcases commits with ⟨paymentAttempts, _, ⟨inserted, rfl⟩, _, _, rfl, rfl, rfl⟩
      refine .reserved order found ?_ paymentAttempts inserted
      intro attempt newest creating
      by_contra fresh
      have recent : attempt.createdAt > moment.now - reservationWindow := not_le.mp fresh
      apply open'
      simp only [newest, Option.any_some, creating, recent, decide_true, Bool.true_and]

/-! ## Storing the provider's answer -/

/-- The second transaction.  Only the status of the order decides; the
attempt is found by its key and is not looked at. -/
def storeCheckout (orderId : Id) (idempotencyKey : String) (checkout : WebCheckoutResult)
    (permits : Id -> Bool) : Tx Db PaymentAttemptStatus := do
  let db <- get
  let current := (db.commerce.orders.lookup (.id orderId)).filter (fun order => permits order.accountId)
  let status : PaymentAttemptStatus :=
    if current.map Order.status = some .pending then .pending else .cancelled
  let attempt <- Transaction.orFail .recordNotFound
    (db.hostPayments.paymentAttempts.lookup (.idempotencyKey idempotencyKey))
  let paymentAttempts <- Transaction.orFail .uniqueViolation
    (db.hostPayments.paymentAttempts.amend (fun row => row.id = attempt.id)
      (fun row => { row with
        status
        externalCheckoutId := some checkout.externalId
        checkoutUrl := some checkout.checkoutUrl }))
  set { db with hostPayments := { db.hostPayments with paymentAttempts } }
  return status

/-- The status the second transaction decides on. -/
def storedStatus (store : CommerceStore) (orderId : Id) (permits : Id -> Bool) : PaymentAttemptStatus :=
  if ((store.orders.lookup (.id orderId)).filter (fun order => permits order.accountId)).map
      Order.status = some .pending then .pending
  else .cancelled

theorem storeCheckout_commits {orderId : Id} {idempotencyKey : String} {checkout : WebCheckoutResult}
    {permits : Id -> Bool} {before after : Db} {result : PaymentAttemptStatus}
    (commits : (storeCheckout orderId idempotencyKey checkout permits).Commits before result after) :
    result = storedStatus before.commerce orderId permits ∧
    (Exists fun attempt =>
      before.hostPayments.paymentAttempts.lookup (.idempotencyKey idempotencyKey) = some attempt ∧
      before.hostPayments.paymentAttempts.amend (fun row => row.id = attempt.id)
        (fun row => { row with
          status := result
          externalCheckoutId := some checkout.externalId
          checkoutUrl := some checkout.checkoutUrl }) = some after.hostPayments.paymentAttempts) ∧
    after = { before with
      hostPayments := { before.hostPayments with
        paymentAttempts := after.hostPayments.paymentAttempts } } := by
  unfold storeCheckout at commits
  simp only [Transaction.commits_bind, Transaction.commits_get, Transaction.commits_orFail,
    Transaction.commits_set, Transaction.commits_pure] at commits
  rcases commits with ⟨_, _, ⟨rfl, rfl⟩, attempt, _, ⟨found, rfl⟩, paymentAttempts, _, ⟨amended, rfl⟩,
    _, _, rfl, rfl, rfl⟩
  exact ⟨rfl, ⟨attempt, found, amended⟩, rfl⟩

/-- What happens to the reservation when the provider, or the second
transaction, fails. -/
def abandonReservation (idempotencyKey : String) (store : HostPaymentsStore) : HostPaymentsStore :=
  { store with
    paymentAttempts := store.paymentAttempts.update
      (fun row => row.idempotencyKey = idempotencyKey && row.status = .creating)
      (fun row => { row with status := .failed }) }

end Orders
end DigitalSolutions

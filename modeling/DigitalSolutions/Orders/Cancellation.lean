import DigitalSolutions.Commerce.Settlement

namespace DigitalSolutions
namespace Orders

open Foundation Persistence Commerce

/-!
# Cancelling a pending order

The buyer route and the agent share one transaction: lock the order, require
it to be pending, cancel it together with its live attempts in both attempt
tables.  They differ in whose orders they find and in how they answer when
there is none.  The administrator route reads the order and writes it in two
separate statements and leaves the attempts alone.
-/

def cancelOrderRow (orderId : Id) (store : CommerceStore) : CommerceStore :=
  { store with
    orders := store.orders.update (fun row => row.id = orderId)
      (fun row => { row with status := .cancelled }) }

/-- The attempt may still lead to a payment. -/
def liveAttempt (attempt : PaymentAttempt) : Bool :=
  attempt.status = .creating || attempt.status = .pending

def cancelAttempts (orderId : Id) (store : HostPaymentsStore) : HostPaymentsStore :=
  { store with
    paymentAttempts := store.paymentAttempts.update
      (fun row => row.orderId = orderId && liveAttempt row)
      (fun row => { row with status := .cancelled }) }

def cancelCheckoutAttempts (moment : Moment) (orderId : Id) (store : PaymentsStore) : PaymentsStore :=
  { store with
    checkoutAttempts := store.checkoutAttempts.update
      (fun row => row.commercialReference = orderId &&
        (row.status = .creating || row.status = .pending))
      (fun row => { row with status := .cancelled, updatedAt := moment.now }) }

/-- The pending order a caller may act on.  `permits` is what the accounts
module allows the caller at this moment. -/
def pendingOrder (store : CommerceStore) (orderId : Id) (permits : Id -> Bool) : Option Order :=
  (store.orders.lookup (.id orderId)).filter
    (fun order => order.status = .pending && permits order.accountId)

def cancelWrites (moment : Moment) (orderId : Id) (db : Db) : Db :=
  { db with
    commerce := cancelOrderRow orderId db.commerce
    hostPayments := cancelAttempts orderId db.hostPayments
    payments := cancelCheckoutAttempts moment orderId db.payments }

/-- The buyer route: `POST /api/orders/[id]/cancel`. -/
def cancelOrder (moment : Moment) (orderId : Id) (permits : Id -> Bool) : Tx Db Unit := do
  let db <- get
  match pendingOrder db.commerce orderId permits with
  | none => throw (.message "NOT_FOUND")
  | some _ => set (cancelWrites moment orderId db)

inductive AgentCancelResult
  | cancelled | orderNotFound
  deriving DecidableEq

/-- `cancelAgentPendingOrder`, for the account of the agent's principal. -/
def cancelAgentPendingOrder (moment : Moment) (orderId accountId : Id) : Tx Db AgentCancelResult := do
  let db <- get
  match pendingOrder db.commerce orderId (fun owner => owner = accountId) with
  | none => return .orderNotFound
  | some _ =>
    set (cancelWrites moment orderId db)
    return .cancelled

/-- The read of the administrator route: `PATCH /api/admin/orders/[id]`. -/
def adminCancelRead (orderId : Id) : Tx Db Order := do
  let db <- get
  let order <- Transaction.orFail .recordNotFound (db.commerce.orders.lookup (.id orderId))
  if order.status ≠ .pending then
    throw (.message "INVALID_STATE")
  return order

/-- The write of the administrator route.  It looks at the identifier only. -/
def adminCancelWrite (orderId : Id) : Tx Db Unit := do
  let db <- get
  let _ <- Transaction.orFail .recordNotFound (db.commerce.orders.lookup (.id orderId))
  set { db with commerce := cancelOrderRow orderId db.commerce }

theorem pendingOrder_eq_some {store : CommerceStore} {orderId : Id} {permits : Id -> Bool}
    {order : Order} (found : pendingOrder store orderId permits = some order) :
    store.orders.lookup (.id orderId) = some order ∧ order.status = .pending := by
  rw [pendingOrder, Option.filter_eq_some_iff] at found
  exact ⟨found.1, by simpa using (Bool.and_eq_true_iff.mp found.2).1⟩

theorem cancelOrder_commits {moment : Moment} {orderId : Id} {permits : Id -> Bool} {before after : Db}
    {answer : Unit} (commits : (cancelOrder moment orderId permits).Commits before answer after) :
    (Exists fun order => before.commerce.orders.lookup (.id orderId) = some order ∧
      order.status = .pending) ∧ after = cancelWrites moment orderId before := by
  unfold cancelOrder at commits
  rw [Transaction.commits_get_bind] at commits
  split at commits
  case h_1 => exact absurd commits Transaction.not_commits_throw
  case h_2 order found =>
    exact ⟨⟨order, pendingOrder_eq_some found⟩, (Transaction.commits_set.mp commits).symm⟩

theorem cancelAgentPendingOrder_commits {moment : Moment} {orderId accountId : Id} {before after : Db}
    {result : AgentCancelResult}
    (commits : (cancelAgentPendingOrder moment orderId accountId).Commits before result after) :
    (result = .orderNotFound ∧ after = before) ∨
    (result = .cancelled ∧
      (Exists fun order => before.commerce.orders.lookup (.id orderId) = some order ∧
        order.status = .pending) ∧ after = cancelWrites moment orderId before) := by
  unfold cancelAgentPendingOrder at commits
  rw [Transaction.commits_get_bind] at commits
  split at commits
  case h_1 =>
    rw [Transaction.commits_pure] at commits
    exact Or.inl ⟨commits.1.symm, commits.2.symm⟩
  case h_2 order found =>
    simp only [Transaction.commits_bind, Transaction.commits_set, Transaction.commits_pure] at commits
    rcases commits with ⟨_, _, rfl, rfl, rfl⟩
    exact Or.inr ⟨rfl, ⟨order, pendingOrder_eq_some found⟩, rfl⟩

end Orders
end DigitalSolutions

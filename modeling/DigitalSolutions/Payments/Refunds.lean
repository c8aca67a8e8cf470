import DigitalSolutions.Payments.WebhookProcessing

namespace DigitalSolutions
namespace Payments

open Foundation Persistence

/-!
# Refund operations

`requestFullRefund` opens one refund operation per payment, asks the provider
for the refund outside the transaction, and stores the answer.  Only the
webhook completes an operation.
-/

structure RefundRequest where
  orderId : Id
  requestedById : Id
  reason : String
  deriving DecidableEq

structure RefundProviderResult where
  externalId : String
  status : RefundStatus
  deriving DecidableEq

/-- The newest paid payment of the order at the provider. -/
def refundablePayment (store : HostPaymentsStore) (provider : String) (orderId : Id) : Option Payment :=
  ((store.payments.select (fun row =>
    row.orderId = orderId && row.provider = provider && row.status = .paid)).insertionSort
      (fun left right => right.createdAt ≤ left.createdAt)).head?

def refundKey (payment : Payment) : String := "refund:" ++ payment.id ++ ":full"

/-- Up to the call of the provider; `operationId` is the drawn identifier. -/
def openRefundOperation (provider : String) (operationId : Id) (request : RefundRequest) :
    Tx Db RefundOperation := do
  let db <- get
  let some order := db.commerce.orders.lookup (.id request.orderId)
    | throw (.payment .refundNotAllowed)
  let some payment := refundablePayment db.hostPayments provider order.id
    | throw (.payment .refundNotAllowed)
  if order.status ≠ .paid then
    throw (.payment .refundNotAllowed)
  if let some existing := db.hostPayments.refundOperations.lookup
      (.idempotencyKey (refundKey payment)) then
    return existing
  let operation : RefundOperation := {
    id := operationId
    orderId := order.id
    paymentId := payment.id
    provider
    amountMinor := payment.amountMinor
    currency := payment.currency
    reasonCode := request.reason
    idempotencyKey := refundKey payment
    externalRefundId := none
    status := .requested
    lastErrorCode := none
    requestedById := request.requestedById
    completedAt := none }
  let refundOperations <- Transaction.orFail .uniqueViolation
    (db.hostPayments.refundOperations.insert operation)
  set { db with hostPayments := { db.hostPayments with refundOperations } }
  return operation

def requestedStatus : RefundStatus -> RefundOperationStatus
  | .succeeded => .providerConfirmed
  | .pending => .pending
  | .failed => .failed

/-- The write after the provider answered. -/
def storeRefundResult (operationId : Id) (result : RefundProviderResult) (moment : Moment) :
    Tx Db Unit := do
  let db <- get
  let _ <- Transaction.orFail .recordNotFound
    (db.hostPayments.refundOperations.lookup (.id operationId))
  let refundOperations <- Transaction.orFail .uniqueViolation
    (db.hostPayments.refundOperations.amend (fun row => row.id = operationId)
      (fun row => { row with
        externalRefundId := some result.externalId
        status := requestedStatus result.status
        completedAt := if result.status = .failed then some moment.now else none
        lastErrorCode := if result.status = .failed then some .refundNotAllowed else none }))
  set { db with hostPayments := { db.hostPayments with refundOperations } }

/-- Opening a refund finds an operation or inserts one in state `requested`. -/
theorem openRefundOperation_commits {provider : String} {operationId : Id} {request : RefundRequest}
    {before after : Db} {result : RefundOperation}
    (commits : (openRefundOperation provider operationId request).Commits before result after) :
    after = before ∨
    (before.hostPayments.refundOperations.insert result = some after.hostPayments.refundOperations ∧
      result.status = .requested ∧ result.externalRefundId = none ∧
      after = { before with
        hostPayments := { before.hostPayments with
          refundOperations := after.hostPayments.refundOperations } }) := by
  unfold openRefundOperation at commits
  rw [Transaction.commits_get_bind] at commits
  split at commits
  case h_2 => exact absurd commits Transaction.not_commits_throw
  split at commits
  case h_2 => exact absurd commits Transaction.not_commits_throw
  rcases Transaction.commits_ite.mp commits with ⟨_, commits⟩ | ⟨_, commits⟩
  · simp only [Transaction.commits_bind, Transaction.not_commits_throw, false_and,
      exists_false] at commits
  split at commits
  · rcases Transaction.commits_pure.mp commits with ⟨_, rfl⟩
    exact Or.inl rfl
  · simp only [Transaction.commits_bind, Transaction.commits_orFail, Transaction.commits_set,
      Transaction.commits_pure] at commits
    rcases commits with ⟨refundOperations, _, ⟨inserted, rfl⟩, _, _, rfl, rfl, rfl⟩
    exact Or.inr ⟨inserted, rfl, rfl, rfl⟩

/-- Storing the provider's answer writes one operation. -/
theorem storeRefundResult_commits {operationId : Id} {result : RefundProviderResult} {moment : Moment}
    {before after : Db} {answer : Unit}
    (commits : (storeRefundResult operationId result moment).Commits before answer after) :
    before.hostPayments.refundOperations.amend (fun row => row.id = operationId)
      (fun row => { row with
        externalRefundId := some result.externalId
        status := requestedStatus result.status
        completedAt := if result.status = .failed then some moment.now else none
        lastErrorCode := if result.status = .failed then some .refundNotAllowed else none }) =
      some after.hostPayments.refundOperations ∧
    after = { before with
      hostPayments := { before.hostPayments with
        refundOperations := after.hostPayments.refundOperations } } := by
  unfold storeRefundResult at commits
  simp only [Transaction.commits_bind, Transaction.commits_get, Transaction.commits_orFail,
    Transaction.commits_set] at commits
  rcases commits with ⟨_, _, ⟨rfl, rfl⟩, _, _, ⟨_, rfl⟩, refundOperations, _, ⟨amended, rfl⟩, rfl⟩
  exact ⟨amended, rfl⟩

/-- The write after the provider could not be reached. -/
def failRefundOperation (operationId : Id) (code : PaymentErrorCode) (moment : Moment)
    (store : HostPaymentsStore) : HostPaymentsStore :=
  { store with
    refundOperations := store.refundOperations.update (fun row => row.id = operationId)
      (fun row => { row with
        status := .failed, lastErrorCode := some code, completedAt := some moment.now }) }

end Payments
end DigitalSolutions

import DigitalSolutions.Persistence.Stores

namespace DigitalSolutions
namespace Commerce

open Foundation Persistence

/-!
# Settlement of an order

The `settle` port of `createCommerceRepository`.  A settlement looks at the
order, its invoice and its offer redemption under the row lock of the order,
and accepts an order that is pending, already paid, or cancelled locally
before the payment arrived.  It writes at most these three rows.
-/

structure SettleInput where
  orderId : Id
  expectedAmountMinor : Int
  expectedCurrency : String
  settledAt : Time
  deriving DecidableEq

inductive SettleRejection
  | orderNotFound | settlementMismatch | orderNotSettleable
  deriving DecidableEq

inductive SettlementDisposition
  | standard | afterLocalCancellation
  deriving DecidableEq

structure SettledItem where
  orderItemId : Id
  productId : Id
  editionId : Option Id
  purchasePlanId : Option Id
  quantity : Nat
  entitlementSnapshot : Json
  policySnapshot : PolicySnapshot
  deriving DecidableEq

def settledItem (item : OrderItem) : SettledItem where
  orderItemId := item.id
  productId := item.productId
  editionId := item.editionId
  purchasePlanId := item.purchasePlanId
  quantity := item.quantity
  entitlementSnapshot := item.entitlementSnapshot
  policySnapshot := item.policySnapshot

structure SettledOrder where
  orderId : Id
  invoiceId : Id
  accountId : Id
  amountMinor : Int
  currency : String
  orderStatus : OrderStatus
  invoiceStatus : InvoiceStatus
  settlementDisposition : SettlementDisposition
  fulfillmentMode : FulfillmentMode
  fulfillmentSnapshot : Json
  items : List SettledItem
  deriving DecidableEq

inductive SettleResult
  | rejected (code : SettleRejection)
  | settled (value : SettledOrder)
  deriving DecidableEq

/-- `include: { items: true }`. -/
def itemsOf (store : CommerceStore) (orderId : Id) : List OrderItem :=
  store.orderItems.select (fun item => item.orderId = orderId)

/-- The redemption was released when the order was cancelled locally, and the
late payment takes it back. -/
def releasedAfterLocalCancellation (order : Order) (redemption : Option OfferRedemption) : Bool :=
  order.status = .cancelled && redemption.map OfferRedemption.status = some .released

/-- The order still waits for its money. -/
def awaitsPayment (order : Order) : Bool := order.status = .pending || order.status = .cancelled

/-- Whether the invoice agrees with the order so far. -/
def invoiceFits (order : Order) (invoice : Invoice) : Bool :=
  !((awaitsPayment order && invoice.status ≠ .draft) || (order.status = .paid && invoice.status ≠ .final))

/-- Whether the redemption, if the order has one, can still be applied. -/
def redemptionFits (order : Order) (redemption : Option OfferRedemption) : Bool :=
  match redemption with
  | none => true
  | some row => row.status = .reserved || row.status = .applied ||
      releasedAfterLocalCancellation order redemption

/-- Whether the settlement has to apply the redemption. -/
def appliesRedemption (order : Order) (redemption : Option OfferRedemption) : Bool :=
  redemption.map OfferRedemption.status = some .reserved ||
    releasedAfterLocalCancellation order redemption

def payOrder (order : Order) (settledAt : Time) (store : CommerceStore) : CommerceStore :=
  { store with
    orders := store.orders.update (fun row => row.id = order.id)
      (fun row => { row with status := .paid, paidAt := some settledAt }) }

def finaliseInvoice (invoice : Invoice) (settledAt : Time) (store : CommerceStore) : CommerceStore :=
  { store with
    invoices := store.invoices.update (fun row => row.id = invoice.id)
      (fun row => { row with status := .final, issuedAt := some settledAt }) }

def applyRedemption (redemption : Option OfferRedemption) (settledAt : Time)
    (store : CommerceStore) : CommerceStore :=
  { store with
    offerRedemptions := store.offerRedemptions.update
      (fun row => some row.id = redemption.map OfferRedemption.id)
      (fun row => { row with status := .applied, appliedAt := some settledAt }) }

def settledOrder (store : CommerceStore) (order : Order) (invoice : Invoice) : SettledOrder where
  orderId := order.id
  invoiceId := invoice.id
  accountId := order.accountId
  amountMinor := order.totalMinor
  currency := order.currency
  orderStatus := .paid
  invoiceStatus := .final
  settlementDisposition :=
    if order.status = .cancelled then .afterLocalCancellation else .standard
  fulfillmentMode := order.fulfillmentMode
  fulfillmentSnapshot := order.fulfillmentSnapshot
  items := (itemsOf store order.id).map settledItem

def settle (input : SettleInput) : Tx CommerceStore SettleResult := do
  let store <- get
  let some order := store.orders.lookup (.id input.orderId)
    | return .rejected .orderNotFound
  if order.totalMinor ≠ input.expectedAmountMinor ∨ order.currency ≠ input.expectedCurrency then
    return .rejected .settlementMismatch
  if order.status ≠ .pending ∧ order.status ≠ .paid ∧ order.status ≠ .cancelled then
    return .rejected .orderNotSettleable
  let some invoice := store.invoices.lookup (.orderId order.id)
    | throw (.message "COMMERCE_INVOICE_MISSING")
  if invoiceFits order invoice = false then
    return .rejected .orderNotSettleable
  let redemption := store.offerRedemptions.lookup (.orderId order.id)
  if redemptionFits order redemption = false then
    return .rejected .orderNotSettleable
  if awaitsPayment order then
    modify (payOrder order input.settledAt)
    modify (finaliseInvoice invoice input.settledAt)
  if appliesRedemption order redemption then
    modify (applyRedemption redemption input.settledAt)
  return .settled (settledOrder store order invoice)

/-- The rows a settlement leaves behind. -/
def settledStore (order : Order) (invoice : Invoice) (redemption : Option OfferRedemption)
    (settledAt : Time) (store : CommerceStore) : CommerceStore :=
  let paid :=
    if awaitsPayment order then finaliseInvoice invoice settledAt (payOrder order settledAt store)
    else store
  if appliesRedemption order redemption then applyRedemption redemption settledAt paid else paid

section SettledStore

variable {order : Order} {invoice : Invoice} {redemption : Option OfferRedemption} {settledAt : Time}
variable {store : CommerceStore}

theorem settledStore_orders :
    (settledStore order invoice redemption settledAt store).orders =
      if awaitsPayment order then (payOrder order settledAt store).orders else store.orders := by
  unfold settledStore
  by_cases waits : awaitsPayment order = true <;>
    by_cases applies : appliesRedemption order redemption = true <;>
      simp only [waits, applies, if_true, Bool.false_eq_true, if_false] <;> rfl

theorem settledStore_invoices :
    (settledStore order invoice redemption settledAt store).invoices =
      if awaitsPayment order then (finaliseInvoice invoice settledAt store).invoices
      else store.invoices := by
  unfold settledStore
  by_cases waits : awaitsPayment order = true <;>
    by_cases applies : appliesRedemption order redemption = true <;>
      simp only [waits, applies, if_true, Bool.false_eq_true, if_false] <;> rfl

theorem settledStore_offerRedemptions :
    (settledStore order invoice redemption settledAt store).offerRedemptions =
      if appliesRedemption order redemption then
        (applyRedemption redemption settledAt store).offerRedemptions
      else store.offerRedemptions := by
  unfold settledStore
  by_cases waits : awaitsPayment order = true <;>
    by_cases applies : appliesRedemption order redemption = true <;>
      simp only [waits, applies, if_true, Bool.false_eq_true, if_false] <;> rfl

end SettledStore

/-- What a settlement looked at before it accepted an order. -/
structure Settleable (store : CommerceStore) (input : SettleInput) (order : Order)
    (invoice : Invoice) : Prop where
  found : store.orders.lookup (.id input.orderId) = some order
  amount : order.totalMinor = input.expectedAmountMinor
  currency : order.currency = input.expectedCurrency
  status : order.status = .pending ∨ order.status = .paid ∨ order.status = .cancelled
  invoiced : store.invoices.lookup (.orderId order.id) = some invoice
  invoiceFits : invoiceFits order invoice = true
  redemptionFits : redemptionFits order (store.offerRedemptions.lookup (.orderId order.id)) = true

private theorem settle_writes {order : Order} {invoice : Invoice}
    {redemption : Option OfferRedemption} {settledAt : Time} {value : SettleResult}
    {before after : CommerceStore} {result : SettleResult}
    (commits : (do
      if awaitsPayment order then
        modify (payOrder order settledAt)
        modify (finaliseInvoice invoice settledAt)
      if appliesRedemption order redemption then
        modify (applyRedemption redemption settledAt)
      return value : Tx CommerceStore SettleResult).Commits before result after) :
    result = value ∧ after = settledStore order invoice redemption settledAt before := by
  unfold settledStore
  by_cases waits : awaitsPayment order = true
  · by_cases applies : appliesRedemption order redemption = true
    · simp only [waits, applies, if_true, Transaction.commits_bind, Transaction.commits_modify,
        Transaction.commits_pure, exists_eq_left', exists_const] at commits
      exact ⟨commits.1.symm, by simp only [waits, applies, if_true, commits.2]⟩
    · simp only [waits, applies, if_true, Bool.false_eq_true, if_false, Transaction.commits_bind,
        Transaction.commits_modify, Transaction.commits_pure, exists_eq_left', exists_const] at commits
      exact ⟨commits.1.symm, by
        simp only [waits, applies, if_true, Bool.false_eq_true, if_false, commits.2]⟩
  · by_cases applies : appliesRedemption order redemption = true
    · simp only [waits, applies, if_true, Bool.false_eq_true, if_false, Transaction.commits_bind,
        Transaction.commits_modify, Transaction.commits_pure, exists_eq_left', exists_const] at commits
      exact ⟨commits.1.symm, by
        simp only [waits, applies, if_true, Bool.false_eq_true, if_false, commits.2]⟩
    · simp only [waits, applies, Bool.false_eq_true, if_false, Transaction.commits_pure] at commits
      exact ⟨commits.1.symm, by
        simp only [waits, applies, Bool.false_eq_true, if_false, commits.2]⟩

/-- A settlement either rejects and writes nothing, or has seen a settleable
order and leaves exactly `settledStore`. -/
theorem settle_commits {input : SettleInput} {before after : CommerceStore} {result : SettleResult}
    (commits : (settle input).Commits before result after) :
    (Exists fun code => result = .rejected code ∧ after = before) ∨
    (Exists fun order => Exists fun invoice => Settleable before input order invoice ∧
      result = .settled (settledOrder before order invoice) ∧
      after = settledStore order invoice (before.offerRedemptions.lookup (.orderId order.id))
        input.settledAt before) := by
  have rejects : forall code, (pure (.rejected code) : Tx CommerceStore SettleResult).Commits
      before result after -> Exists fun code => result = .rejected code ∧ after = before := by
    intro code rejected
    rw [Transaction.commits_pure] at rejected
    exact ⟨code, rejected.1.symm, rejected.2.symm⟩
  unfold settle at commits
  rw [Transaction.commits_get_bind] at commits
  split at commits
  case h_2 => exact Or.inl (rejects _ commits)
  case h_1 order found =>
    rcases Transaction.commits_ite.mp commits with ⟨_, rejected⟩ | ⟨expected, commits⟩
    · exact Or.inl (rejects _ rejected)
    rcases Transaction.commits_ite.mp commits with ⟨_, rejected⟩ | ⟨status, commits⟩
    · exact Or.inl (rejects _ rejected)
    split at commits
    case h_2 => exact absurd commits Transaction.not_commits_throw
    case h_1 invoice invoiced =>
      rcases Transaction.commits_ite.mp commits with ⟨_, rejected⟩ | ⟨invoiceFits, commits⟩
      · exact Or.inl (rejects _ rejected)
      rcases Transaction.commits_ite.mp commits with ⟨_, rejected⟩ | ⟨redemptionFits, commits⟩
      · exact Or.inl (rejects _ rejected)
      have writes := settle_writes commits
      have settleable : Settleable before input order invoice :=
        { found
          amount := by tauto
          currency := by tauto
          status := by tauto
          invoiced
          invoiceFits := by simpa using invoiceFits
          redemptionFits := by simpa using redemptionFits }
      exact Or.inr ⟨order, invoice, settleable, writes.1, writes.2⟩

end Commerce
end DigitalSolutions

import DigitalSolutions.Commerce.Settlement

namespace DigitalSolutions
namespace Commerce

open Foundation Persistence

/-!
# The rows a checkout creates

The commerce package persists a checkout as a pending order with its items, a
draft invoice and, when an offer was taken, a reserved redemption.  The shape
is part of the type, so a state in which a checkout created anything else
cannot be reached.
-/

structure CheckoutRows where
  order : Order
  items : List OrderItem
  invoice : Invoice
  redemption : Option OfferRedemption
  order_pending : order.status = .pending
  items_nonempty : items ≠ []
  items_of_order : forall item, item ∈ items -> item.orderId = order.id
  invoice_of_order : invoice.orderId = order.id
  invoice_draft : invoice.status = .draft
  redemption_of_order : forall row, redemption = some row -> row.orderId = order.id
  redemption_reserved : forall row, redemption = some row -> row.status = .reserved
  reserved_after_creation : forall row, redemption = some row -> order.createdAt ≤ row.reservedAt
  /-- A gift never renews: the checkout route passes no subscription for it. -/
  gift_renews_nothing : order.fulfillmentMode = .claimCode -> order.renewalSubscriptionId = none

def insertItems : List OrderItem -> Table OrderItem -> Option (Table OrderItem)
  | [], table => some table
  | item :: rest, table => do
    let inserted <- table.insert item
    insertItems rest inserted

def insertRedemption (redemption : Option OfferRedemption) (table : Table OfferRedemption) :
    Option (Table OfferRedemption) :=
  match redemption with
  | none => some table
  | some row => table.insert row

def createPendingOrder (rows : CheckoutRows) : Tx CommerceStore Unit := do
  let store <- get
  let orders <- Transaction.orFail .uniqueViolation (store.orders.insert rows.order)
  let orderItems <- Transaction.orFail .uniqueViolation (insertItems rows.items store.orderItems)
  let invoices <- Transaction.orFail .uniqueViolation (store.invoices.insert rows.invoice)
  let offerRedemptions <- Transaction.orFail .uniqueViolation
    (insertRedemption rows.redemption store.offerRedemptions)
  set { store with orders, orderItems, invoices, offerRedemptions }

/-- A committed checkout has inserted exactly its rows. -/
structure Created (rows : CheckoutRows) (before after : CommerceStore) : Prop where
  orders : before.orders.insert rows.order = some after.orders
  orderItems : insertItems rows.items before.orderItems = some after.orderItems
  invoices : before.invoices.insert rows.invoice = some after.invoices
  offerRedemptions :
    insertRedemption rows.redemption before.offerRedemptions = some after.offerRedemptions
  prices : after.prices = before.prices

theorem createPendingOrder_commits {rows : CheckoutRows} {before after : CommerceStore} {answer : Unit}
    (commits : (createPendingOrder rows).Commits before answer after) : Created rows before after := by
  unfold createPendingOrder at commits
  simp only [Transaction.commits_bind, Transaction.commits_get, Transaction.commits_orFail,
    Transaction.commits_set] at commits
  rcases commits with ⟨_, _, ⟨rfl, rfl⟩, orders, _, ⟨ordersDone, rfl⟩, items, _, ⟨itemsDone, rfl⟩,
    invoices, _, ⟨invoicesDone, rfl⟩, redemptions, _, ⟨redemptionsDone, rfl⟩, rfl⟩
  exact ⟨ordersDone, itemsDone, invoicesDone, redemptionsDone, rfl⟩

theorem mem_insertItems {items : List OrderItem} {before after : Table OrderItem}
    (done : insertItems items before = some after) (item : OrderItem) :
    item ∈ after ↔ item ∈ before ∨ item ∈ items := by
  induction items generalizing before with
  | nil =>
    simp only [insertItems, Option.some.injEq] at done
    simp only [done, List.not_mem_nil, or_false]
  | cons head rest inductionHypothesis =>
    simp only [insertItems, Option.bind_eq_bind, Option.bind_eq_some_iff] at done
    rcases done with ⟨middle, inserted, later⟩
    rw [inductionHypothesis later, Table.mem_insert inserted, List.mem_cons, or_assoc]

end Commerce
end DigitalSolutions

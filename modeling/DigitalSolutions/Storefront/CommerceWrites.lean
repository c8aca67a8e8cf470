import DigitalSolutions.Storefront.System

namespace DigitalSolutions
namespace Storefront

open Foundation Persistence Platform Commerce Entitlements Licensing Orders Payments Scheduler

/-!
# What a transaction does to the commerce tables

Of all transactions only five write an order, an invoice or a redemption:
checkout, settlement, cancellation, sweep and confirmed refund.  Every result
about orders is derived from this one inversion.
-/

/-- One write to the commerce tables, with the guard its code path checks. -/
inductive CommerceMove (before : CommerceStore) : CommerceStore -> Prop
  | create (rows : CheckoutRows) (after : CommerceStore) (created : Created rows before after) :
    CommerceMove before after
  | settle (input : SettleInput) (order : Order) (invoice : Invoice)
    (settleable : Settleable before input order invoice) :
    CommerceMove before (settledStore order invoice
      (before.offerRedemptions.lookup (.orderId order.id)) input.settledAt before)
  | cancel (order : Order) (found : before.orders.lookup (.id order.id) = some order)
    (pending : order.status = .pending) : CommerceMove before (cancelOrderRow order.id before)
  | sweep (cutoff now : Time) :
    CommerceMove before (releaseReservations cutoff now (abandonOrders cutoff before))
  | refund (order : Order) (found : before.orders.lookup (.id order.id) = some order)
    (paid : order.status = .paid) : CommerceMove before (refundCommerce order.id before)

abbrev CommerceMoves : CommerceStore -> CommerceStore -> Prop :=
  Relation.ReflTransGen (fun before after => CommerceMove before after)

variable {host : Host} {moment : Moment} {before after : Db}
variable {redemption : Option OfferRedemption} {answer : Unit} {settledAt : Time}
variable {order : Order} {invoice : Invoice}

theorem lookup_self {store : CommerceStore} {orderId : Id}
    (found : store.orders.lookup (.id orderId) = some order) :
    order.id = orderId ∧ store.orders.lookup (.id order.id) = some order := by
  have key := store.orders.lookup_key found
  have same : order.id = orderId := by simpa [Keyed.keys, eq_comm] using key
  exact ⟨same, same ▸ found⟩

/-- An order is determined by its identifier. -/
theorem order_of_id {table : Table Order} {left right : Order} (leftMember : left ∈ table)
    (rightMember : right ∈ table) (same : left.id = right.id) : left = right :=
  table.eq_of_common_key leftMember rightMember
    (by simp [Keyed.keys] : Order.Key.id left.id ∈ Keyed.keys left) (by simp [Keyed.keys, same])

/-- An action that drops its answer commits with the same effect. -/
theorem answers {Value : Type} {transaction : Tx Db Value}
    (commits : (do let _ <- transaction : Tx Db Unit).Commits before answer after) :
    Exists fun value => transaction.Commits before value after := by
  rw [Transaction.commits_bind] at commits
  rcases commits with ⟨value, _, done, commits⟩
  rcases Transaction.commits_pure.mp commits with ⟨_, rfl⟩
  exact ⟨value, done⟩

theorem restoreOwnerEvent_commits {webhookId : Id}
    (commits : (restoreOwnerEvent webhookId).Commits before answer after) :
    Exists fun webhook => Exists fun event => Exists fun payments =>
      before.webhookEvents.lookup (.id webhookId) = some webhook ∧
      (ownerEventForStoredWebhook webhook).Commits before.payments event payments ∧
      after = { before with payments } := by
  unfold restoreOwnerEvent at commits
  simp only [Transaction.commits_bind, Transaction.commits_get, Transaction.commits_orFail,
    Transaction.commits_within, Transaction.commits_pure] at commits
  rcases commits with ⟨_, _, ⟨rfl, rfl⟩, webhook, _, ⟨found, rfl⟩, event, _, ⟨payments, restored, rfl⟩,
    _, rfl⟩
  exact ⟨webhook, event, payments, found, restored, rfl⟩

/-- A settlement reaction settles through its port, however often it does. -/
private theorem reaction_commerce {providerEventRecordId : Id} {expectedLivemode : Bool}
    {value : PaidSettlement}
    (commits : (reactToPaidSettlement host moment providerEventRecordId expectedLivemode).Commits
      before value after) : CommerceMoves before.commerce after.commerce := by
  rcases reactToPaidSettlement_split commits with ⟨fact, payments, resolvedOrder, _, _, reacted⟩
  have everyPort : forall port before answer after,
      (commercePorts host moment fact resolvedOrder.id port).Commits before answer after ->
      CommerceMoves before.commerce after.commerce := by
    intro port before answer after called
    cases port with
    | reconcile =>
      rcases Transaction.commits_pure.mp called with ⟨_, rfl⟩
      exact Relation.ReflTransGen.refl
    | settle input =>
      rcases Transaction.commits_within.mp called with ⟨commerce, settled, rfl⟩
      rcases settle_commits settled with ⟨_, _, same⟩ | ⟨order, invoice, settleable, _, wrote⟩
      · rw [same]
        exact Relation.ReflTransGen.refl
      · rw [wrote]
        exact Relation.ReflTransGen.single (.settle input order invoice settleable)
    | grant input =>
      rcases Transaction.commits_map.mp called with ⟨_, granted, _⟩
      rcases Transaction.commits_within.mp granted with ⟨_, _, rfl⟩
      exact Relation.ReflTransGen.refl
    | issue input =>
      rcases Transaction.commits_within.mp called with ⟨_, _, rfl⟩
      exact Relation.ReflTransGen.refl
  have wholeReaction := Program.connect_related
    (fun before after : Db => CommerceMoves before.commerce after.commerce)
    (fun _ => Relation.ReflTransGen.refl) (fun _ _ _ left right => left.trans right) everyPort _ reacted
  exact wholeReaction

/-- An operational event refunds a paid order or leaves the orders alone. -/
theorem operational_commerce {event : VerifiedEvent} {resolved : OperationalOrder}
    (resolves : Resolves before event resolved)
    (branch : OperationalCommit host moment event resolved before after) :
    after.commerce = before.commerce ∨ CommerceMove before.commerce after.commerce := by
  cases branch with
  | failed _ _ hostPayments _ wrote => exact Or.inl (by rw [wrote])
  | failedLate _ _ wrote => exact Or.inl (by rw [wrote])
  | progress _ _ wrote => exact Or.inl (by rw [wrote])
  | refunded _ _ paid wrote =>
    rw [wrote.commerce]
    exact Or.inr (.refund resolved.order resolves.found paid)
  | repeated _ _ _ wrote => exact Or.inl (by rw [wrote])

theorem processStoredEvent_commits {providerEventRecordId : Id}
    (commits : (processStoredEvent host moment providerEventRecordId).Commits before answer after) :
    Exists fun row =>
      before.payments.providerEvents.lookup (.id providerEventRecordId) = some row ∧
      EventCommit host moment (snapshot row) before after := by
  unfold processStoredEvent at commits
  simp only [Transaction.commits_bind, Transaction.commits_get, Transaction.commits_orFail] at commits
  rcases commits with ⟨_, _, ⟨rfl, rfl⟩, row, _, ⟨found, rfl⟩, requests, _, processed, commits⟩
  rcases Transaction.commits_pure.mp commits with ⟨_, rfl⟩
  exact ⟨row, found, processVerifiedEvent_commits processed⟩

theorem event_commerce {event : VerifiedEvent} (commits : EventCommit host moment event before after) :
    CommerceMoves before.commerce after.commerce := by
  cases commits with
  | ignored _ webhookEvents wrote =>
    rw [wrote]
  | paid _ outcome processed branch webhookEvents wrote =>
    rcases processPaidEvent_commits branch with ⟨settlement, settled, order, hostPayments, paid⟩
    have settles := reaction_commerce paid.reacted
    rw [wrote]
    exact paid.commerce ▸ settles
  | operational _ resolved processed resolves branch webhookEvents wrote =>
    rw [wrote]
    rcases operational_commerce resolves branch with same | move
    · rw [same]
    · exact Relation.ReflTransGen.single move

/-- The transactions that only webhook handlers run. -/
def ofHandlers : HostTransaction -> Bool
  | .claimEvent .. | .noteConflict .. | .reopenDelivered .. | .restoreOwnerEvent .. | .reopenStored ..
  | .processVerifiedEvent .. | .recordFailure .. => true
  | _ => false

/-- What a committed transaction has run and written. -/
inductive HostWrite (host : Host) (before : Db) (transaction : HostTransaction) (after : Db) : Prop
  | created (rows : CheckoutRows) (commerce : CommerceStore)
    (created : Created rows before.commerce commerce) (wrote : after = { before with commerce })
  | attempted (checkoutAttempts : Table PaymentCheckoutAttempt)
    (wrote : after = { before with payments := { before.payments with checkoutAttempts } })
  | claimed (handlers : ofHandlers transaction = true) (moment : Moment) (input : ProviderEventClaim)
    (claimed : ProviderEventClaimResult) (operational : WebhookEvent)
    (claims : ClaimCommit moment input before claimed after operational)
  | restored (handlers : ofHandlers transaction = true) (webhook : WebhookEvent) (event : VerifiedEvent)
    (payments : PaymentsStore)
    (restores : (ownerEventForStoredWebhook webhook).Commits before.payments event payments)
    (wrote : after = { before with payments })
  | processed (handlers : ofHandlers transaction = true) (moment : Moment) (event : VerifiedEvent)
    (processes : EventCommit host moment event before after)
  | webhooks (handlers : ofHandlers transaction = true) (webhookEvents : Table WebhookEvent)
    (wrote : after = { before with webhookEvents })
  | cancelled (moment : Moment) (order : Order)
    (found : before.commerce.orders.lookup (.id order.id) = some order)
    (pending : order.status = .pending) (wrote : after = cancelWrites moment order.id before)
  | swept (now : Time) (wrote : after = commerceLifecycle now before)
  | paymentsOnly (wrote : after = { before with hostPayments := after.hostPayments })
  | revealed (moment : Moment) (claimCodeId purchaserAccountId : Id) (result : ClaimCodeRevealResult)
    (entitlements : EntitlementsStore)
    (reveals : (revealClaimCode host.environment moment claimCodeId purchaserAccountId).Commits
      before.entitlements result entitlements) (wrote : after = { before with entitlements })
  | consumed (moment : Moment) (input : ClaimCodeConsumeInput) (result : ClaimCodeConsumeResult)
    (consumes : ConsumeCommit host.licensing host.environment moment input before result after)
  | leased (moment : Moment) (request : CommercialLeaseRequest) (licensing : LicensingStore)
    (issued : (host.leases.issue moment request).Commits before.licensing () licensing)
    (wrote : after = { before with licensing })
  | deactivated (moment : Moment) (accountId licenseId deviceActivationId : Id)
    (wrote : after = { before with
      licensing := deactivateDevice moment accountId licenseId deviceActivationId before.licensing })

theorem commit_writes {transaction : HostTransaction}
    (commits : (commit host transaction).Commits before answer after) :
    HostWrite host before transaction after := by
  cases transaction with
  | createPendingOrder rows =>
    rcases Transaction.commits_within.mp commits with ⟨commerce, created, rfl⟩
    exact .created rows commerce (createPendingOrder_commits created) rfl
  | recordCheckoutAttempt attempt =>
    rcases Transaction.commits_within.mp commits with ⟨payments, recorded, rfl⟩
    unfold recordCheckoutAttempt at recorded
    simp only [Transaction.commits_bind, Transaction.commits_get, Transaction.commits_orFail,
      Transaction.commits_set] at recorded
    rcases recorded with ⟨_, _, ⟨rfl, rfl⟩, checkoutAttempts, _, ⟨_, rfl⟩, rfl⟩
    exact .attempted checkoutAttempts rfl
  | claimEvent moment input =>
    rcases answers commits with ⟨result, claimed⟩
    rcases claimEvent_commits claimed with ⟨operational, claims⟩
    exact .claimed rfl moment input result operational claims
  | noteConflict provider eventId => exact .webhooks rfl _ (Transaction.commits_modify.mp commits).symm
  | reopenDelivered moment webhookId => exact .webhooks rfl _ (Transaction.commits_modify.mp commits).symm
  | restoreOwnerEvent webhookId =>
    rcases restoreOwnerEvent_commits commits with ⟨webhook, event, payments, _, restores, wrote⟩
    exact .restored rfl webhook event payments restores wrote
  | reopenStored moment webhookId => exact .webhooks rfl _ (Transaction.commits_modify.mp commits).symm
  | processVerifiedEvent moment providerEventRecordId =>
    rcases processStoredEvent_commits commits with ⟨row, _, processes⟩
    exact .processed rfl moment (snapshot row) processes
  | recordFailure moment provider eventId code retryable =>
    rcases Transaction.commits_within.mp commits with ⟨webhookEvents, _, wrote⟩
    exact .webhooks rfl webhookEvents wrote.symm
  | cancelOrder moment orderId permits =>
    rcases cancelOrder_commits commits with ⟨⟨order, found, pending⟩, wrote⟩
    rcases lookup_self found with ⟨rfl, found⟩
    exact .cancelled moment order found pending wrote
  | cancelAgentPendingOrder moment orderId accountId =>
    rcases answers commits with ⟨result, cancelled⟩
    rcases cancelAgentPendingOrder_commits cancelled with ⟨_, rfl⟩ | ⟨_, ⟨order, found, pending⟩, wrote⟩
    · exact .paymentsOnly rfl
    · rcases lookup_self found with ⟨rfl, found⟩
      exact .cancelled moment order found pending wrote
  | commerceLifecycle now => exact .swept now (Transaction.commits_modify.mp commits).symm
  | reserveCheckout moment orderId permits =>
    rcases answers commits with ⟨result, reserved⟩
    cases reserveCheckout_commits reserved <;> exact .paymentsOnly rfl
  | storeCheckout orderId idempotencyKey checkout permits =>
    rcases answers commits with ⟨result, stored⟩
    exact .paymentsOnly (by rw [(storeCheckout_commits stored).2.2])
  | abandonReservation idempotencyKey =>
    exact .paymentsOnly (by rw [← Transaction.commits_modify.mp commits])
  | openRefundOperation operationId request =>
    rcases answers commits with ⟨result, opened⟩
    rcases openRefundOperation_commits opened with rfl | ⟨_, _, _, wrote⟩
    · exact .paymentsOnly rfl
    · exact .paymentsOnly (by rw [wrote])
  | storeRefundResult moment operationId result =>
    exact .paymentsOnly (by rw [(storeRefundResult_commits commits).2])
  | failRefundOperation moment operationId code =>
    exact .paymentsOnly (by rw [← Transaction.commits_modify.mp commits])
  | revealClaimCode moment claimCodeId purchaserAccountId =>
    rcases answers commits with ⟨result, revealed⟩
    rcases Transaction.commits_within.mp revealed with ⟨entitlements, reveals, wrote⟩
    exact .revealed moment claimCodeId purchaserAccountId result entitlements reveals wrote.symm
  | consumeClaimCode moment input =>
    rcases answers commits with ⟨result, consumed⟩
    exact .consumed moment input result (consumeClaimCode_commits consumed)
  | issueCommercialLease moment request =>
    rcases Transaction.commits_within.mp commits with ⟨licensing, issued, wrote⟩
    exact .leased moment request licensing issued wrote.symm
  | deactivateDevice moment accountId licenseId deviceActivationId =>
    exact .deactivated moment accountId licenseId deviceActivationId
      (Transaction.commits_modify.mp commits).symm

/-- The commerce tables after a committed transaction. -/
theorem commit_commerce {transaction : HostTransaction}
    (commits : (commit host transaction).Commits before answer after) :
    CommerceMoves before.commerce after.commerce := by
  have same : after.commerce = before.commerce -> CommerceMoves before.commerce after.commerce := by
    intro same
    rw [same]
  cases commit_writes commits with
  | created rows commerce created wrote =>
    rw [wrote]
    exact Relation.ReflTransGen.single (.create rows commerce created)
  | cancelled moment order found pending wrote =>
    rw [wrote]
    exact Relation.ReflTransGen.single (.cancel order found pending)
  | swept now wrote =>
    rw [wrote]
    exact Relation.ReflTransGen.single (.sweep (now - day) now)
  | processed _ moment event processes => exact event_commerce processes
  | consumed moment input result consumes => cases consumes <;> exact Relation.ReflTransGen.refl
  | claimed _ _ _ _ _ claims => exact same (by rw [claims.rest])
  | attempted _ wrote => exact same (by rw [wrote])
  | restored _ _ _ _ _ wrote => exact same (by rw [wrote])
  | webhooks _ _ wrote => exact same (by rw [wrote])
  | paymentsOnly wrote => exact same (by rw [wrote])
  | revealed _ _ _ _ _ _ wrote => exact same (by rw [wrote])
  | leased _ _ _ _ wrote => exact same (by rw [wrote])
  | deactivated _ _ _ _ wrote => exact same (by rw [wrote])

/-- The settled order is paid afterwards, whatever it was before. -/
theorem settledStore_paid {before : CommerceStore} {input : SettleInput}
    (settleable : Settleable before input order invoice) : Exists fun row =>
      (settledStore order invoice redemption input.settledAt before).orders.lookup (.id order.id) =
        some row ∧ row.status = .paid := by
  have found := (lookup_self settleable.found).2
  rw [settledStore_orders]
  by_cases waits : awaitsPayment order = true
  · refine ⟨{ order with status := .paid, paidAt := some input.settledAt }, ?_, rfl⟩
    rw [if_pos waits, Commerce.payOrder, Table.lookup_update, found]
    simp only [Option.map_some, decide_true, if_true]
  · refine ⟨order, by rw [if_neg waits, found], ?_⟩
    rcases settleable.status with pending | paid | cancelled
    · exact absurd (by simp [awaitsPayment, pending]) waits
    · exact paid
    · exact absurd (by simp [awaitsPayment, cancelled]) waits

/-! ## What never changes -/

/-- The terms of an order: all of it but its progress. -/
def orderTerms (order : Order) : Order := { order with status := .pending, paidAt := none }

def invoiceTerms (invoice : Invoice) : Invoice := { invoice with status := .draft, issuedAt := none }

def redemptionTerms (redemption : OfferRedemption) : OfferRedemption :=
  { redemption with status := .reserved, appliedAt := none, releasedAt := none }

/-- The later store holds the same purchases at other stages. -/
structure SamePurchases (before after : CommerceStore) : Prop where
  orders : Table.SameColumn orderTerms before.orders after.orders
  orderItems : after.orderItems = before.orderItems
  prices : after.prices = before.prices
  invoices : Table.SameColumn invoiceTerms before.invoices after.invoices
  offerRedemptions : Table.SameColumn redemptionTerms before.offerRedemptions after.offerRedemptions

theorem SamePurchases.refl (store : CommerceStore) : SamePurchases store store where
  orders := Table.SameColumn.refl _ _
  orderItems := rfl
  prices := rfl
  invoices := Table.SameColumn.refl _ _
  offerRedemptions := Table.SameColumn.refl _ _

theorem SamePurchases.trans {first second third : CommerceStore} (left : SamePurchases first second)
    (right : SamePurchases second third) : SamePurchases first third where
  orders := left.orders.trans right.orders
  orderItems := right.orderItems.trans left.orderItems
  prices := right.prices.trans left.prices
  invoices := left.invoices.trans right.invoices
  offerRedemptions := left.offerRedemptions.trans right.offerRedemptions

section SamePurchases

variable {store : CommerceStore}

private theorem samePurchases_payOrder :
    SamePurchases store (payOrder order settledAt store) :=
  { SamePurchases.refl store with orders := Table.sameColumn_update rfl (fun _ => rfl) }

private theorem samePurchases_finaliseInvoice :
    SamePurchases store (finaliseInvoice invoice settledAt store) :=
  { SamePurchases.refl store with invoices := Table.sameColumn_update rfl (fun _ => rfl) }

private theorem samePurchases_applyRedemption :
    SamePurchases store (applyRedemption redemption settledAt store) :=
  { SamePurchases.refl store with
    offerRedemptions := Table.sameColumn_update rfl (fun _ => rfl) }

theorem samePurchases_settledStore :
    SamePurchases store (settledStore order invoice redemption settledAt store) := by
  have paid : SamePurchases store (if awaitsPayment order then
      finaliseInvoice invoice settledAt (payOrder order settledAt store) else store) := by
    split
    · exact samePurchases_payOrder.trans samePurchases_finaliseInvoice
    · exact SamePurchases.refl store
  by_cases applies : appliesRedemption order redemption = true
  · simp only [settledStore, applies, if_true]
    exact paid.trans samePurchases_applyRedemption
  · simp only [settledStore, applies, Bool.false_eq_true, if_false]
    exact paid

theorem samePurchases_cancelOrderRow {orderId : Id} :
    SamePurchases store (cancelOrderRow orderId store) :=
  { SamePurchases.refl store with orders := Table.sameColumn_update rfl (fun _ => rfl) }

theorem samePurchases_sweep {cutoff now : Time} :
    SamePurchases store (releaseReservations cutoff now (abandonOrders cutoff store)) :=
  { SamePurchases.refl store with
    orders := Table.sameColumn_update rfl (fun _ => rfl)
    offerRedemptions := Table.sameColumn_update rfl (fun _ => rfl) }

theorem samePurchases_refundCommerce {orderId : Id} :
    SamePurchases store (refundCommerce orderId store) :=
  { SamePurchases.refl store with
    orders := Table.sameColumn_update rfl (fun _ => rfl)
    invoices := Table.sameColumn_update rfl (fun _ => rfl)
    offerRedemptions := Table.sameColumn_update rfl (fun _ => rfl) }

end SamePurchases

/-- Only a checkout adds rows, and nothing removes any. -/
theorem CommerceMove.purchases {before after : CommerceStore} (move : CommerceMove before after) :
    SamePurchases before after ∨ Exists fun rows => Created rows before after := by
  cases move with
  | create rows _ created => exact Or.inr ⟨rows, created⟩
  | settle => exact Or.inl samePurchases_settledStore
  | cancel => exact Or.inl samePurchases_cancelOrderRow
  | sweep => exact Or.inl samePurchases_sweep
  | refund => exact Or.inl samePurchases_refundCommerce

end Storefront
end DigitalSolutions

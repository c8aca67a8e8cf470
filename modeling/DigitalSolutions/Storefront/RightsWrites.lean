import DigitalSolutions.Licensing.Fulfillment
import DigitalSolutions.Storefront.CommerceWrites

namespace DigitalSolutions
namespace Storefront

open Foundation Persistence Platform Commerce Entitlements Licensing Orders Payments Scheduler

/-!
# What a transaction does to the rights

Rights are the grants, the claim codes, the licences, the subscriptions and
the devices.  Six kinds of transactions write them: a paid event, a confirmed
refund, a code that expires, a consumption, a lease and a device that is
deactivated.  Every other transaction also leaves alone the orders that have
been paid.
-/

/-! ## Orders that keep their status -/

/-- The order has been paid, and perhaps refunded since. -/
def wasPaid (order : Order) : Bool := order.status = .paid || order.status = .refunded

/-- Checkouts may be added and unpaid orders cancelled, and that is all. -/
structure OrdersAtRest (before after : CommerceStore) : Prop where
  purchases : SamePurchases before after ∨ Exists fun rows => Created rows before after
  settled : forall order, wasPaid order = true -> (order ∈ after.orders ↔ order ∈ before.orders)

theorem OrdersAtRest.same {before after : CommerceStore} (same : after = before) :
    OrdersAtRest before after := by
  rw [same]
  exact ⟨Or.inl (SamePurchases.refl before), fun _ _ => Iff.rfl⟩

/-- An update that cancels orders that were not paid. -/
private theorem settled_of_cancelled {table : Table Order} {where' : Order -> Bool}
    (unpaid : forall row, row ∈ table -> where' row = true -> row.status = .pending) (order : Order)
    (paid : wasPaid order = true) :
    order ∈ table.update where' (fun row => { row with status := .cancelled }) ↔ order ∈ table := by
  rw [Table.mem_update]
  constructor
  · rintro ⟨old, member, became⟩
    split at became
    · rw [← became] at paid
      cases paid
    · exact became ▸ member
  · intro member
    refine ⟨order, member, ?_⟩
    rw [if_neg]
    intro chosen
    rw [wasPaid, unpaid order member chosen] at paid
    cases paid

theorem ordersAtRest_created {rows : CheckoutRows} {before after : CommerceStore}
    (created : Created rows before after) : OrdersAtRest before after := by
  refine ⟨Or.inr ⟨rows, created⟩, fun order paid => ?_⟩
  rw [Table.mem_insert created.orders]
  constructor
  · rintro (old | rfl)
    · exact old
    · rw [wasPaid, rows.order_pending] at paid
      cases paid
  · exact Or.inl

theorem ordersAtRest_cancelled {orderId : Id} {order : Order} {store : CommerceStore}
    (found : store.orders.lookup (.id orderId) = some order) (pending : order.status = .pending) :
    OrdersAtRest store (cancelOrderRow orderId store) := by
  refine ⟨Or.inl samePurchases_cancelOrderRow, settled_of_cancelled ?_⟩
  intro row member chosen
  have sameRow : store.orders.lookup (.id orderId) = some row :=
    store.orders.lookup_of_mem member (by simpa [Keyed.keys, eq_comm] using chosen)
  rw [found, Option.some.injEq] at sameRow
  rw [← sameRow]
  exact pending

theorem ordersAtRest_sweep (cutoff now : Time) (store : CommerceStore) :
    OrdersAtRest store (releaseReservations cutoff now (abandonOrders cutoff store)) := by
  refine ⟨Or.inl samePurchases_sweep, settled_of_cancelled ?_⟩
  intro row _ chosen
  simp only [Bool.and_eq_true, decide_eq_true_eq] at chosen
  exact chosen.1

/-- A search that looks at a column finds the same as far as the column
shows. -/
private theorem find_of_sameColumn {column : Order -> Order} {first second : Table Order}
    (same : Table.SameColumn column first second) {chosen : Order -> Bool}
    (visible : forall row, chosen (column row) = chosen row) {order : Order}
    (found : first.rows.find? chosen = some order) : Exists fun later =>
      second.rows.find? chosen = some later ∧ column later = column order := by
  have through : forall rows : List Order,
      (rows.map column).find? chosen = (rows.find? chosen).map column := by
    intro rows
    rw [List.find?_map]
    congr 2
    funext row
    exact visible row
  have mapped := through second.rows
  rw [same, through first.rows, found, Option.map_some] at mapped
  rcases Option.map_eq_some_iff.mp mapped.symm with ⟨later, laterFound, sameColumn⟩
  exact ⟨later, laterFound, sameColumn⟩

/-- An order is found again by its reference. -/
theorem CommerceMove.resolved {before after : CommerceStore} (move : CommerceMove before after)
    {reference : String} {order : Order} (found : orderByReference before reference = some order) :
    Exists fun later => orderByReference after reference = some later ∧
      orderTerms later = orderTerms order := by
  rcases move.purchases with same | ⟨rows, created⟩
  · exact find_of_sameColumn same.orders (fun _ => rfl) found
  · refine ⟨order, ?_, rfl⟩
    unfold orderByReference at found ⊢
    rw [Table.rows_insert created.orders, List.find?_append, found]
    rfl

/-- An order that was paid never becomes unpaid. -/
theorem CommerceMove.wasPaid {before after : CommerceStore} (move : CommerceMove before after)
    {order later : Order} (member : order ∈ before.orders) (laterMember : later ∈ after.orders)
    (sameId : later.id = order.id) (paid : Storefront.wasPaid order = true) :
    Storefront.wasPaid later = true := by
  have sole : forall {row : Order}, row ∈ before.orders -> row.id = order.id -> row = order := by
    intro row rowMember rowId
    exact order_of_id rowMember member rowId
  cases move with
  | create rows _ created =>
    rcases (Table.mem_insert created.orders).mp laterMember with old | rfl
    · rw [sole old sameId]
      exact paid
    · have free := Table.lookup_eq_none_of_insert created.orders
        (by simp [Keyed.keys] : Order.Key.id rows.order.id ∈ Keyed.keys rows.order)
      exact absurd (by simp [Keyed.keys, sameId]) (before.orders.lookup_eq_none.mp free order member)
  | settle input settledOrder invoice settleable =>
    rw [settledStore_orders] at laterMember
    split at laterMember
    · rcases List.mem_map.mp laterMember with ⟨old, oldMember, became⟩
      split at became
      · rw [← became]
        rfl
      · rw [← became] at sameId ⊢
        rw [sole oldMember sameId]
        exact paid
    · rw [sole laterMember sameId]
      exact paid
  | cancel cancelled found pending =>
    have kept := (ordersAtRest_cancelled found pending).settled order paid
    rw [order_of_id laterMember (kept.mpr member) sameId]
    exact paid
  | sweep cutoff now =>
    have kept := (ordersAtRest_sweep cutoff now before).settled order paid
    rw [order_of_id laterMember (kept.mpr member) sameId]
    exact paid
  | refund refunded found paidOrder =>
    rcases List.mem_map.mp laterMember with ⟨old, oldMember, became⟩
    split at became
    · rw [← became]
      rfl
    · rw [← became] at sameId ⊢
      rw [sole oldMember sameId]
      exact paid

/-- An order is never removed. -/
theorem CommerceMove.order_later {before after : CommerceStore} (move : CommerceMove before after)
    {order : Order} (member : order ∈ before.orders) :
    Exists fun later => later ∈ after.orders ∧ later.id = order.id := by
  rcases move.purchases with same | ⟨rows, created⟩
  · rcases same.orders.after member with ⟨later, laterMember, sameTerms⟩
    exact ⟨later, laterMember, Table.eq_of_mask sameTerms (fun _ => rfl)⟩
  · exact ⟨order, (Table.mem_insert created.orders).mpr (Or.inl member), rfl⟩

theorem commerceMoves_resolved {before after : CommerceStore} (moves : CommerceMoves before after)
    {reference : String} {order : Order} (found : orderByReference before reference = some order)
    (paid : wasPaid order = true) : Exists fun later =>
      orderByReference after reference = some later ∧ orderTerms later = orderTerms order ∧
      wasPaid later = true := by
  induction moves with
  | refl => exact ⟨order, found, rfl, paid⟩
  | tail _ move inductionHypothesis =>
    rcases inductionHypothesis with ⟨middle, middleFound, sameMiddle, middlePaid⟩
    rcases move.resolved middleFound with ⟨later, laterFound, sameLater⟩
    have sameId : later.id = middle.id := Table.eq_of_mask sameLater (fun _ => rfl)
    exact ⟨later, laterFound, sameLater.trans sameMiddle,
      move.wasPaid (orderByReference_mem middleFound).1 (orderByReference_mem laterFound).1 sameId
        middlePaid⟩

/-! ## A paid event -/

variable {host : Host} {before after : Db}
variable {moment : Moment} {event : VerifiedEvent}

/-- Everything a committed paid event has done to rights. -/
structure PaidEffect (host : Host) (moment : Moment) (event : VerifiedEvent) (before after : Db)
    (row : PaymentProviderEvent) (value : PaidSettlement) (fact : PaymentSettlementFact) (order : Order)
    (invoice : Invoice) (settled : Db) (paidOrder : Order) : Prop where
  found : before.payments.providerEvents.lookup (.id event.providerEventRecordId) = some row
  reaction : PaidReaction host moment ⟨event.providerEventRecordId, host.environment.livemode⟩ before
    value settled row fact order invoice
  paid : settled.commerce.orders.lookup (.id order.id) = some paidOrder
  licensed : fulfillsLicensing value -> OrderFulfilled host.licensing host.environment
    settled.commerce moment ⟨none, none⟩ paidOrder before.licensing after.licensing
  unlicensed : ¬ fulfillsLicensing value -> after.licensing = before.licensing
  commerce : after.commerce = settled.commerce
  payments : after.payments = settled.payments
  entitlements : after.entitlements = settled.entitlements

theorem paidEffect_of_commits (lawful : host.Lawful) {outcome : BranchOutcome}
    (commits : (processPaidEvent host moment event).Commits before outcome after) :
    Exists fun row => Exists fun value => Exists fun fact => Exists fun order => Exists fun invoice =>
      Exists fun settled => Exists fun paidOrder =>
        outcome.orderId = order.id ∧
        PaidEffect host moment event before after row value fact order invoice settled paidOrder := by
  rcases processPaidEvent_commits commits with ⟨value, settled, paidOrder, hostPayments, paid⟩
  rcases reactToPaidSettlement_commits lawful paid.reacted with ⟨row, fact, order, invoice, reaction⟩
  have named : value.order.orderId = order.id := by rw [reaction.answers]; rfl
  have found := paid.found
  rw [named] at found
  have sameId : paidOrder.id = order.id := (lookup_self found).1
  refine ⟨row, value, fact, order, invoice, settled, paidOrder, paid.orderId.trans sameId, ?_⟩
  exact
    { found := reaction.found
      reaction
      paid := found
      licensed := by
        intro fulfills
        have licensed := paid.licensed fulfills
        rw [reaction.licensing] at licensed
        rcases fulfillOrderLicensing_commits lawful.licensing licensed with ⟨same, sameFound, fulfilled⟩
        rw [(lookup_self found).2, Option.some.injEq] at sameFound
        exact sameFound ▸ fulfilled
      unlicensed := fun skips => (paid.unlicensed skips).trans reaction.licensing
      commerce := paid.commerce
      payments := paid.payments
      entitlements := paid.entitlements }

section Settled

variable {row : PaymentProviderEvent} {value : PaidSettlement} {fact : PaymentSettlementFact} {unsettled : Order}
variable {invoice : Invoice} {settled : Db} {paidOrder : Order}

theorem PaidEffect.sameId
    (effect : PaidEffect host moment event before after row value fact unsettled invoice settled paidOrder) :
    paidOrder.id = unsettled.id := (lookup_self effect.paid).1

/-- The settled order afterwards: paid, on the same terms. -/
theorem PaidEffect.order
    (effect : PaidEffect host moment event before after row value fact unsettled invoice settled paidOrder) :
    unsettled ∈ before.commerce.orders ∧ paidOrder ∈ after.commerce.orders ∧ paidOrder.status = .paid ∧
      orderTerms paidOrder = orderTerms unsettled := by
  have settleable := effect.reaction.settleable
  have wrote := effect.reaction.commerce
  have paid := effect.paid
  rw [wrote] at paid
  rcases settledStore_paid settleable with ⟨stored, found, isPaid⟩
  rw [paid, Option.some.injEq] at found
  have member := before.commerce.orders.lookup_mem settleable.found
  refine ⟨member, ?_, found ▸ isPaid, ?_⟩
  · rw [effect.commerce, wrote]
    exact Table.lookup_mem _ paid
  · rcases samePurchases_settledStore.orders.after member with
      ⟨later, laterMember, sameTerms⟩
    have sameId : later.id = unsettled.id := Table.eq_of_mask sameTerms (fun _ => rfl)
    have laterFound := Table.lookup_of_mem _ laterMember
      (by simp [Keyed.keys, sameId] : Order.Key.id unsettled.id ∈ Keyed.keys later)
    rw [paid, Option.some.injEq] at laterFound
    rw [laterFound]
    exact sameTerms

end Settled

/-! ## Every transaction -/

/-- Everything a committed consumption has done. -/
structure Consumed (host : Host) (moment : Moment) (input : ClaimCodeConsumeInput) (before after : Db)
    (code : ClaimCode) (order : Order) : Prop where
  found : code ∈ before.entitlements.claimCodes
  available : code.state.status = .available
  current : pastExpiry moment.now code = false
  ordered : before.commerce.orders.lookup (.id code.orderId) = some order
  entitlements : before.entitlements.entitlements.insert (claimedEntitlement moment code input) =
    some after.entitlements.entitlements
  claimCodes : before.entitlements.claimCodes.amend
    (fun row => row.id = code.id && row.state.status = .available)
    (fun row => { row with
      state := .claimed moment.now input.userId input.accountId
        (moment.draw (.entitlementId (.claim code.id))) }) = some after.entitlements.claimCodes
  fulfilled : OrderFulfilled host.licensing host.environment before.commerce moment
    ⟨some input.accountId, some code.orderItemId⟩ order before.licensing after.licensing
  rest : after = { before with entitlements := after.entitlements, licensing := after.licensing }

/-- What a committed transaction did to the rights. -/
inductive Effect (host : Host) (before after : Db) : Prop
  | quiet (orders : OrdersAtRest before.commerce after.commerce)
    (facts : after.payments.settlementFacts = before.payments.settlementFacts)
    (entitlements : after.entitlements = before.entitlements)
    (licensing : after.licensing = before.licensing)
  | paid (moment : Moment) (event : VerifiedEvent) (row : PaymentProviderEvent) (value : PaidSettlement)
    (fact : PaymentSettlementFact) (order : Order) (invoice : Invoice) (settled : Db) (paidOrder : Order)
    (effect : PaidEffect host moment event before after row value fact order invoice settled paidOrder)
  | refunded (moment : Moment) (event : VerifiedEvent) (resolved : OperationalOrder)
    (resolves : Resolves before event resolved) (paid : resolved.order.status = .paid) (refunded : Db)
    (wrote : RefundCommit host moment event resolved before refunded) (webhookEvents : Table WebhookEvent)
    (rest : after = { refunded with webhookEvents })
  | expired (claimCodeId : Id)
    (wrote : after = { before with entitlements := expireCode claimCodeId before.entitlements })
  | consumed (moment : Moment) (input : ClaimCodeConsumeInput) (code : ClaimCode) (order : Order)
    (wrote : Consumed host moment input before after code order)
  | leased (moment : Moment) (request : CommercialLeaseRequest) (licensing : LicensingStore)
    (issued : (host.leases.issue moment request).Commits before.licensing () licensing)
    (wrote : after = { before with licensing })
  | deactivated (moment : Moment) (accountId licenseId deviceActivationId : Id)
    (wrote : after = { before with
      licensing := deactivateDevice moment accountId licenseId deviceActivationId before.licensing })

theorem Effect.unchanged (rest : after = { before with
    hostPayments := after.hostPayments, webhookEvents := after.webhookEvents }) :
    Effect host before after := by
  rw [rest]
  exact .quiet (OrdersAtRest.same rfl) rfl rfl rfl

theorem consumed_of_commit (lawful : host.Lawful) {input : ClaimCodeConsumeInput}
    {result : ClaimCodeConsumeResult}
    (commit : ConsumeCommit host.licensing host.environment moment input before result after) :
    Effect host before after := by
  cases commit with
  | rejected code => exact .unchanged rfl
  | expired claimCodeId => exact .expired claimCodeId rfl
  | claimed code codeHash hashed found codeCiphertext available current entitlements inserted requests
      licensing fulfilled claimed marked =>
    rcases fulfillOrderLicensing_commits lawful.licensing fulfilled with ⟨order, ordered, fulfilled⟩
    simp only [markClaimed, Option.bind_eq_bind, Option.bind_eq_some_iff, Option.pure_def,
      Option.some.injEq] at marked
    rcases marked with ⟨claimCodes, amended, rfl⟩
    exact .consumed moment input code order
      { found := before.entitlements.claimCodes.lookup_mem found
        available := by rw [available]; rfl
        current
        ordered
        entitlements := inserted
        claimCodes := amended
        fulfilled
        rest := rfl }

theorem effect_of_event (lawful : host.Lawful) (commits : EventCommit host moment event before after) :
    Effect host before after := by
  cases commits with
  | ignored _ webhookEvents wrote => exact .unchanged (by rw [wrote])
  | paid _ outcome processed branch webhookEvents wrote =>
    rcases paidEffect_of_commits lawful branch with
      ⟨row, value, fact, order, invoice, settled, paidOrder, _, effect⟩
    rw [wrote]
    exact .paid moment event row value fact order invoice settled paidOrder { effect with }
  | operational _ resolved processed resolves branch webhookEvents wrote =>
    cases branch with
    | failed _ _ hostPayments _ branch =>
      rw [wrote, branch]
      exact .quiet (OrdersAtRest.same rfl) rfl rfl rfl
    | failedLate _ _ branch => exact .unchanged (by rw [wrote, branch])
    | progress _ _ branch => exact .unchanged (by rw [wrote, branch])
    | refunded _ _ paid branch =>
      exact .refunded moment event resolved resolves paid processed branch webhookEvents wrote
    | repeated _ _ _ branch => exact .unchanged (by rw [wrote, branch])

/-- Every committed transaction is one of the six kinds, or leaves the rights
alone. -/
theorem commit_effect (lawful : host.Lawful) {transaction : HostTransaction}
    (commits : (commit host transaction).Commits before () after) : Effect host before after := by
  cases commit_writes commits with
  | created rows commerce created wrote =>
    rw [wrote]
    exact .quiet (ordersAtRest_created created) rfl rfl rfl
  | attempted checkoutAttempts wrote =>
    rw [wrote]
    exact .quiet (OrdersAtRest.same rfl) rfl rfl rfl
  | claimed _ moment input claimed operational claims =>
    rw [claims.rest]
    exact .quiet (OrdersAtRest.same rfl) rfl rfl rfl
  | restored _ webhook event payments restores wrote =>
    rw [wrote]
    rcases ownerEventForStoredWebhook_commits restores with ⟨_, _, _, rfl⟩ | ⟨_, _, _, _, _, rest⟩
    · exact .unchanged rfl
    · exact .quiet (OrdersAtRest.same rfl) (by rw [rest]) rfl rfl
  | processed _ moment event processes => exact effect_of_event lawful processes
  | webhooks _ webhookEvents wrote => exact .unchanged (by rw [wrote])
  | cancelled moment order found pending wrote =>
    rw [wrote]
    exact .quiet (ordersAtRest_cancelled found pending) rfl rfl rfl
  | swept now wrote =>
    rw [wrote]
    exact .quiet (ordersAtRest_sweep (now - day) now before.commerce) rfl rfl rfl
  | paymentsOnly wrote => exact .unchanged (by rw [wrote])
  | revealed moment claimCodeId purchaserAccountId result entitlements reveals wrote =>
    rcases revealClaimCode_commits reveals with same | ⟨codeId, same⟩
    · exact .unchanged (by rw [wrote, same])
    · exact .expired codeId (by rw [wrote, same])
  | consumed moment input result consumes => exact consumed_of_commit lawful consumes
  | leased moment request licensing issued wrote => exact .leased moment request licensing issued wrote
  | deactivated moment accountId licenseId deviceActivationId wrote =>
    exact .deactivated moment accountId licenseId deviceActivationId wrote

/-! ## Orders that have been paid -/

/-- No purchase is removed or rewritten. -/
theorem Effect.purchases (effect : Effect host before after) :
    SamePurchases before.commerce after.commerce ∨
      Exists fun rows => Created rows before.commerce after.commerce := by
  have unmoved : after.commerce = before.commerce -> SamePurchases before.commerce after.commerce := by
    intro same
    rw [same]
    exact SamePurchases.refl _
  cases effect with
  | quiet orders _ _ _ => exact orders.purchases
  | paid _ _ _ _ _ _ _ _ _ effect =>
    rw [effect.commerce, effect.reaction.commerce]
    exact Or.inl samePurchases_settledStore
  | refunded _ _ _ _ _ refunded wrote _ rest =>
    have commerce : after.commerce = refunded.commerce := by rw [rest]
    rw [commerce, wrote.commerce]
    exact Or.inl samePurchases_refundCommerce
  | expired _ wrote => exact Or.inl (unmoved (by rw [wrote]))
  | consumed _ _ _ _ wrote => exact Or.inl (unmoved (by rw [wrote.rest]))
  | leased _ _ _ _ wrote => exact Or.inl (unmoved (by rw [wrote]))
  | deactivated _ _ _ _ wrote => exact Or.inl (unmoved (by rw [wrote]))

/-- Where an order that has been paid comes from. -/
inductive PaidOrigin (host : Host) (before after : Db) (order : Order) : Prop
  | kept (member : order ∈ before.commerce.orders)
  | settled (moment : Moment) (event : VerifiedEvent) (row : PaymentProviderEvent) (value : PaidSettlement)
    (fact : PaymentSettlementFact) (unsettled : Order) (invoice : Invoice) (settled : Db)
    (effect : PaidEffect host moment event before after row value fact unsettled invoice settled order)
  | refunded (moment : Moment) (event : VerifiedEvent) (resolved : OperationalOrder) (refunded : Db)
    (member : resolved.order ∈ before.commerce.orders) (paid : resolved.order.status = .paid)
    (wrote : RefundCommit host moment event resolved before refunded) (webhookEvents : Table WebhookEvent)
    (rest : after = { refunded with webhookEvents })
    (became : { resolved.order with status := .refunded } = order)

theorem Effect.origin (effect : Effect host before after) {order : Order}
    (member : order ∈ after.commerce.orders) (paid : Storefront.wasPaid order = true) :
    PaidOrigin host before after order := by
  have unmoved : after.commerce = before.commerce -> PaidOrigin host before after order :=
    fun same => .kept (same ▸ member)
  cases effect with
  | quiet orders _ _ _ => exact .kept ((orders.settled order paid).mp member)
  | paid moment event row value fact unsettled invoice settled paidOrder effect =>
    by_cases same : order.id = paidOrder.id
    · have isPaid := order_of_id member effect.order.2.1 same
      subst isPaid
      exact .settled moment event row value fact unsettled invoice settled effect
    · rw [effect.commerce, effect.reaction.commerce, settledStore_orders] at member
      split at member
      · rcases List.mem_map.mp member with ⟨old, oldMember, became⟩
        split at became
        · rename_i chosen
          rw [← became, effect.sameId] at same
          exact absurd (of_decide_eq_true chosen) same
        · exact .kept (became ▸ oldMember)
      · exact .kept member
  | refunded moment event resolved resolves paidBefore refunded wrote webhookEvents rest =>
    have found := Table.lookup_mem _ resolves.found
    have commerce : after.commerce = refundCommerce resolved.order.id before.commerce := by
      rw [rest]
      exact wrote.commerce
    rw [commerce] at member
    rcases List.mem_map.mp member with ⟨old, oldMember, became⟩
    split at became
    · rename_i chosen
      rw [order_of_id oldMember found (of_decide_eq_true chosen)] at became
      exact .refunded moment event resolved refunded found paidBefore wrote webhookEvents rest became
    · exact .kept (became ▸ oldMember)
  | expired _ wrote => exact unmoved (by rw [wrote])
  | consumed _ _ _ _ wrote => exact unmoved (by rw [wrote.rest])
  | leased _ _ _ _ wrote => exact unmoved (by rw [wrote])
  | deactivated _ _ _ _ wrote => exact unmoved (by rw [wrote])

/-! ## Rights are never removed -/

/-- Everything that stands for a right is still there. -/
structure RightsGrow (before after : Db) : Prop where
  entitlements : EntitlementsGrow before.entitlements after.entitlements
  licensing : LicensingGrows before.licensing after.licensing

theorem RightsGrow.of_same (entitlements : after.entitlements = before.entitlements)
    (licensing : after.licensing = before.licensing) : RightsGrow before after := by
  constructor
  · rw [entitlements]
    exact EntitlementsGrow.refl _
  · rw [licensing]
    exact LicensingGrows.refl _

private theorem revokeLicensing_grows (order : Order) (now : Time) (store : LicensingStore) :
    LicensingGrows store (revokeLicensing order now store) := by
  constructor
  · exact Table.SameColumn.grows (Table.sameColumn_update rfl (fun _ => rfl))
  · exact Table.SameColumn.grows (Table.sameColumn_update rfl (fun _ => rfl))

theorem revokeCodes_grows (orderId : Id) (revokedAt : Time) (store : EntitlementsStore) :
    EntitlementsGrow store (revokeCodes orderId revokedAt store) := by
  refine ⟨Table.Grows.refl _ _, ?_⟩
  exact Table.SameColumn.grows (Table.sameColumn_update rfl (fun _ => rfl))

/-- What a confirmed refund did to the rights and codes of its order. -/
theorem entitlements_of_refund (lawful : host.Lawful) {resolved : OperationalOrder}
    (wrote : RefundCommit host moment event resolved before after) :
    OnlyRevoked (revokeCodes resolved.order.id event.occurredAt before.entitlements)
      after.entitlements ∧
    (resolved.order.fulfillmentMode = .accountEntitlement ->
      forall row, row ∈ after.entitlements.entitlements ->
      forall item, item ∈ itemsOf before.commerce resolved.order.id ->
        row.sourceReference = .commerce resolved.order.id item.id -> row.state ≠ .active) := by
  by_cases account : resolved.order.fulfillmentMode = .accountEntitlement
  · rcases wrote.revokedRights account with ⟨count, revoked⟩
    have revocation := revokeOrderEntitlements_commits lawful.entitlements revoked
    exact ⟨revocation.1, fun _ => revocation.2⟩
  · have kept := wrote.keptRights account
    rw [kept]
    exact ⟨OnlyRevoked.refl _, fun gift => absurd gift account⟩

theorem Effect.grows (lawful : host.Lawful) (effect : Effect host before after) :
    RightsGrow before after := by
  cases effect with
  | quiet _ _ entitlements licensing => exact .of_same entitlements licensing
  | paid moment event row value fact order invoice settled paidOrder effect =>
    constructor
    · rw [effect.entitlements]
      exact effect.reaction.fulfilled.related EntitlementsGrow EntitlementsGrow.refl
        (fun _ _ _ left right => left.trans right) (fun _ _ _ _ answer => answer.grows)
    · by_cases fulfills : fulfillsLicensing value
      · exact (effect.licensed fulfills).grows
      · rw [effect.unlicensed fulfills]
        exact LicensingGrows.refl _
  | refunded moment event resolved _ _ refunded wrote webhookEvents rest =>
    rw [rest]
    constructor
    · have revoked := (entitlements_of_refund lawful wrote).1
      refine (revokeCodes_grows _ _ _).trans ⟨revoked.terms.grows, ?_⟩
      rw [revoked.claimCodes]
      exact Table.Grows.refl _ _
    · change LicensingGrows before.licensing refunded.licensing
      rw [wrote.licensing]
      exact revokeLicensing_grows _ _ _
  | expired claimCodeId wrote =>
    rw [wrote]
    refine ⟨⟨Table.Grows.refl _ _, ?_⟩, LicensingGrows.refl _⟩
    exact Table.SameColumn.grows (Table.sameColumn_update rfl (fun _ => rfl))
  | consumed moment input code order wrote =>
    refine ⟨⟨Table.grows_insert wrote.entitlements, ?_⟩, wrote.fulfilled.grows⟩
    intro old member
    refine ⟨_, (Table.mem_amend _ wrote.claimCodes).mpr ⟨old, member, rfl⟩, ?_⟩
    split
    · rfl
    · rfl
  | leased moment request licensing issued wrote =>
    rw [wrote]
    refine ⟨EntitlementsGrow.refl _, ?_, ?_⟩
    · change Table.Grows licenseTerms before.licensing.licenses licensing.licenses
      rw [lawful.leases.licenses _ _ _ _ _ issued]
      exact Table.Grows.refl _ _
    · change Table.Grows subscriptionTerms before.licensing.subscriptions licensing.subscriptions
      rw [lawful.leases.subscriptions _ _ _ _ _ issued]
      exact Table.Grows.refl _ _
  | deactivated moment accountId licenseId deviceActivationId wrote =>
    rw [wrote]
    exact ⟨EntitlementsGrow.refl _, Table.Grows.refl _ _, Table.Grows.refl _ _⟩

end Storefront
end DigitalSolutions

import DigitalSolutions.Storefront.Reference
import DigitalSolutions.Storefront.RightsWrites

namespace DigitalSolutions
namespace Storefront

open Foundation Persistence Platform Commerce Entitlements Licensing Orders Payments

/-!
# The licensing effect of an order

Once an order has been paid, every right it stands for has a row, and that row
turns a repetition away.  The one exception is the extension of a renewed
subscription, which leaves no row of its own: only the settlement fact turns a
repetition away, and a second payment brings a fact of its own.
-/

variable {host : Host} {before after : Db}

/-- Every right that the order stands for has its row. -/
structure Fulfilled (db : Db) (order : Order) : Prop where
  answered : forall item, item ∈ itemsOf db.commerce order.id ->
    Answered order.fulfillmentMode order.id item.id db.entitlements
  licensed : order.fulfillmentMode = .accountEntitlement ->
    forall item, item ∈ itemsOf db.commerce order.id -> renewsItem order item = false ->
      Licensed item db.licensing

/-- What every reachable state satisfies. -/
structure Settled (db : Db) : Prop where
  facts : forall fact, fact ∈ db.payments.settlementFacts -> Exists fun order =>
    orderByReference db.commerce fact.commercialReference = some order ∧ wasPaid order = true
  fulfilled : forall order, order ∈ db.commerce.orders -> wasPaid order = true -> Fulfilled db order

/-! ## Items and orders that stay -/

theorem mem_itemsOf {store : CommerceStore} {orderId : Id} {item : OrderItem} :
    item ∈ itemsOf store orderId ↔ item ∈ store.orderItems ∧ item.orderId = orderId := by
  rw [itemsOf, Table.mem_select, decide_eq_true_eq]

/-- The items of an order that exists do not change. -/
theorem itemsOf_of_purchases {before after : CommerceStore}
    (purchases : SamePurchases before after ∨ Exists fun rows => Created rows before after)
    {order : Order} (member : order ∈ before.orders) {item : OrderItem} :
    item ∈ itemsOf after order.id ↔ item ∈ itemsOf before order.id := by
  rw [mem_itemsOf, mem_itemsOf]
  rcases purchases with same | ⟨rows, created⟩
  · rw [same.orderItems]
  · rw [mem_insertItems created.orderItems]
    constructor
    · rintro ⟨old | new, ofOrder⟩
      · exact ⟨old, ofOrder⟩
      · have free := Table.lookup_eq_none_of_insert created.orders
          (by simp [Keyed.keys] : Order.Key.id rows.order.id ∈ Keyed.keys rows.order)
        have sameId : order.id = rows.order.id := ofOrder.symm.trans (rows.items_of_order item new)
        exact absurd (by simp [Keyed.keys, sameId])
          (before.orders.lookup_eq_none.mp free order member)
    · rintro ⟨old, ofOrder⟩
      exact ⟨Or.inl old, ofOrder⟩

/-- What an order stands for depends on its terms and its items only. -/
theorem Fulfilled.later {order : Order} (fulfilled : Fulfilled before order) {later : Order}
    (sameTerms : orderTerms later = orderTerms order)
    (items : forall item, item ∈ itemsOf after.commerce order.id ->
      item ∈ itemsOf before.commerce order.id)
    (grows : RightsGrow before after) : Fulfilled after later := by
  have sameId : later.id = order.id := Table.eq_of_mask sameTerms (fun _ => rfl)
  have sameMode : later.fulfillmentMode = order.fulfillmentMode :=
    Table.eq_of_mask sameTerms (fun _ => rfl)
  have sameRenewal : later.renewalSubscriptionId = order.renewalSubscriptionId :=
    Table.eq_of_mask sameTerms (fun _ => rfl)
  constructor
  · intro item ofOrder
    rw [sameId] at ofOrder ⊢
    rw [sameMode]
    exact answered_of_grows grows.entitlements (fulfilled.answered item (items item ofOrder))
  · intro account item ofOrder fresh
    rw [sameId] at ofOrder
    rw [sameMode] at account
    have sameFresh : renewsItem order item = false := by
      simpa only [renewsItem, sameRenewal] using fresh
    exact grows.licensing.licensed (fulfilled.licensed account item (items item ofOrder) sameFresh)

/-! ## A paid event -/

section Paid

variable {moment : Moment} {event : VerifiedEvent} {row : PaymentProviderEvent}
variable {value : PaidSettlement} {fact : PaymentSettlementFact} {order : Order} {invoice : Invoice}
variable {settled : Db} {paidOrder : Order}

section Effect

variable (effect : PaidEffect host moment event before after row value fact order invoice settled paidOrder)

include effect

theorem PaidEffect.settledItems :
    value.order.orderId = order.id ∧ value.order.fulfillmentMode = order.fulfillmentMode ∧
      value.order.items = (itemsOf before.commerce order.id).map settledItem := by
  rw [effect.reaction.answers]
  exact ⟨rfl, rfl, rfl⟩

/-- The items that licensing walks are the items of the order. -/
theorem PaidEffect.targets :
    targetItems settled.commerce paidOrder ⟨none, none⟩ = itemsOf before.commerce order.id := by
  have sameItems : settled.commerce.orderItems = before.commerce.orderItems := by
    rw [effect.reaction.commerce]
    exact samePurchases_settledStore.orderItems
  rw [targetItems, itemsOf, sameItems, effect.sameId]

/-- The fact of a paid event is in the ledger, which is otherwise as it was, and
names the settled order. -/
theorem PaidEffect.ledger :
    (forall other, other ∈ after.payments.settlementFacts ↔
      other ∈ before.payments.settlementFacts ∨ other = fact) ∧
    orderByReference after.commerce fact.commercialReference = some paidOrder := by
  constructor
  · intro other
    rcases effect.reaction.claimed with ⟨_, attempt, claimInput, _, _, _, claimed⟩
    rw [effect.payments]
    rcases claim_commits claimed with ⟨result, inserted, _⟩ | ⟨standing, result, found, same⟩
    · have isNew : fact = claimedFact moment claimInput := congrArg SettlementFactClaimResult.record result
      rw [isNew]
      exact Table.mem_insert inserted
    · have isStanding : fact = standing := congrArg SettlementFactClaimResult.record result
      rw [same, isStanding, or_iff_left_of_imp]
      rintro rfl
      exact standingFact_mem found
  · have move := CommerceMove.settle _ order invoice effect.reaction.settleable
    rcases move.resolved effect.reaction.resolved with ⟨later, found, sameTerms⟩
    rw [← effect.reaction.commerce, ← effect.commerce] at found
    have sameId : later.id = paidOrder.id :=
      Table.eq_of_mask (sameTerms.trans effect.order.2.2.2.symm) (fun _ => rfl)
    exact order_of_id (orderByReference_mem found).1 effect.order.2.1 sameId ▸ found

/-- A settlement dates the order, unless it was paid before. -/
theorem PaidEffect.dated :
    (paidOrder = order ∧ order.status = .paid) ∨ paidOrder.paidAt = some fact.settledAt := by
  have member := Table.lookup_mem _ effect.paid
  rw [effect.reaction.commerce, settledStore_orders] at member
  split at member
  · rcases List.mem_map.mp member with ⟨old, oldMember, became⟩
    split at became
    · exact Or.inr (by rw [← became])
    · rename_i other
      exact absurd (decide_eq_true (by rw [became, effect.sameId])) other
  · rename_i settledBefore
    have same := order_of_id member effect.order.1 effect.sameId
    exact Or.inl ⟨same, same ▸ effect.order.2.2.1⟩

/-- A settlement fact that existed before names an order that was paid. -/
theorem PaidEffect.created (holds : Settled before) (unpaid : wasPaid order = false) :
    value.paymentSettlementDisposition = .created := by
  rcases effect.reaction.claimed with ⟨_, attempt, claimInput, _, _, _, claimed⟩
  rcases claim_commits claimed with ⟨result, _⟩ | ⟨standing, result, found, _⟩
  · have created := congrArg SettlementFactClaimResult.created result
    exact of_decide_eq_true created
  · have sameFact : fact = standing := congrArg SettlementFactClaimResult.record result
    rcases holds.facts standing (standingFact_mem found) with ⟨other, resolved, paid⟩
    rw [← sameFact, effect.reaction.resolved, Option.some.injEq] at resolved
    rw [resolved, paid] at unpaid
    cases unpaid

theorem PaidEffect.fulfilled (lawful : host.Lawful) (holds : Settled before) : Fulfilled after paidOrder := by
  have sameTerms := effect.order.2.2.2
  have sameMode : paidOrder.fulfillmentMode = order.fulfillmentMode :=
    Table.eq_of_mask sameTerms (fun _ => rfl)
  have sameItems : forall item, item ∈ itemsOf after.commerce order.id ->
      item ∈ itemsOf before.commerce order.id := by
    intro item ofOrder
    rw [effect.commerce, effect.reaction.commerce, itemsOf,
      samePurchases_settledStore.orderItems] at ofOrder
    exact ofOrder
  rcases effect.settledItems with ⟨named, mode, items⟩
  by_cases paid : wasPaid order = true
  · have earlier := holds.fulfilled order effect.order.1 paid
    exact earlier.later sameTerms sameItems
      ((Effect.paid moment event row value fact order invoice settled paidOrder effect).grows lawful)
  have created := effect.created holds (Bool.eq_false_iff.mpr paid)
  constructor
  · intro item ofOrder
    rw [effect.sameId] at ofOrder ⊢
    rw [sameMode, effect.entitlements]
    have answered := effect.reaction.fulfilled.achieved
      (fun item store => Answered value.order.fulfillmentMode value.order.orderId item.orderItemId store)
      (fun item _ before after answer => answer.answered)
      (fun item other _ before after answer earlier => answered_of_grows answer.grows earlier)
      (by rw [items]; exact List.mem_map_of_mem (sameItems item ofOrder))
    rw [mode, named] at answered
    exact answered
  · intro account item ofOrder fresh
    rw [effect.sameId] at ofOrder
    have fulfills : fulfillsLicensing value := ⟨created, mode.trans (sameMode ▸ account)⟩
    refine (effect.licensed fulfills).items.achieved
      (fun item store => renewsItem paidOrder item = false -> Licensed item store)
      (fun item _ before after step fresh => step.licensed fresh)
      (fun item other _ before after step earlier fresh => step.grows.licensed (earlier fresh))
      ?_ fresh
    rw [effect.targets]
    exact sameItems item ofOrder

end Effect

/-! ## Every transaction -/

/-- A fact is only added by a paid event, for the order that the event settles
and for its amount. -/
theorem Effect.ledger (effect : Effect host before after) :
    after.payments.settlementFacts = before.payments.settlementFacts ∨
    Exists fun fact => Exists fun paidOrder =>
      (forall other, other ∈ after.payments.settlementFacts ↔
        other ∈ before.payments.settlementFacts ∨ other = fact) ∧
      orderByReference after.commerce fact.commercialReference = some paidOrder ∧
      paidOrder.status = .paid ∧ paidOrder.totalMinor = fact.amountMinor ∧
      paidOrder.currency = fact.currency := by
  cases effect with
  | quiet _ facts _ _ => exact Or.inl facts
  | paid moment event row value fact order invoice settled paidOrder effect =>
    rcases effect.order with ⟨_, _, isPaid, sameTerms⟩
    have amount : paidOrder.totalMinor = order.totalMinor := Table.eq_of_mask sameTerms (fun _ => rfl)
    have currency : paidOrder.currency = order.currency := Table.eq_of_mask sameTerms (fun _ => rfl)
    exact Or.inr ⟨fact, paidOrder, effect.ledger.1, effect.ledger.2, isPaid,
      amount.trans effect.reaction.settleable.amount, currency.trans effect.reaction.settleable.currency⟩
  | refunded moment event resolved _ _ refunded wrote webhookEvents rest =>
    rw [rest]
    exact Or.inl (congrArg PaymentsStore.settlementFacts wrote.payments)
  | expired _ wrote => exact Or.inl (by rw [wrote])
  | consumed _ _ _ _ wrote => exact Or.inl (by rw [wrote.rest])
  | leased _ _ _ _ wrote => exact Or.inl (by rw [wrote])
  | deactivated _ _ _ _ wrote => exact Or.inl (by rw [wrote])

/-- Facts are only added, each for an order that is paid by then. -/
theorem Effect.facts (effect : Effect host before after)
    (moves : CommerceMoves before.commerce after.commerce) (holds : Settled before)
    (fact : PaymentSettlementFact) (member : fact ∈ after.payments.settlementFacts) :
    Exists fun order => orderByReference after.commerce fact.commercialReference = some order ∧
      wasPaid order = true := by
  have earlier : fact ∈ before.payments.settlementFacts -> Exists fun order =>
      orderByReference after.commerce fact.commercialReference = some order ∧
        wasPaid order = true := by
    intro old
    rcases holds.facts fact old with ⟨order, found, paid⟩
    rcases commerceMoves_resolved moves found paid with ⟨later, laterFound, _, laterPaid⟩
    exact ⟨later, laterFound, laterPaid⟩
  rcases effect.ledger with same | ⟨newFact, paidOrder, facts, named, isPaid, _⟩
  · exact earlier (same ▸ member)
  · rcases (facts fact).mp member with old | rfl
    · exact earlier old
    · refine ⟨paidOrder, named, ?_⟩
      rw [wasPaid, isPaid]
      rfl

theorem Effect.fulfilled (effect : Effect host before after) (lawful : host.Lawful)
    (holds : Settled before) (order : Order) (member : order ∈ after.commerce.orders)
    (paid : wasPaid order = true) : Fulfilled after order := by
  -- The order was there before, on the same terms and with the same items.
  have earlier : forall old, old ∈ before.commerce.orders -> wasPaid old = true ->
      orderTerms order = orderTerms old -> Fulfilled after order := by
    intro old oldMember oldPaid sameTerms
    exact (holds.fulfilled old oldMember oldPaid).later sameTerms
      (fun item => (itemsOf_of_purchases effect.purchases oldMember).mp) (effect.grows lawful)
  cases effect.origin member paid with
  | kept old => exact earlier order old paid rfl
  | settled moment event row value fact unsettled invoice settled effect => exact effect.fulfilled lawful holds
  | refunded moment event resolved refunded old paidBefore wrote webhookEvents rest became =>
    refine earlier resolved.order old ?_ (by rw [← became]; rfl)
    rw [wasPaid, paidBefore]
    rfl

theorem settled_step (lawful : host.Lawful) {transaction : HostTransaction}
    (holds : Settled before)
    (committed : (storefront host).step before transaction = .ok after) : Settled after := by
  have commits := storefront_step.mp committed
  have effect := commit_effect lawful commits
  exact ⟨effect.facts (commit_commerce commits) holds, effect.fulfilled lawful holds⟩

theorem settled_empty : Settled Db.empty :=
  ⟨fun _ member => absurd member (Table.not_mem_empty _),
    fun _ member => absurd member (Table.not_mem_empty _)⟩

/-! ## Counting the effect of an order -/

/-- The order that a stored event settles, if it is a paid event whose
processing goes through. -/
def settledOrderId (host : Host) (moment : Moment) (providerEventRecordId : Id) (db : Db) : Option Id :=
  match db.payments.providerEvents.lookup (.id providerEventRecordId) with
  | none => none
  | some row =>
    if row.type = .paymentPaid then
      match (processPaidEvent host moment (snapshot row)).run db with
      | .ok (outcome, _) => some outcome.orderId
      | .error _ => none
    else none

/-- The transaction settles the order and changes a grant, a code, a licence
or a period. -/
def commitsEffect (host : Host) (orderId : Id) (db : Db) : HostTransaction -> Bool
  | .processVerifiedEvent moment providerEventRecordId =>
    let after := (storefront host).attempt db (.processVerifiedEvent moment providerEventRecordId)
    settledOrderId host moment providerEventRecordId db = some orderId &&
      (after.entitlements ≠ db.entitlements || after.licensing ≠ db.licensing)
  | _ => false

/-- Every item of the order extends the subscription that the order renews. -/
def renewsOnly (store : CommerceStore) (order : Order) : Bool :=
  (itemsOf store order.id).all (renewsItem order)

/-- A paid event with a payment of its own, for a renewal order that has been
paid already. -/
def secondRenewalPayment (db : Db) (row : PaymentProviderEvent) : Bool :=
  row.type = .paymentPaid &&
    (db.payments.settlementFacts.lookup (.providerEventRecordId row.id)).isNone &&
    (row.externalPaymentId.bind (fun externalPaymentId =>
      db.payments.settlementFacts.lookup (.externalPayment row.provider externalPaymentId))).isNone &&
    ((row.externalCheckoutId.bind (fun externalCheckoutId =>
      db.payments.checkoutAttempts.lookup (.external row.provider externalCheckoutId))).bind (fun attempt =>
      orderByReference db.commerce attempt.commercialReference)).any (fun order =>
        order.status = .paid && order.fulfillmentMode = .accountEntitlement &&
          renewsOnly db.commerce order && row.amountMinor = some order.totalMinor &&
          row.currency = some order.currency)

/-- No renewal is paid a second time. -/
def PaidOnce (db : Db) : HostTransaction -> Prop
  | .processVerifiedEvent _ providerEventRecordId =>
    forall row, db.payments.providerEvents.lookup (.id providerEventRecordId) = some row ->
      secondRenewalPayment db row = false
  | _ => True

theorem settledOrderId_eq_some {moment : Moment} {providerEventRecordId orderId : Id}
    (settles : settledOrderId host moment providerEventRecordId before = some orderId) :
    Exists fun row => Exists fun outcome => Exists fun processed =>
      before.payments.providerEvents.lookup (.id providerEventRecordId) = some row ∧
      row.type = .paymentPaid ∧ outcome.orderId = orderId ∧
      (processPaidEvent host moment (snapshot row)).Commits before outcome processed := by
  unfold settledOrderId at settles
  split at settles
  case h_1 => cases settles
  case h_2 row found =>
    split at settles
    case isFalse => cases settles
    case isTrue type =>
      split at settles
      case h_2 => cases settles
      case h_1 outcome processed done =>
        exact ⟨row, outcome, processed, found, type, Option.some.inj settles, done⟩

/-- What an attempt to process a paid event leaves behind. -/
theorem attempt_of_paid {moment : Moment} {providerEventRecordId : Id}
    {row : PaymentProviderEvent} {outcome : BranchOutcome} {processed : Db}
    (found : before.payments.providerEvents.lookup (.id providerEventRecordId) = some row)
    (paid : row.type = .paymentPaid)
    (done : (processPaidEvent host moment (snapshot row)).Commits before outcome processed) :
    (storefront host).attempt before (.processVerifiedEvent moment providerEventRecordId) = before ∨
    Exists fun webhookEvents =>
      (storefront host).attempt before (.processVerifiedEvent moment providerEventRecordId) =
        { processed with webhookEvents } := by
  refine Machine.attempt_elim
    (motive := fun state => state = before ∨ Exists fun webhookEvents =>
      state = { processed with webhookEvents }) (Or.inl rfl) ?_
  intro next committed
  rcases processStoredEvent_commits (storefront_step.mp committed) with ⟨same, sameFound, commits⟩
  rw [found, Option.some.injEq] at sameFound
  subst sameFound
  have notUnknown : (snapshot row).type ≠ .unknown := by
    change row.type ≠ .unknown
    rw [paid]
    exact ProviderEventType.noConfusion
  cases commits with
  | ignored type => exact absurd type notUnknown
  | operational type => exact absurd paid type
  | paid _ outcome' processed' branch webhookEvents wrote =>
    rcases done.unique branch with ⟨_, same⟩
    rw [same]
    exact Or.inr ⟨webhookEvents, wrote⟩

/-- The licensing fulfilment of an order that was fulfilled before can only
commit when all its items are renewals. -/
theorem PaidEffect.renewing
    (effect : PaidEffect host moment event before after row value fact order invoice settled paidOrder)
    (holds : Settled before) (repeated : wasPaid order = true)
    (account : order.fulfillmentMode = .accountEntitlement) {accountId : Id} {commerce : CommerceStore}
    (steps : Steps (ItemFulfilled host.licensing host.environment commerce moment paidOrder accountId)
      (itemsOf before.commerce order.id) before.licensing after.licensing) :
    renewsOnly before.commerce order = true := by
  have sameRenewal : paidOrder.renewalSubscriptionId = order.renewalSubscriptionId :=
    Table.eq_of_mask effect.order.2.2.2 (fun _ => rfl)
  rw [renewsOnly, List.all_eq_true]
  intro item ofOrder
  by_contra fresh
  have isFresh : renewsItem order item = false := Bool.eq_false_iff.mpr fresh
  have isFresh' : renewsItem paidOrder item = false := by
    simpa only [renewsItem, sameRenewal] using isFresh
  have licensed := (holds.fulfilled order effect.order.1 repeated).licensed account item ofOrder isFresh
  -- The licence is still there when the loop reaches the item, and refuses it.
  rcases steps.reached LicensingGrows LicensingGrows.refl (fun _ _ _ left right => left.trans right)
    (fun _ _ _ step => step.grows) ofOrder with ⟨first, second, grows, step⟩
  exact step.unlicensed isFresh' (grows.licensed licensed)

/-- A paid event of an order that was paid before changes no right, unless it
pays a renewal a second time. -/
theorem PaidEffect.idle
    (effect : PaidEffect host moment event before after row value fact order invoice settled paidOrder)
    (paid : row.type = .paymentPaid) (holds : Settled before) (repeated : wasPaid order = true)
    (once : secondRenewalPayment before row = false) :
    after.entitlements = before.entitlements ∧ after.licensing = before.licensing := by
  have fulfilled := holds.fulfilled order effect.order.1 repeated
  have isPaid : order.status = .paid := by
    rcases effect.reaction.settleable.status with pending | paid | cancelled
    · rw [wasPaid, pending] at repeated
      cases repeated
    · exact paid
    · rw [wasPaid, cancelled] at repeated
      cases repeated
  rcases effect.settledItems with ⟨named, mode, items⟩
  have answered : forall item, item ∈ value.order.items ->
      Answered value.order.fulfillmentMode value.order.orderId item.orderItemId before.entitlements := by
    intro item member
    rw [items] at member
    rcases List.mem_map.mp member with ⟨orderItem, ofOrder, rfl⟩
    rw [mode, named]
    exact fulfilled.answered orderItem ofOrder
  constructor
  · have everyStep : forall item, item ∈ value.order.items -> forall first second,
        first = before.entitlements ->
        ItemAnswered host moment value.order fact.settledAt item first second ->
        second = before.entitlements := by
      intro item member first second same answer
      rw [same] at answer
      exact answer.idle (answered item member)
    rw [effect.entitlements]
    exact effect.reaction.fulfilled.invariant everyStep rfl
  · by_cases fulfills : fulfillsLicensing value
    · have account : order.fulfillmentMode = .accountEntitlement := mode ▸ fulfills.2
      have steps := (effect.licensed fulfills).items
      rw [effect.targets] at steps
      have renewing := effect.renewing holds repeated account steps
      rcases effect.reaction.claimed with ⟨checkout, attempt, claimInput, ofCheckout, attempted,
        claims, claimed⟩
      rcases claim_commits claimed with ⟨result, inserted, _⟩ | ⟨_, result, _⟩
      · have sameFact : fact = claimedFact moment claimInput :=
          congrArg SettlementFactClaimResult.record result
        have freeEvent : before.payments.settlementFacts.lookup (.providerEventRecordId row.id) = none := by
          rw [← claims.providerEventRecordId]
          exact Table.lookup_eq_none_of_insert inserted (by simp [Keyed.keys, claimedFact])
        have freePayment : before.payments.settlementFacts.lookup
            (.externalPayment row.provider claimInput.externalPaymentId) = none := by
          rw [← claims.provider]
          exact Table.lookup_eq_none_of_insert inserted (by simp [Keyed.keys, claimedFact])
        have resolved := effect.reaction.resolved
        rw [sameFact] at resolved
        have named : orderByReference before.commerce attempt.commercialReference = some order := by
          rw [← claims.commercialReference]
          exact resolved
        have amount : row.amountMinor = some order.totalMinor := by
          rw [effect.reaction.settleable.amount, sameFact]
          exact claims.amountMinor.symm
        have currency : row.currency = some order.currency := by
          rw [effect.reaction.settleable.currency, sameFact]
          exact claims.currency.symm
        have second : secondRenewalPayment before row = true := by
          simp only [secondRenewalPayment, paid, freeEvent, ← claims.externalPaymentId, freePayment,
            ofCheckout, attempted, Option.bind_some, named, Option.any_some, isPaid, account, renewing,
            amount, currency, decide_true, Option.isNone_none, Bool.and_self]
        rw [second] at once
        cases once
      · have created := congrArg SettlementFactClaimResult.created result
        rw [fulfills.1] at created
        cases created
    · exact effect.unlicensed fulfills

end Paid

/-- Some order of this identifier has been paid. -/
def Closed (orderId : Id) (db : Db) : Prop :=
  Exists fun order => order ∈ db.commerce.orders ∧ order.id = orderId ∧ wasPaid order = true

theorem closed_step {transaction : HostTransaction} {orderId : Id} (closed : Closed orderId before)
    (committed : (storefront host).step before transaction = .ok after) : Closed orderId after := by
  have moves := commit_commerce (storefront_step.mp committed)
  rcases closed with ⟨order, member, sameId, paid⟩
  have everyMove : forall store : CommerceStore, CommerceMoves before.commerce store ->
      Exists fun later => later ∈ store.orders ∧ later.id = orderId ∧ wasPaid later = true := by
    intro store moves
    induction moves with
    | refl => exact ⟨order, member, sameId, paid⟩
    | tail _ move inductionHypothesis =>
      rcases inductionHypothesis with ⟨middle, middleMember, middleId, middlePaid⟩
      rcases move.order_later middleMember with ⟨later, laterMember, laterId⟩
      exact ⟨later, laterMember, laterId.trans middleId,
        move.wasPaid middleMember laterMember laterId middlePaid⟩
  exact everyMove _ moves

/-- In every run in which no renewal is paid a second time, the licensing
effect of an order is committed at most once. -/
theorem effect_committed_once (host : Host) (lawful : host.Lawful) (orderId : Id)
    (transactions : List HostTransaction)
    (admitted : (storefront host).Admits PaidOnce Db.empty transactions) :
    (storefront host).occurrences (commitsEffect host orderId) Db.empty transactions ≤ 1 := by
  have settlement : forall db moment providerEventRecordId,
      commitsEffect host orderId db (.processVerifiedEvent moment providerEventRecordId) = true ->
      Exists fun row => Exists fun outcome => Exists fun processed =>
        db.payments.providerEvents.lookup (.id providerEventRecordId) = some row ∧
        row.type = .paymentPaid ∧ outcome.orderId = orderId ∧
        (processPaidEvent host moment (snapshot row)).Commits db outcome processed ∧
        (processed.entitlements ≠ db.entitlements ∨ processed.licensing ≠ db.licensing) ∧
        ((storefront host).attempt db
          (.processVerifiedEvent moment providerEventRecordId)).commerce = processed.commerce := by
    intro db moment providerEventRecordId marked
    simp only [commitsEffect, Bool.and_eq_true, Bool.or_eq_true, decide_eq_true_eq] at marked
    rcases settledOrderId_eq_some marked.1 with ⟨row, outcome, processed, found, paid, named, done⟩
    refine ⟨row, outcome, processed, found, paid, named, done, ?_⟩
    rcases attempt_of_paid found paid done with same | ⟨webhookEvents, wrote⟩
    · rw [same] at marked
      rcases marked.2 with moved | moved
      · exact absurd rfl moved
      · exact absurd rfl moved
    · rw [wrote] at marked ⊢
      exact ⟨marked.2, rfl⟩
  have closes : forall db transaction, Settled db -> PaidOnce db transaction ->
      commitsEffect host orderId db transaction = true ->
      Closed orderId ((storefront host).attempt db transaction) := by
    intro db transaction holds _ marked
    cases transaction with
    | processVerifiedEvent moment providerEventRecordId =>
      rcases settlement db moment providerEventRecordId marked with
        ⟨row, outcome, processed, found, paid, named, done, _, commerce⟩
      rcases paidEffect_of_commits lawful done with
        ⟨_, value, fact, order, invoice, settled, paidOrder, sameOrder, effect⟩
      rcases effect.order with ⟨_, member, isPaid, sameTerms⟩
      have sameId : paidOrder.id = order.id := Table.eq_of_mask sameTerms (fun _ => rfl)
      refine ⟨paidOrder, by rw [commerce]; exact member, ?_, ?_⟩
      · rw [sameId, ← sameOrder, named]
      · rw [wasPaid, isPaid]
        rfl
    | _ => cases marked
  have unmarked : forall db transaction, Settled db -> Closed orderId db -> PaidOnce db transaction ->
      commitsEffect host orderId db transaction = false := by
    intro db transaction holds closed once
    cases transaction with
    | processVerifiedEvent moment providerEventRecordId =>
      rw [Bool.eq_false_iff]
      intro marked
      rcases settlement db moment providerEventRecordId marked with
        ⟨row, outcome, processed, found, paid, named, done, moved, _⟩
      rcases paidEffect_of_commits lawful done with
        ⟨same, value, fact, order, invoice, settled, paidOrder, sameOrder, effect⟩
      have sameFound := effect.found
      have recordId : (Payments.snapshot row).providerEventRecordId = providerEventRecordId := by
        have key := Table.lookup_key _ found
        simpa [Keyed.keys, Payments.snapshot, eq_comm] using key
      rw [recordId, found, Option.some.injEq] at sameFound
      subst sameFound
      rcases closed with ⟨closedOrder, closedMember, closedId, closedPaid⟩
      have isOrder : closedOrder = order := Table.eq_of_common_key _ closedMember effect.order.1
        (by simp [Keyed.keys] : Order.Key.id closedOrder.id ∈ Keyed.keys closedOrder)
        (by simp [Keyed.keys, closedId, ← named, sameOrder])
      rw [isOrder] at closedPaid
      have idle := effect.idle paid holds closedPaid (once row found)
      rcases moved with moved | moved
      · exact moved idle.1
      · exact moved idle.2
    | _ => rfl
  have preserved : forall db transaction next, Settled db -> PaidOnce db transaction ->
      (storefront host).step db transaction = .ok next -> Settled next :=
    fun _ _ _ holds _ committed => settled_step lawful holds committed
  have stays : forall db transaction next, Settled db -> Closed orderId db -> PaidOnce db transaction ->
      (storefront host).step db transaction = .ok next -> Closed orderId next :=
    fun _ _ _ _ closed _ committed => closed_step closed committed
  exact Machine.occurrences_le_one preserved closes unmarked stays settled_empty admitted

instance (db : Db) (transaction : HostTransaction) : Decidable (PaidOnce db transaction) :=
  match transaction with
  | .processVerifiedEvent _ providerEventRecordId =>
    match found : db.payments.providerEvents.lookup (.id providerEventRecordId) with
    | none => isTrue (fun _ other => by rw [found] at other; cases other)
    | some row =>
      if second : secondRenewalPayment db row = false then
        isTrue (fun _ other => by rw [found] at other; cases other; exact second)
      else isFalse (fun once => second (once row found))
  | .createPendingOrder _ | .recordCheckoutAttempt _ | .claimEvent .. | .noteConflict ..
  | .reopenDelivered .. | .restoreOwnerEvent _ | .reopenStored .. | .recordFailure .. | .cancelOrder ..
  | .cancelAgentPendingOrder .. | .commerceLifecycle _ | .reserveCheckout .. | .storeCheckout ..
  | .abandonReservation _ | .openRefundOperation .. | .storeRefundResult .. | .failRefundOperation ..
  | .revealClaimCode .. | .consumeClaimCode .. | .issueCommercialLease .. | .deactivateDevice .. =>
    isTrue trivial

/-- Delivery and processing of one paid event. -/
def paidDelivered (eventId name payment : String) : List HostTransaction :=
  [.claimEvent (Reference.moment eventId 10) (Reference.delivery eventId .paymentPaid name payment 9),
    .processVerifiedEvent (Reference.moment eventId 11) ("event:" ++ eventId)]

/-- One external payment is reported by two events, and a second external
payment follows. -/
def paidTwice : List HostTransaction :=
  [.createPendingOrder (Reference.checkout "a" 0 .accountEntitlement .oneTime 1 none Reference.unrenewing),
    .recordCheckoutAttempt (Reference.attempt "a" 0)] ++
  paidDelivered "first" "a" "pay" ++ paidDelivered "again" "a" "pay" ++
  paidDelivered "other" "a" "pay-2"

theorem effect_committed_once_paidTwice :
    (storefront Reference.host).occurrences (commitsEffect Reference.host "order:a") Db.empty
      paidTwice ≤ 1 :=
  effect_committed_once Reference.host Reference.host_lawful "order:a" paidTwice (by decide +kernel)

/-- A subscription is bought, a renewal of it is ordered, and the renewal is
paid by two external payments. -/
def renewalPaidTwice : List HostTransaction :=
  [.createPendingOrder (Reference.checkout "s" 0 .accountEntitlement .subscription 1 none Reference.unrenewing),
    .recordCheckoutAttempt (Reference.attempt "s" 0)] ++
  paidDelivered "start" "s" "pay-s" ++
  [.createPendingOrder (Reference.checkout "r" 0 .accountEntitlement .subscription 1
      (some "subscription:item:s") Reference.renewing),
    .recordCheckoutAttempt (Reference.attempt "r" 0)] ++
  paidDelivered "first" "r" "pay-1" ++ paidDelivered "second" "r" "pay-2"

theorem effect_committed_twice_renewalPaidTwice :
    Reference.host.Lawful ∧
    (storefront Reference.host).occurrences (commitsEffect Reference.host "order:r") Db.empty
      renewalPaidTwice = 2 := by
  refine ⟨Reference.host_lawful, ?_⟩
  decide +kernel

end Storefront
end DigitalSolutions

import DigitalSolutions.Storefront.ClaimCodeLife
import DigitalSolutions.Storefront.ExactlyOnce

namespace DigitalSolutions
namespace Storefront

open Foundation Persistence Platform Commerce Entitlements Licensing Orders Payments

/-!
# What holds of every paid order

The ledger of settlement facts and the orders that have been paid agree,
nothing of a sale is taken off the books, a refund ends for good what its order
was paid for, and of the codes of one item one is claimed.  Each of these is
derived from what one committed transaction does to the rights and from where a
paid order comes from.
-/

variable {host : Host} {before after : Db}

/-! ## The ledger -/

/-- The fact reports the payment of the order, for its amount. -/
structure Evidences (db : Db) (order : Order) (fact : PaymentSettlementFact) : Prop where
  recorded : fact ∈ db.payments.settlementFacts
  names : orderByReference db.commerce fact.commercialReference = some order
  amount : fact.amountMinor = order.totalMinor
  currency : fact.currency = order.currency

/-- Every fact is the payment of an order that counts as paid, and every order
that counts as paid has its fact. -/
structure LedgerAgrees (db : Db) : Prop where
  orders : forall fact, fact ∈ db.payments.settlementFacts -> Exists fun order =>
    Evidences db order fact ∧ wasPaid order = true
  facts : forall order, order ∈ db.commerce.orders -> wasPaid order = true -> Exists fun fact =>
    Evidences db order fact ∧ order.paidAt = some fact.settledAt

theorem Evidences.later (effect : Effect host before after)
    (moves : CommerceMoves before.commerce after.commerce) {order : Order} {fact : PaymentSettlementFact}
    (evidence : Evidences before order fact) (paid : wasPaid order = true) :
    Exists fun later => Evidences after later fact ∧ orderTerms later = orderTerms order ∧
      wasPaid later = true := by
  rcases commerceMoves_resolved moves evidence.names paid with ⟨later, named, sameTerms, laterPaid⟩
  have sameAmount : later.totalMinor = order.totalMinor := Table.eq_of_mask sameTerms (fun _ => rfl)
  have sameCurrency : later.currency = order.currency := Table.eq_of_mask sameTerms (fun _ => rfl)
  refine ⟨later, ⟨?_, named, ?_, ?_⟩, sameTerms, laterPaid⟩
  · rcases effect.ledger with same | ⟨_, _, facts, _⟩
    · exact same ▸ evidence.recorded
    · exact (facts fact).mpr (Or.inl evidence.recorded)
  · exact evidence.amount.trans sameAmount.symm
  · exact evidence.currency.trans sameCurrency.symm

theorem ledgerAgrees_step (lawful : host.Lawful) {transaction : HostTransaction}
    (agrees : LedgerAgrees before)
    (committed : (storefront host).step before transaction = .ok after) : LedgerAgrees after := by
  have commits := storefront_step.mp committed
  have effect := commit_effect lawful commits
  have moves := commit_commerce commits
  constructor
  · intro fact member
    have earlier : fact ∈ before.payments.settlementFacts -> Exists fun order =>
        Evidences after order fact ∧ wasPaid order = true := by
      intro old
      rcases agrees.orders fact old with ⟨order, evidence, paid⟩
      rcases evidence.later effect moves paid with ⟨later, laterEvidence, _, laterPaid⟩
      exact ⟨later, laterEvidence, laterPaid⟩
    rcases effect.ledger with same | ⟨newFact, paidOrder, facts, named, isPaid, amount, currency⟩
    · exact earlier (same ▸ member)
    · rcases (facts fact).mp member with old | rfl
      · exact earlier old
      · exact ⟨paidOrder, ⟨member, named, amount.symm, currency.symm⟩, by rw [wasPaid, isPaid]; rfl⟩
  · intro order member paid
    have earlier : forall old, old ∈ before.commerce.orders -> wasPaid old = true ->
        order.id = old.id -> order.paidAt = old.paidAt -> Exists fun fact =>
          Evidences after order fact ∧ order.paidAt = some fact.settledAt := by
      intro old oldMember oldPaid sameId samePaidAt
      rcases agrees.facts old oldMember oldPaid with ⟨fact, evidence, dated⟩
      rcases evidence.later effect moves oldPaid with ⟨later, laterEvidence, sameTerms, _⟩
      have laterId : later.id = old.id := Table.eq_of_mask sameTerms (fun _ => rfl)
      have same := order_of_id (orderByReference_mem laterEvidence.names).1 member (laterId.trans sameId.symm)
      exact ⟨fact, same ▸ laterEvidence, samePaidAt.trans dated⟩
    cases effect.origin member paid with
    | kept old => exact earlier order old paid rfl rfl
    | settled moment event row value fact unsettled invoice settled paidEffect =>
      rcases paidEffect.dated with ⟨rfl, _⟩ | dated
      · exact earlier order paidEffect.order.1 paid rfl rfl
      · have settleable := paidEffect.reaction.settleable
        have sameTerms := paidEffect.order.2.2.2
        have amount : order.totalMinor = unsettled.totalMinor := Table.eq_of_mask sameTerms (fun _ => rfl)
        have currency : order.currency = unsettled.currency := Table.eq_of_mask sameTerms (fun _ => rfl)
        refine ⟨fact, ⟨?_, paidEffect.ledger.2, ?_, ?_⟩, dated⟩
        · exact (paidEffect.ledger.1 fact).mpr (Or.inr rfl)
        · exact settleable.amount.symm.trans amount.symm
        · exact settleable.currency.symm.trans currency.symm
    | refunded moment event resolved refunded old paidBefore wrote webhookEvents rest became =>
      refine earlier resolved.order old ?_ (by rw [← became]) (by rw [← became])
      rw [wasPaid, paidBefore]
      rfl

/-- In every run, the ledger and the paid orders agree, and every paid order has
been fulfilled. -/
theorem paid_orders_covered (host : Host) (lawful : host.Lawful) (transactions : List HostTransaction) :
    LedgerAgrees ((storefront host).run Db.empty transactions) ∧
    forall order, order ∈ ((storefront host).run Db.empty transactions).commerce.orders ->
      wasPaid order = true -> Fulfilled ((storefront host).run Db.empty transactions) order := by
  have initially : LedgerAgrees Db.empty ∧ Settled Db.empty :=
    ⟨⟨fun _ member => absurd member (Table.not_mem_empty _),
      fun _ member => absurd member (Table.not_mem_empty _)⟩, settled_empty⟩
  have keeps : forall db transaction next, LedgerAgrees db ∧ Settled db ->
      (storefront host).step db transaction = .ok next -> LedgerAgrees next ∧ Settled next :=
    fun db transaction next holds committed =>
      ⟨ledgerAgrees_step lawful holds.1 committed, settled_step lawful holds.2 committed⟩
  have holds := Machine.run_invariant keeps initially transactions
  exact ⟨holds.1, holds.2.fulfilled⟩

theorem paid_orders_covered_paidTwice :
    LedgerAgrees ((storefront Reference.host).run Db.empty paidTwice) ∧
    forall order, order ∈ ((storefront Reference.host).run Db.empty paidTwice).commerce.orders ->
      wasPaid order = true -> Fulfilled ((storefront Reference.host).run Db.empty paidTwice) order :=
  paid_orders_covered Reference.host Reference.host_lawful paidTwice

/-! ## What was sold -/

/-- An order stays on its terms. -/
theorem Effect.orders_grow (effect : Effect host before after) :
    Table.Grows orderTerms before.commerce.orders after.commerce.orders := by
  intro order member
  rcases effect.purchases with same | ⟨rows, created⟩
  · exact same.orders.after member
  · exact ⟨order, (Table.mem_insert created.orders).mpr (Or.inl member), rfl⟩

/-- Nothing of a sale is taken off the books: the orders with their terms and
items, the ledger, and what was granted, licensed and issued. -/
structure SalesKept (before after : Db) : Prop where
  orders : Table.Grows orderTerms before.commerce.orders after.commerce.orders
  items : forall order, order ∈ before.commerce.orders -> forall item,
    item ∈ itemsOf after.commerce order.id ↔ item ∈ itemsOf before.commerce order.id
  facts : forall fact, fact ∈ before.payments.settlementFacts -> fact ∈ after.payments.settlementFacts
  rights : RightsGrow before after

theorem SalesKept.step (lawful : host.Lawful) {start : Db} (kept : SalesKept start before)
    {transaction : HostTransaction} (committed : (storefront host).step before transaction = .ok after) :
    SalesKept start after := by
  have effect := commit_effect lawful (storefront_step.mp committed)
  have grows := effect.grows lawful
  constructor
  · exact kept.orders.trans effect.orders_grow
  · intro order member item
    rcases kept.orders order member with ⟨current, currentMember, sameTerms⟩
    have sameId : current.id = order.id := Table.eq_of_mask sameTerms (fun _ => rfl)
    exact (sameId ▸ itemsOf_of_purchases effect.purchases currentMember).trans (kept.items order member item)
  · intro fact member
    rcases effect.ledger with same | ⟨_, _, facts, _⟩
    · exact same ▸ kept.facts fact member
    · exact (facts fact).mpr (Or.inl (kept.facts fact member))
  · exact ⟨kept.rights.entitlements.trans grows.entitlements, kept.rights.licensing.trans grows.licensing⟩

/-- Every run keeps what was sold before it. -/
theorem sales_kept (host : Host) (lawful : host.Lawful) (start : Db) (transactions : List HostTransaction) :
    SalesKept start ((storefront host).run start transactions) :=
  Machine.run_invariant (fun _ _ _ kept committed => kept.step lawful committed)
    ⟨Table.Grows.refl _ _, fun _ _ _ => Iff.rfl, fun _ member => member, .of_same rfl rfl⟩ transactions

theorem sales_kept_paidTwice : SalesKept ((storefront Reference.host).run Db.empty paidTwice)
    ((storefront Reference.host).run ((storefront Reference.host).run Db.empty paidTwice) paidTwice) :=
  sales_kept Reference.host Reference.host_lawful _ paidTwice

/-! ## Refunds -/

/-- No refunded order still has an active right of its own, or a code to give
away. -/
structure RefundsStand (db : Db) : Prop where
  codes : Sealed db
  rights : forall order, order ∈ db.commerce.orders -> order.status = .refunded ->
    order.fulfillmentMode = .accountEntitlement -> forall item, item ∈ itemsOf db.commerce order.id ->
      forall right, right ∈ db.entitlements.entitlements ->
        right.sourceReference = .commerce order.id item.id -> right.state ≠ .active

/-- A right of an order that is active afterwards was there before, unless the
order has just been paid. -/
theorem Effect.activeRights (lawful : host.Lawful) (effect : Effect host before after) {orderId itemId : Id}
    {right : Entitlement} (member : right ∈ after.entitlements.entitlements)
    (source : right.sourceReference = .commerce orderId itemId) (active : right.state = .active) :
    right ∈ before.entitlements.entitlements ∨ Exists fun order =>
      order ∈ after.commerce.orders ∧ order.id = orderId ∧ order.status = .paid := by
  cases effect with
  | quiet _ _ entitlements _ => exact Or.inl (entitlements ▸ member)
  | paid moment event row value fact order invoice settled paidOrder effect =>
    rcases effect.order with ⟨_, paidMember, isPaid, _⟩
    have everyStep : forall item, item ∈ value.order.items -> forall first second,
        (right ∈ first.entitlements ->
          right ∈ before.entitlements.entitlements ∨ value.order.orderId = orderId) ->
        ItemAnswered host moment value.order fact.settledAt item first second ->
        right ∈ second.entitlements ->
          right ∈ before.entitlements.entitlements ∨ value.order.orderId = orderId := by
      intro item _ first second earlier answer now
      cases answer with
      | granted mode input asked result accepted called =>
        rcases grant_commits called with ⟨_, _, inserted, _⟩ | ⟨_, _, _, rfl⟩
        · rcases (Table.mem_insert inserted).mp now with old | rfl
          · exact earlier old
          · have granted := asked.sourceReference.symm.trans source
            rw [SourceReference.commerce.injEq] at granted
            exact Or.inr granted.1
        · exact earlier now
      | issued mode input asked result unitCount accepted called =>
        cases issueCommerceClaimUnits_commits accepted called with
        | issued _ _ _ _ _ _ _ sameRights => exact earlier (sameRights ▸ now)
        | existing _ _ unchanged => exact earlier (unchanged ▸ now)
    rw [effect.entitlements] at member
    rcases effect.reaction.fulfilled.invariant everyStep Or.inl member with old | named
    · exact Or.inl old
    · exact Or.inr ⟨paidOrder, paidMember,
        effect.sameId.trans (effect.settledItems.1.symm.trans named), isPaid⟩
  | refunded moment event resolved _ _ refunded wrote webhookEvents rest =>
    rw [rest] at member
    exact Or.inl ((entitlements_of_refund lawful wrote).1.active right member active)
  | expired _ wrote => exact Or.inl (by rw [wrote] at member; exact member)
  | consumed moment input code order wrote =>
    rcases (Table.mem_insert wrote.entitlements).mp member with old | rfl
    · exact Or.inl old
    · cases source
  | leased _ _ _ _ wrote => exact Or.inl (by rw [wrote] at member; exact member)
  | deactivated _ _ _ _ wrote => exact Or.inl (by rw [wrote] at member; exact member)

theorem refundsStand_step (lawful : host.Lawful) {transaction : HostTransaction}
    (stand : RefundsStand before)
    (committed : (storefront host).step before transaction = .ok after) : RefundsStand after := by
  have effect := commit_effect lawful (storefront_step.mp committed)
  refine ⟨effect.sealed lawful stand.codes, ?_⟩
  intro order member isRefunded account item ofOrder right rightMember source active
  cases effect.origin member (by rw [wasPaid, isRefunded]; rfl) with
  | kept old =>
    rcases effect.activeRights lawful rightMember source active with earlier | ⟨paid, paidMember, sameId, isPaid⟩
    · exact stand.rights order old isRefunded account item
        ((itemsOf_of_purchases effect.purchases old).mp ofOrder) right earlier source active
    · rw [order_of_id paidMember member sameId, isRefunded] at isPaid
      cases isPaid
  | settled moment event row value fact unsettled invoice settled effect =>
    rw [effect.order.2.2.1] at isRefunded
    cases isRefunded
  | refunded moment event resolved refunded old paidBefore wrote webhookEvents rest became =>
    subst became
    rw [rest] at rightMember
    exact (entitlements_of_refund lawful wrote).2 account right rightMember item
      ((itemsOf_of_purchases effect.purchases old).mp ofOrder) source active

/-- In every run, a refunded order has no code to give away, and none of the
rights it was paid for is ever active again. -/
theorem refunds_stand (host : Host) (lawful : host.Lawful) (start : Db) (stand : RefundsStand start)
    (transactions : List HostTransaction) : RefundsStand ((storefront host).run start transactions) :=
  Machine.run_invariant (fun _ _ _ holds committed => refundsStand_step lawful holds committed) stand
    transactions

/-- The order that was paid twice is refunded. -/
def refundedOnce : List HostTransaction := paidTwice ++
  [.claimEvent (Reference.moment "refund" 20) (Reference.delivery "refund" .paymentRefunded "a" "pay" 19),
    .processVerifiedEvent (Reference.moment "refund" 21) "event:refund"]

theorem refunds_stand_refundedOnce :
    RefundsStand ((storefront Reference.host).run Db.empty refundedOnce) :=
  refunds_stand Reference.host Reference.host_lawful Db.empty
    ⟨fun _ member => absurd member (Table.not_mem_empty _),
      fun _ member => absurd member (Table.not_mem_empty _)⟩ refundedOnce

example : ((storefront Reference.host).run Db.empty refundedOnce).commerce.orders.rows.map
    (fun order => order.status) = [.refunded] := by
  decide +kernel

/-! ## Codes that were claimed -/

/-- The item extends a subscription, so that it has no licence of its own. -/
def Renews (db : Db) (orderItemId : Id) : Prop :=
  Exists fun order => Exists fun item => order ∈ db.commerce.orders ∧
    item ∈ itemsOf db.commerce order.id ∧ item.id = orderItemId ∧ renewsItem order item = true

/-- What claiming a code leaves behind: the right of the claimer, and the
licence of the item. -/
structure Redeemed (db : Db) (code : ClaimCode) (accountId entitlementId : Id) : Prop where
  right : Exists fun right => right ∈ db.entitlements.entitlements ∧ right.id = entitlementId ∧
    right.subjectId = accountId ∧ right.sourceReference = .claim code.id
  licensed : Renews db code.orderItemId ∨
    Exists fun license => license ∈ db.licensing.licenses ∧ license.orderItemId = code.orderItemId

/-- Every claimed code was redeemed.  The licence is unique for its item, so of
all the codes of an item only one is ever claimed. -/
structure ClaimsStand (db : Db) : Prop where
  redeemed : forall code, code ∈ db.entitlements.claimCodes ->
    forall claimedAt userId accountId entitlementId,
      code.state = .claimed claimedAt userId accountId entitlementId ->
      Redeemed db code accountId entitlementId
  sole : forall code, code ∈ db.entitlements.claimCodes -> code.state.status = .claimed ->
    forall other, other ∈ db.entitlements.claimCodes -> other.state.status = .claimed ->
      other.orderItemId = code.orderItemId -> other = code ∨ Renews db code.orderItemId

section Claimed

variable {moment : Moment} {input : ClaimCodeConsumeInput} {code fresh : ClaimCode} {order : Order}

/-- The code as its consumption leaves it. -/
def claimedCode (moment : Moment) (input : ClaimCodeConsumeInput) (code : ClaimCode) : ClaimCode :=
  { code with
    state := .claimed moment.now input.userId input.accountId
      (moment.draw (.entitlementId (.claim code.id))) }

/-- A code that is claimed afterwards was claimed before, or is the one that
has been consumed. -/
theorem Effect.claimedCodes (lawful : host.Lawful) (effect : Effect host before after) :
    (forall code, code ∈ after.entitlements.claimCodes -> code.state.status = .claimed ->
      code ∈ before.entitlements.claimCodes) ∨
    Exists fun moment => Exists fun input => Exists fun fresh => Exists fun order =>
      Consumed host moment input before after fresh order ∧
      forall code, code ∈ after.entitlements.claimCodes -> code.state.status = .claimed ->
        code ∈ before.entitlements.claimCodes ∨ code = claimedCode moment input fresh := by
  have unmoved : after.entitlements.claimCodes = before.entitlements.claimCodes ->
      forall code, code ∈ after.entitlements.claimCodes -> code.state.status = .claimed ->
        code ∈ before.entitlements.claimCodes := fun same code member _ => same ▸ member
  cases effect with
  | quiet _ _ entitlements _ => exact Or.inl (unmoved (by rw [entitlements]))
  | paid moment event row value fact order invoice settled paidOrder effect =>
    refine Or.inl fun code member claimed => ?_
    have everyStep : forall item, item ∈ value.order.items -> forall first second,
        (code ∈ first.claimCodes -> code ∈ before.entitlements.claimCodes) ->
        ItemAnswered host moment value.order fact.settledAt item first second ->
        code ∈ second.claimCodes -> code ∈ before.entitlements.claimCodes := by
      intro item _ first second earlier answer now
      cases answer with
      | granted mode input asked result accepted called =>
        rcases grant_commits called with ⟨_, _, _, codes⟩ | ⟨_, _, _, rfl⟩
        · exact earlier (codes ▸ now)
        · exact earlier now
      | issued mode input asked result unitCount accepted called =>
        cases issueCommerceClaimUnits_commits accepted called with
        | existing _ _ unchanged => exact earlier (unchanged ▸ now)
        | issued _ _ _ codes appended _ each _ =>
          rw [← Table.mem_rows, appended] at now
          rcases List.mem_append.mp now with old | issued
          · exact earlier old
          · rcases (each code issued).made with ⟨_, _, _, made⟩
            rw [made] at claimed
            cases claimed
    rw [effect.entitlements] at member
    exact effect.reaction.fulfilled.invariant everyStep id member
  | refunded moment event resolved _ _ refunded wrote webhookEvents rest =>
    refine Or.inl fun code member claimed => ?_
    rw [rest] at member
    change code ∈ refunded.entitlements.claimCodes at member
    rw [(entitlements_of_refund lawful wrote).1.claimCodes] at member
    rcases List.mem_map.mp member with ⟨old, oldMember, became⟩
    split at became
    · rw [← became] at claimed
      cases claimed
    · exact became ▸ oldMember
  | expired claimCodeId wrote =>
    refine Or.inl fun code member claimed => ?_
    rw [wrote] at member
    rcases List.mem_map.mp member with ⟨old, oldMember, became⟩
    split at became
    · rw [← became] at claimed
      cases claimed
    · exact became ▸ oldMember
  | consumed moment input fresh order wrote =>
    refine Or.inr ⟨moment, input, fresh, order, wrote, fun code member _ => ?_⟩
    rcases (Table.mem_amend _ wrote.claimCodes).mp member with ⟨old, oldMember, became⟩
    split at became
    · rename_i chosen
      have isFresh : old = fresh := Table.eq_of_common_key _ oldMember wrote.found
        (by simp [Keyed.keys] : ClaimCode.Key.id old.id ∈ Keyed.keys old)
        (by simp [Keyed.keys, of_decide_eq_true (Bool.and_eq_true_iff.mp chosen).1])
      exact Or.inr (by rw [← became, isFresh]; rfl)
    · exact Or.inl (became ▸ oldMember)
  | leased _ _ _ _ wrote => exact Or.inl (unmoved (by rw [wrote]))
  | deactivated _ _ _ _ wrote => exact Or.inl (unmoved (by rw [wrote]))

/-- A consumption licenses the item of its code, which had no licence. -/
theorem Consumed.licensed (wrote : Consumed host moment input before after fresh order) :
    Renews before fresh.orderItemId ∨
    (Exists fun license => license ∈ after.licensing.licenses ∧ license.orderItemId = fresh.orderItemId) ∧
    ¬ Exists fun license => license ∈ before.licensing.licenses ∧
      license.orderItemId = fresh.orderItemId := by
  rcases List.length_eq_one_iff.mp (wrote.fulfilled.named rfl) with ⟨item, isTarget⟩
  have targeted := List.mem_singleton_self item
  rw [← isTarget] at targeted
  rcases mem_targetItems.mp targeted with ⟨member, ofOrder, named⟩
  rw [← named _ rfl]
  by_cases renewed : renewsItem order item = true
  · exact Or.inl ⟨order, item, Table.lookup_mem _ wrote.ordered, mem_itemsOf.mpr ⟨member, ofOrder⟩, rfl,
      renewed⟩
  · have unrenewed := Bool.eq_false_iff.mpr renewed
    rcases wrote.fulfilled.items.reached LicensingGrows LicensingGrows.refl
      (fun _ _ _ left right => left.trans right) (fun _ _ _ step => step.grows) targeted with
      ⟨first, second, grows, step⟩
    refine Or.inr ⟨?_, fun licensed => step.unlicensed unrenewed (grows.licensed licensed)⟩
    exact wrote.fulfilled.items.achieved
      (fun item store => renewsItem order item = false -> Licensed item store)
      (fun _ _ _ _ step fresh => step.licensed fresh)
      (fun _ _ _ _ _ step earlier fresh => step.grows.licensed (earlier fresh)) targeted unrenewed

theorem Renews.later (effect : Effect host before after) {orderItemId : Id}
    (renews : Renews before orderItemId) : Renews after orderItemId := by
  rcases renews with ⟨order, item, member, ofOrder, named, renewed⟩
  rcases effect.orders_grow order member with ⟨later, laterMember, sameTerms⟩
  have sameId : later.id = order.id := Table.eq_of_mask sameTerms (fun _ => rfl)
  have sameRenewal : later.renewalSubscriptionId = order.renewalSubscriptionId :=
    Table.eq_of_mask sameTerms (fun _ => rfl)
  refine ⟨later, item, laterMember, ?_, named, ?_⟩
  · rw [sameId]
    exact (itemsOf_of_purchases effect.purchases member).mpr ofOrder
  · rw [renewsItem, sameRenewal]
    exact renewed

theorem Redeemed.later (effect : Effect host before after) (lawful : host.Lawful)
    {accountId entitlementId : Id} (redeemed : Redeemed before code accountId entitlementId) :
    Redeemed after code accountId entitlementId := by
  have grows := effect.grows lawful
  rcases redeemed with ⟨⟨right, rightMember, named, owned, source⟩, licensed⟩
  constructor
  · rcases grows.entitlements.entitlements right rightMember with ⟨later, laterMember, same⟩
    have sameNamed : later.id = right.id := Table.eq_of_mask same (fun _ => rfl)
    have sameOwner : later.subjectId = right.subjectId := Table.eq_of_mask same (fun _ => rfl)
    have sameSource : later.sourceReference = right.sourceReference := Table.eq_of_mask same (fun _ => rfl)
    exact ⟨later, laterMember, sameNamed.trans named, sameOwner.trans owned, sameSource.trans source⟩
  · rcases licensed with renews | ⟨license, member, ofItem⟩
    · exact Or.inl (renews.later effect)
    · rcases grows.licensing.licenses license member with ⟨later, laterMember, same⟩
      have sameItem : later.orderItemId = license.orderItemId := Table.eq_of_mask same (fun _ => rfl)
      exact Or.inr ⟨later, laterMember, sameItem.trans ofItem⟩

theorem claimsStand_step (lawful : host.Lawful) {transaction : HostTransaction} (stand : ClaimsStand before)
    (committed : (storefront host).step before transaction = .ok after) : ClaimsStand after := by
  have effect := commit_effect lawful (storefront_step.mp committed)
  have both : forall code, code ∈ before.entitlements.claimCodes -> code.state.status = .claimed ->
      forall other, other ∈ before.entitlements.claimCodes -> other.state.status = .claimed ->
        other.orderItemId = code.orderItemId -> other = code ∨ Renews after code.orderItemId := by
    intro code member claimed other otherMember otherClaimed sameItem
    exact (stand.sole code member claimed other otherMember otherClaimed sameItem).imp_right
      (fun renews => renews.later effect)
  rcases effect.claimedCodes lawful with none | ⟨moment, input, fresh, order, wrote, one⟩
  · constructor
    · intro code member claimedAt userId accountId entitlementId state
      have earlier := none code member (by rw [state]; rfl)
      exact (stand.redeemed code earlier _ _ _ _ state).later effect lawful
    · intro code member claimed other otherMember otherClaimed
      exact both code (none code member claimed) claimed other (none other otherMember otherClaimed)
        otherClaimed
  · -- A code of the item that was claimed before has left the licence that refuses the new one.
    have renewed : forall code, code ∈ before.entitlements.claimCodes -> code.state.status = .claimed ->
        code.orderItemId = fresh.orderItemId -> Renews after fresh.orderItemId := by
      intro code member claimed sameItem
      cases state : code.state with
      | claimed claimedAt userId accountId entitlementId =>
        have left := (stand.redeemed code member _ _ _ _ state).licensed
        rw [sameItem] at left
        rcases wrote.licensed with renews | ⟨_, unlicensed⟩
        · exact renews.later effect
        · exact (left.resolve_right unlicensed).later effect
      | _ =>
        rw [state] at claimed
        cases claimed
    constructor
    · intro code member claimedAt userId accountId entitlementId state
      rcases one code member (by rw [state]; rfl) with earlier | rfl
      · exact (stand.redeemed code earlier _ _ _ _ state).later effect lawful
      · cases state
        exact ⟨⟨_, (Table.mem_insert wrote.entitlements).mpr (Or.inr rfl), rfl, rfl, rfl⟩,
          wrote.licensed.imp (fun renews => renews.later effect) And.left⟩
    · intro code member claimed other otherMember otherClaimed sameItem
      rcases one code member claimed with earlier | rfl
      · rcases one other otherMember otherClaimed with otherEarlier | rfl
        · exact both code earlier claimed other otherEarlier otherClaimed sameItem
        · exact Or.inr (sameItem ▸ renewed code earlier claimed sameItem.symm)
      · rcases one other otherMember otherClaimed with otherEarlier | rfl
        · exact Or.inr (renewed other otherEarlier otherClaimed sameItem)
        · exact Or.inl rfl

end Claimed

/-- In every run, each claimed code has given its claimer the right, and of the
codes of one item, unless that renews a subscription, at most one is claimed. -/
theorem claims_stand (host : Host) (lawful : host.Lawful) (start : Db) (stand : ClaimsStand start)
    (transactions : List HostTransaction) : ClaimsStand ((storefront host).run start transactions) :=
  Machine.run_invariant (fun _ _ _ holds committed => claimsStand_step lawful holds committed) stand
    transactions

theorem unrenewed : FulfillmentMode.claimCode = .claimCode -> (none : Option Id) = none := fun _ => rfl

/-- Somebody claims the first code of a gift of two, and then tries the second. -/
def giftOfTwo : List HostTransaction :=
  [.createPendingOrder (Reference.checkout "g" 0 .claimCode .oneTime 2 none unrenewed),
    .recordCheckoutAttempt (Reference.attempt "g" 0)] ++ paidDelivered "paid" "g" "pay" ++
  [.consumeClaimCode (Reference.moment "first" 14)
      ⟨"BKE-CLM-00000-00000-00000-00000-00000-00000", "friend", "friend"⟩,
    .consumeClaimCode (Reference.moment "second" 15)
      ⟨"BKE-CLM-00000-00000-00000-00000-00000-00001", "other", "other"⟩]

theorem claims_stand_giftOfTwo : ClaimsStand ((storefront Reference.host).run Db.empty giftOfTwo) :=
  claims_stand Reference.host Reference.host_lawful Db.empty
    ⟨fun _ member => absurd member (Table.not_mem_empty _),
      fun _ member => absurd member (Table.not_mem_empty _)⟩ giftOfTwo

example : ((storefront Reference.host).run Db.empty giftOfTwo).entitlements.claimCodes.rows.map
    (fun code => code.state.status) = [.claimed, .available] := by
  decide +kernel

end Storefront
end DigitalSolutions

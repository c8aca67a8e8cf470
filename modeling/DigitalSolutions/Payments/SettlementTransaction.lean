import DigitalSolutions.Commerce.Settlement
import DigitalSolutions.Entitlements.ClaimCodes
import DigitalSolutions.Entitlements.RefundRevocation
import DigitalSolutions.Licensing.CommercialLease
import DigitalSolutions.Payments.SettlementFacts

namespace DigitalSolutions
namespace Payments

open Foundation Persistence Platform Commerce Entitlements Licensing

/-!
# The settlement transaction

`reactToPaidSettlement` connects three packages inside one database
transaction.  The payments package reconciles the provider event and claims
the settlement fact.  The commerce package settles the order and fulfils its
items through the ports it is given, one of which is the entitlements
package.  The host resolves the commercial reference of the fact to an order
in between.
-/

variable {providerEventRecordId : Id} {expectedLivemode : Bool}

/-! ## The commerce package -/

structure CommerceSettlement where
  settlementFactId : Id
  commercialReference : String
  amountMinor : Int
  currency : String
  settledAt : Time
  deriving DecidableEq

inductive GrantPortResult
  | granted | existing | rejected | failed
  deriving DecidableEq

inductive CommercePort
  | reconcile
  | settle (input : SettleInput)
  | grant (input : GrantInput)
  | issue (input : ClaimUnitIssueInput)

def CommercePort.Answer : CommercePort -> Type
  | reconcile => CommerceSettlement
  | settle _ => SettleResult
  | grant _ => GrantPortResult
  | issue _ => ClaimUnitIssueResult

structure ReactInput where
  providerEventRecordId : Id
  expectedLivemode : Bool
  deriving DecidableEq

inductive ReactRejection
  | orderNotFound | other (code : String)
  deriving DecidableEq

inductive ReactResult
  | rejected (code : ReactRejection)
  | failed
  | ok (value : SettledOrder)
  deriving DecidableEq

/-- `@bke/commerce/logic/settlement-fulfillment`. -/
structure CommercePackage where
  react : ReactInput -> Program CommercePort CommercePort.Answer ReactResult

/-- The right the commerce package asks for on behalf of an item. -/
structure GrantsItem (order : SettledOrder) (settledAt : Time) (item : SettledItem)
    (input : GrantInput) : Prop where
  subjectId : input.subjectId = order.accountId
  sourceReference : input.sourceReference = .commerce order.orderId item.orderItemId
  validFrom : input.validFrom = settledAt

/-- The claim units the commerce package asks for on behalf of an item. -/
structure IssuesItem (order : SettledOrder) (settledAt : Time) (item : SettledItem)
    (input : ClaimUnitIssueInput) : Prop where
  orderId : input.orderId = order.orderId
  orderItemId : input.orderItemId = item.orderItemId
  purchaserAccountId : input.purchaserAccountId = order.accountId
  quantity : input.quantity = item.quantity
  validFrom : input.validFrom = settledAt

section CommerceLaw

variable {Failure Store : Type}
variable (handle : (port : CommercePort) -> Transaction Failure Store port.Answer)

/-- One item was answered through the port its fulfilment mode calls for, and
the port accepted. -/
inductive FulfillsItem (order : SettledOrder) (settledAt : Time) (item : SettledItem)
    (before after : Store) : Prop
  | grant (mode : order.fulfillmentMode = .accountEntitlement) (input : GrantInput)
    (asked : GrantsItem order settledAt item input) (answer : GrantPortResult)
    (accepted : answer = .granted ∨ answer = .existing)
    (called : (handle (.grant input)).Commits before answer after)
  | issue (mode : order.fulfillmentMode = .claimCode) (input : ClaimUnitIssueInput)
    (asked : IssuesItem order settledAt item input) (answer : ClaimUnitIssueResult)
    (unitCount : Nat) (accepted : answer = .issued unitCount ∨ answer = .existing unitCount)
    (called : (handle (.issue input)).Commits before answer after)

end CommerceLaw

/-- What the host relies on.  Whatever implements the ports: a reaction that
succeeds has taken the settlement from its payments port, has settled the
order that the settlement names at the amount it names, and has then answered
every item of the settled order. -/
def CommercePackage.Lawful (package : CommercePackage) : Prop :=
  forall {Failure Store : Type}
    (handle : (port : CommercePort) -> Transaction Failure Store port.Answer) (input : ReactInput)
    (before after : Store) (value : SettledOrder),
    ((package.react input).connect handle).Commits before (.ok value) after ->
    Exists fun settlement : CommerceSettlement => Exists fun reconciled => Exists fun settled =>
      (handle .reconcile).Commits before settlement reconciled ∧
      (handle (.settle ⟨settlement.commercialReference, settlement.amountMinor,
        settlement.currency, settlement.settledAt⟩)).Commits reconciled (.settled value) settled ∧
      Steps (FulfillsItem handle value settlement.settledAt) value.items settled after

/-! ## The host side -/

/-- Everything the host is wired to. -/
structure Host where
  environment : Environment
  payments : PaymentsPackage
  commerce : CommercePackage
  entitlements : EntitlementsPackage
  licensing : LicensingPackage
  leases : LeasePackage

structure Host.Lawful (host : Host) : Prop where
  payments : host.payments.Lawful
  commerce : host.commerce.Lawful
  entitlements : host.entitlements.Lawful
  licensing : host.licensing.Lawful
  leases : host.leases.Lawful

def rejectionCode : ReconcileRejection -> PaymentErrorCode
  | .modeMismatch => .modeMismatch
  | .checkoutMismatch => .checkoutMismatch
  | .referenceMismatch => .referenceMismatch
  | .amountMismatch => .amountMismatch
  | .currencyMismatch => .currencyMismatch
  | .paymentReferenceMissing => .referenceMismatch
  | .other _ => .reconciliationRequired

/-- `findFirst` over the orders whose identifier or number is the reference. -/
def orderByReference (store : CommerceStore) (reference : String) : Option Order :=
  store.orders.rows.find? (fun order => order.id = reference || order.number = reference)

def grantPortResult : GrantResult -> GrantPortResult
  | .granted _ => .granted
  | .existing _ => .existing
  | .rejected => .rejected
  | .failed => .failed

/-- The ports the commerce package is given. -/
def commercePorts (host : Host) (moment : Moment) (fact : PaymentSettlementFact) (orderId : Id) :
    (port : CommercePort) -> Tx Db port.Answer
  | .reconcile => pure {
      settlementFactId := fact.id
      commercialReference := orderId
      amountMinor := fact.amountMinor
      currency := fact.currency
      settledAt := fact.settledAt : CommerceSettlement }
  | .settle input => (settle input).within Db.commercePart
  | .grant input =>
    grantPortResult <$> ((host.entitlements.grant input).connect
      (grant host.environment.localeCompare moment)).within Db.entitlementsPart
  | .issue input =>
    (issueCommerceClaimUnits host.environment moment input).within Db.entitlementsPart

structure PaidSettlement where
  order : SettledOrder
  paymentSettlementDisposition : FactDisposition
  deriving DecidableEq

def reactToPaidSettlement (host : Host) (moment : Moment) (providerEventRecordId : Id)
    (expectedLivemode : Bool) : Tx Db PaidSettlement := do
  let settlement <- ((host.payments.reconcile moment ⟨providerEventRecordId, expectedLivemode⟩).connect
    (paymentsRepository moment)).within Db.paymentsPart
  match settlement with
  | .rejected code => throw (.payment (rejectionCode code))
  | .failed => throw .retryable
  | .settled fact disposition =>
    let db <- get
    let some resolvedOrder := orderByReference db.commerce fact.commercialReference
      | throw (.payment .referenceMismatch)
    let result <- (host.commerce.react ⟨providerEventRecordId, expectedLivemode⟩).connect
      (commercePorts host moment fact resolvedOrder.id)
    match result with
    | .rejected .orderNotFound => throw (.payment .referenceMismatch)
    | .rejected (.other _) => throw (.payment .reconciliationRequired)
    | .failed => throw .retryable
    | .ok value => return ⟨value, disposition⟩

/-! ## What a committed reaction did -/

variable {host : Host} {moment : Moment}

/-- The tables no port of the commerce package reaches. -/
def SameOutsideFulfillment (before after : Db) : Prop :=
  after.payments = before.payments ∧ after.hostPayments = before.hostPayments ∧
    after.webhookEvents = before.webhookEvents ∧ after.licensing = before.licensing

theorem SameOutsideFulfillment.refl (db : Db) : SameOutsideFulfillment db db := ⟨rfl, rfl, rfl, rfl⟩

theorem SameOutsideFulfillment.trans {first second third : Db}
    (left : SameOutsideFulfillment first second) (right : SameOutsideFulfillment second third) :
    SameOutsideFulfillment first third :=
  ⟨right.1.trans left.1, right.2.1.trans left.2.1, right.2.2.1.trans left.2.2.1,
    right.2.2.2.trans left.2.2.2⟩

theorem commercePorts_frame {fact : PaymentSettlementFact} {orderId : Id} (port : CommercePort)
    (before : Db) (answer : port.Answer) (after : Db)
    (called : (commercePorts host moment fact orderId port).Commits before answer after) :
    SameOutsideFulfillment before after := by
  cases port with
  | reconcile =>
    have same := (Transaction.commits_pure.mp called).2
    subst same
    exact SameOutsideFulfillment.refl before
  | settle input =>
    rcases Transaction.commits_within.mp called with ⟨inner, _, rfl⟩
    exact ⟨rfl, rfl, rfl, rfl⟩
  | grant input =>
    rcases Transaction.commits_map.mp called with ⟨result, granted, _⟩
    rcases Transaction.commits_within.mp granted with ⟨inner, _, rfl⟩
    exact ⟨rfl, rfl, rfl, rfl⟩
  | issue input =>
    rcases Transaction.commits_within.mp called with ⟨inner, _, rfl⟩
    exact ⟨rfl, rfl, rfl, rfl⟩

section Reaction

variable {before after : Db} {value : PaidSettlement}
variable (commits : (reactToPaidSettlement host moment providerEventRecordId expectedLivemode).Commits before value after)

include commits

/-- The two halves of a committed reaction, whatever the packages do: the
payments package settled a fact, and the commerce package, started at the
order the fact resolves to, accepted. -/
theorem reactToPaidSettlement_split :
    Exists fun fact => Exists fun payments => Exists fun resolvedOrder =>
      ((host.payments.reconcile moment ⟨providerEventRecordId, expectedLivemode⟩).connect
        (paymentsRepository moment)).Commits before.payments
          (.settled fact value.paymentSettlementDisposition) payments ∧
      orderByReference before.commerce fact.commercialReference = some resolvedOrder ∧
      ((host.commerce.react ⟨providerEventRecordId, expectedLivemode⟩).connect
        (commercePorts host moment fact resolvedOrder.id)).Commits { before with payments }
          (.ok value.order) after := by
  unfold reactToPaidSettlement at commits
  simp only [Transaction.commits_bind] at commits
  rcases commits with ⟨settlement, middle, confined, commits⟩
  rcases Transaction.commits_within.mp confined with ⟨payments, reconciled, rfl⟩
  cases settlement with
  | rejected code => exact absurd commits Transaction.not_commits_throw
  | failed => exact absurd commits Transaction.not_commits_throw
  | settled fact disposition =>
    rw [Transaction.commits_get_bind] at commits
    split at commits
    case h_2 => exact absurd commits Transaction.not_commits_throw
    case h_1 resolvedOrder resolved =>
      simp only [Transaction.commits_bind] at commits
      rcases commits with ⟨result, _, reacted, commits⟩
      cases result with
      | rejected code => cases code <;> exact absurd commits Transaction.not_commits_throw
      | failed => exact absurd commits Transaction.not_commits_throw
      | ok order =>
        rcases Transaction.commits_pure.mp commits with ⟨rfl, rfl⟩
        exact ⟨fact, payments, resolvedOrder, reconciled, resolved, reacted⟩

/-- Whatever the packages do, a reaction leaves the tables of the host
payments, the webhooks and licensing alone. -/
theorem reactToPaidSettlement_frame :
    after.hostPayments = before.hostPayments ∧ after.webhookEvents = before.webhookEvents ∧
      after.licensing = before.licensing := by
  rcases reactToPaidSettlement_split commits with ⟨fact, payments, resolvedOrder, _, _, reacted⟩
  have same : SameOutsideFulfillment { before with payments } after :=
    Program.connect_related SameOutsideFulfillment SameOutsideFulfillment.refl
      (fun _ _ _ left right => left.trans right) commercePorts_frame _ reacted
  exact same.2

/-- Whatever the packages do, a reaction keeps the provider events and the
checkout attempts. -/
theorem reactToPaidSettlement_events : SameEvents before.payments after.payments := by
  rcases reactToPaidSettlement_split commits with
    ⟨fact, payments, resolvedOrder, reconciled, _, reacted⟩
  have reconciles : SameEvents before.payments payments :=
    Program.connect_related SameEvents (fun _ => ⟨rfl, rfl⟩) (fun _ _ _ left right => left.trans right)
      paymentsRepository_frame _ reconciled
  have same : SameOutsideFulfillment { before with payments } after :=
    Program.connect_related SameOutsideFulfillment SameOutsideFulfillment.refl
      (fun _ _ _ left right => left.trans right) commercePorts_frame _ reacted
  have unchanged : after.payments = payments := same.1
  rw [unchanged]
  exact reconciles

end Reaction

/-- An item was answered in the tables of the entitlements module. -/
inductive ItemAnswered (host : Host) (moment : Moment) (order : SettledOrder) (settledAt : Time)
    (item : SettledItem) (before after : EntitlementsStore) : Prop
  | granted (mode : order.fulfillmentMode = .accountEntitlement) (input : GrantInput)
    (asked : GrantsItem order settledAt item input) (result : GrantResult)
    (accepted : result.accepted)
    (called : (grant host.environment.localeCompare moment input).Commits before result after)
  | issued (mode : order.fulfillmentMode = .claimCode) (input : ClaimUnitIssueInput)
    (asked : IssuesItem order settledAt item input) (result : ClaimUnitIssueResult)
    (unitCount : Nat) (accepted : result = .issued unitCount ∨ result = .existing unitCount)
    (called : (issueCommerceClaimUnits host.environment moment input).Commits before result after)

/-- What an answered item leaves in the tables of the entitlements module: its
grant or its codes. -/
def Answered (mode : FulfillmentMode) (orderId orderItemId : Id) (store : EntitlementsStore) : Prop :=
  match mode with
  | .accountEntitlement => Exists fun row => row ∈ store.entitlements ∧
      row.sourceReference = .commerce orderId orderItemId
  | .claimCode => Coded orderItemId store

theorem answered_of_grows {mode : FulfillmentMode} {orderId orderItemId : Id}
    {before after : EntitlementsStore} (grows : EntitlementsGrow before after)
    (answered : Answered mode orderId orderItemId before) : Answered mode orderId orderItemId after := by
  cases mode with
  | claimCode => exact grows.coded answered
  | accountEntitlement =>
    rcases answered with ⟨row, member, source⟩
    rcases grows.entitlements row member with ⟨later, laterMember, same⟩
    have sameSource : later.sourceReference = row.sourceReference :=
      Table.eq_of_mask same (fun _ => rfl)
    exact ⟨later, laterMember, sameSource.trans source⟩

section ItemAnswered

variable {order : SettledOrder} {settledAt : Time} {item : SettledItem}
variable {before after : EntitlementsStore}

theorem ItemAnswered.grows (answer : ItemAnswered host moment order settledAt item before after) :
    EntitlementsGrow before after := by
  cases answer with
  | granted _ input _ result _ called =>
    rcases grant_commits called with ⟨_, _, inserted, codes⟩ | ⟨_, _, _, rfl⟩
    · exact ⟨Table.grows_insert inserted, by rw [codes]; exact Table.Grows.refl _ _⟩
    · exact EntitlementsGrow.refl _
  | issued _ input _ result unitCount accepted called =>
    exact (issueCommerceClaimUnits_commits accepted called).grows

theorem ItemAnswered.answered (answer : ItemAnswered host moment order settledAt item before after) :
    Answered order.fulfillmentMode order.orderId item.orderItemId after := by
  cases answer with
  | granted mode input asked result accepted called =>
    rw [mode]
    rcases grant_commits called with ⟨_, _, inserted, _⟩ | ⟨row, found, _, rfl⟩
    · exact ⟨_, (Table.mem_insert inserted).mpr (Or.inr rfl), asked.sourceReference⟩
    · have key := Table.lookup_key _ found
      refine ⟨row, Table.lookup_mem _ found, ?_⟩
      rw [← asked.sourceReference]
      simpa [Keyed.keys, eq_comm] using key
  | issued mode input asked result unitCount accepted called =>
    rw [mode]
    have coded := (issueCommerceClaimUnits_commits accepted called).coded.1
    exact asked.orderItemId ▸ coded

/-- An item that was answered before is answered again without a write. -/
theorem ItemAnswered.idle (answer : ItemAnswered host moment order settledAt item before after)
    (answered : Answered order.fulfillmentMode order.orderId item.orderItemId before) :
    after = before := by
  cases answer with
  | granted mode input asked result accepted called =>
    rw [mode] at answered
    rcases answered with ⟨row, member, source⟩
    rcases grant_commits called with ⟨free, _, _, _⟩ | ⟨_, _, _, unchanged⟩
    · have taken := before.entitlements.lookup_eq_none.mp free row member
      exact absurd (by simp [Keyed.keys, source, asked.sourceReference]) taken
    · exact unchanged
  | issued mode input asked result unitCount accepted called =>
    rw [mode] at answered
    have coded := (issueCommerceClaimUnits_commits accepted called).coded.2
    have codedItem : Coded input.orderItemId before := by
      rw [asked.orderItemId]
      exact answered
    exact coded codedItem

end ItemAnswered

/-- Everything a committed reaction to a paid event has read and written. -/
structure PaidReaction (host : Host) (moment : Moment) (input : ReconcileInput) (before : Db)
    (value : PaidSettlement) (after : Db) (event : PaymentProviderEvent)
    (fact : PaymentSettlementFact) (order : Order) (invoice : Invoice) : Prop where
  found : before.payments.providerEvents.lookup (.id input.providerEventRecordId) = some event
  livemode : event.livemode = input.expectedLivemode
  claimed : Exists fun externalCheckoutId => Exists fun attempt => Exists fun claimInput =>
    event.externalCheckoutId = some externalCheckoutId ∧
    before.payments.checkoutAttempts.lookup (.external event.provider externalCheckoutId) =
      some attempt ∧
    ClaimsEvent event attempt claimInput ∧
    (claim moment claimInput).Commits before.payments
      ⟨value.paymentSettlementDisposition = .created, fact⟩ after.payments
  resolved : orderByReference before.commerce fact.commercialReference = some order
  settleable : Settleable before.commerce ⟨order.id, fact.amountMinor, fact.currency, fact.settledAt⟩
    order invoice
  answers : value.order = settledOrder before.commerce order invoice
  commerce : after.commerce = settledStore order invoice
    (before.commerce.offerRedemptions.lookup (.orderId order.id)) fact.settledAt before.commerce
  fulfilled : Steps (ItemAnswered host moment value.order fact.settledAt) value.order.items
    before.entitlements after.entitlements
  hostPayments : after.hostPayments = before.hostPayments
  webhookEvents : after.webhookEvents = before.webhookEvents
  licensing : after.licensing = before.licensing

theorem orderByReference_mem {store : CommerceStore} {reference : String} {order : Order}
    (resolved : orderByReference store reference = some order) :
    order ∈ store.orders ∧ (order.id = reference ∨ order.number = reference) := by
  refine ⟨List.mem_of_find?_eq_some resolved, ?_⟩
  simpa using List.find?_some resolved

theorem lookup_orderByReference {store : CommerceStore} {reference : String} {order : Order}
    (resolved : orderByReference store reference = some order) :
    store.orders.lookup (.id order.id) = some order :=
  store.orders.lookup_of_mem (orderByReference_mem resolved).1 (by simp [Keyed.keys])

private theorem itemAnswered_of_fulfillsItem (lawful : host.entitlements.Lawful)
    {fact : PaymentSettlementFact} {orderId : Id} {order : SettledOrder} {settledAt : Time}
    (item : SettledItem) (before after : Db)
    (fulfills : FulfillsItem (commercePorts host moment fact orderId) order settledAt item
      before after) :
    ItemAnswered host moment order settledAt item before.entitlements after.entitlements ∧
      after.commerce = before.commerce := by
  cases fulfills with
  | grant mode input asked answer accepted called =>
    rcases Transaction.commits_map.mp called with ⟨result, confined, reported⟩
    rcases Transaction.commits_within.mp confined with ⟨inner, granted, rfl⟩
    have acceptedResult : result.accepted := by
      subst reported
      cases result with
      | granted _ => trivial
      | existing _ => trivial
      | rejected => rcases accepted with same | same <;> cases same
      | failed => rcases accepted with same | same <;> cases same
    rcases lawful.grant_relays _ _ _ _ _ granted acceptedResult with ⟨stored, stores, rfl⟩
    exact ⟨.granted mode input asked stored acceptedResult stores, rfl⟩
  | issue mode input asked answer unitCount accepted called =>
    rcases Transaction.commits_within.mp called with ⟨inner, issued, rfl⟩
    exact ⟨.issued mode input asked answer unitCount accepted issued, rfl⟩

theorem reactToPaidSettlement_commits (lawful : host.Lawful) {before after : Db} {value : PaidSettlement}
    (commits : (reactToPaidSettlement host moment providerEventRecordId expectedLivemode).Commits
      before value after) :
    Exists fun event => Exists fun fact => Exists fun order => Exists fun invoice =>
      PaidReaction host moment ⟨providerEventRecordId, expectedLivemode⟩ before value after
        event fact order invoice := by
  have frame := reactToPaidSettlement_frame commits
  rcases reactToPaidSettlement_split commits with
    ⟨fact, payments, resolvedOrder, reconciled, resolved, reacted⟩
  rcases lawful.payments.settled _ _ _ _ _ _ reconciled with
    ⟨event, externalCheckoutId, attempt, claimInput, found, livemode, checkout, attempted, claims,
      claimed⟩
  have same : SameOutsideFulfillment { before with payments } after :=
    Program.connect_related SameOutsideFulfillment SameOutsideFulfillment.refl
      (fun _ _ _ left right => left.trans right) commercePorts_frame _ reacted
  rcases lawful.commerce _ _ _ _ _ reacted with
    ⟨settlement, reconciledDb, settledDb, asked, settled, fulfilled⟩
  rcases Transaction.commits_pure.mp asked with ⟨rfl, rfl⟩
  rcases Transaction.commits_within.mp settled with ⟨commerce, settledCommerce, rfl⟩
  rcases settle_commits settledCommerce with
    ⟨code, impossible, _⟩ | ⟨order, invoice, settleable, sameValue, wrote⟩
  · cases impossible
  have sameOrder : order = resolvedOrder := by
    have found := settleable.found.symm.trans (lookup_orderByReference resolved)
    simpa using found
  subst sameOrder
  have everyStep : forall item before after,
      FulfillsItem (commercePorts host moment fact order.id) value.order fact.settledAt item
        before after ->
      ItemAnswered host moment value.order fact.settledAt item before.entitlements
        after.entitlements ∧ after.commerce = before.commerce :=
    itemAnswered_of_fulfillsItem lawful.entitlements
  have answered := fulfilled.map Db.entitlements
    (fun item before after step => (everyStep item before after step).1)
  have commerceKept : after.commerce = commerce :=
    fulfilled.related (fun before after => after.commerce = before.commerce)
      (fun _ => rfl) (fun _ _ _ left right => right.trans left)
      (fun item _ before after step => (everyStep item before after step).2)
  refine ⟨event, fact, order, invoice, ?_⟩
  exact
    { found
      livemode
      claimed := ⟨externalCheckoutId, attempt, claimInput, checkout, attempted, claims,
        same.1 ▸ claimed⟩
      resolved
      settleable
      answers := SettleResult.settled.inj sameValue
      commerce := commerceKept.trans wrote
      fulfilled := answered
      hostPayments := frame.1
      webhookEvents := frame.2.1
      licensing := frame.2.2 }

end Payments
end DigitalSolutions

import DigitalSolutions.Licensing.EntitlementManagement

namespace DigitalSolutions
namespace Licensing

open Foundation Persistence Platform

/-!
# What a fulfilment wrote

A committed fulfilment has taken one step per item.  A step inserts a licence,
or a subscription with its licence, or extends a subscription and every
licence under it.
-/

/-! ## The licences under a renewed subscription -/

/-- A row after the loop over the licences that were read. -/
def renewedRow (package : LicensingPackage) (input : RenewInput) (licenses : List License)
    (row : License) : License :=
  match licenses.find? (fun license => license.id = row.id) with
  | some license => reactivateLicense
      (package.renewalExpiration license.expiresAt input.effectiveAt (input.periodEnd - input.periodStart))
      row
  | none => row

theorem renewLicenses_frame (package : LicensingPackage) (input : RenewInput) (licenses : List License)
    (store : LicensingStore) :
    (renewLicenses package input licenses store).1.subscriptions = store.subscriptions ∧
      (renewLicenses package input licenses store).1.deviceActivations = store.deviceActivations := by
  induction licenses generalizing store with
  | nil => exact ⟨rfl, rfl⟩
  | cons license rest inductionHypothesis =>
    rw [renewLicenses]
    exact inductionHypothesis _

/-- The loop reactivates every licence it has read, each once. -/
theorem renewLicenses_rows (package : LicensingPackage) (input : RenewInput) (licenses : List License)
    (distinct : (licenses.map License.id).Nodup) (store : LicensingStore) :
    (renewLicenses package input licenses store).1.licenses.rows =
      store.licenses.rows.map (renewedRow package input licenses) := by
  induction licenses generalizing store with
  | nil =>
    have idle : renewedRow package input [] = id := rfl
    rw [idle, List.map_id]
    rfl
  | cons license rest inductionHypothesis =>
    rw [List.map_cons, List.nodup_cons] at distinct
    rw [renewLicenses]
    have first : (renewLicense package input license store).1.licenses.rows =
        store.licenses.rows.map (fun row => if row.id = license.id then
          reactivateLicense (package.renewalExpiration license.expiresAt input.effectiveAt
            (input.periodEnd - input.periodStart)) row else row) := by
      simp only [renewLicense, Table.update, decide_eq_true_eq]
    dsimp only
    rw [inductionHypothesis distinct.2, first, List.map_map]
    refine List.map_congr_left (fun row _ => ?_)
    by_cases same : row.id = license.id
    · have absent : rest.find? (fun other => other.id = row.id) = none := by
        rw [List.find?_eq_none]
        intro other member sameId
        apply distinct.1
        rw [← same]
        exact List.mem_map.mpr ⟨other, member, of_decide_eq_true sameId⟩
      simp only [Function.comp, same, if_true, renewedRow, List.find?_cons, decide_true]
      rw [same] at absent
      simp only [reactivateLicense, same, absent]
    · have other : decide (license.id = row.id) = false := by simpa using Ne.symm same
      simp only [Function.comp, same, if_false, renewedRow, List.find?_cons, other]

theorem licensesOf_nodup (store : LicensingStore) (subscriptionId : Id) :
    ((licensesOf store subscriptionId).map License.id).Nodup := by
  have apart : (licensesOf store subscriptionId).Pairwise Apart :=
    store.licenses.consistent.sublist List.filter_sublist
  rw [List.Nodup, List.pairwise_map]
  refine apart.imp (fun {left right} apart sameId => ?_)
  exact apart (.id left.id) (by simp [Keyed.keys]) (by simp [Keyed.keys, sameId])

/-- The licences under a subscription are renewed, and no others. -/
theorem renewLicenses_licensesOf (package : LicensingPackage) (input : RenewInput)
    (store : LicensingStore) :
    (renewLicenses package input (licensesOf store input.subscriptionId) store).1.licenses.rows =
      store.licenses.rows.map (fun row => if row.subscriptionId = some input.subscriptionId then
        reactivateLicense (package.renewalExpiration row.expiresAt input.effectiveAt
          (input.periodEnd - input.periodStart)) row
      else row) := by
  rw [renewLicenses_rows package input _ (licensesOf_nodup store _)]
  refine List.map_congr_left (fun row member => ?_)
  unfold renewedRow
  by_cases under : row.subscriptionId = some input.subscriptionId
  · have read : row ∈ licensesOf store input.subscriptionId :=
      (store.licenses.mem_select).mpr ⟨member, decide_eq_true under⟩
    cases found : (licensesOf store input.subscriptionId).find?
        (fun license => license.id = row.id) with
    | none => exact absurd (decide_eq_true rfl) (List.find?_eq_none.mp found row read)
    | some license =>
      have sameId : license.id = row.id := by simpa using List.find?_some found
      have inTable := (store.licenses.mem_select.mp (List.mem_of_find?_eq_some found)).1
      have sameRow : license = row := store.licenses.eq_of_common_key inTable member
        (by simp [Keyed.keys] : License.Key.id license.id ∈ Keyed.keys license)
        (by simp [Keyed.keys, sameId])
      rw [sameRow]
      exact (if_pos under).symm
  · have unread : (licensesOf store input.subscriptionId).find?
        (fun license => license.id = row.id) = none := by
      rw [List.find?_eq_none]
      intro license read sameId
      have inTable := store.licenses.mem_select.mp read
      have sameRow : license = row := store.licenses.eq_of_common_key inTable.1 member
        (by simp [Keyed.keys] : License.Key.id license.id ∈ Keyed.keys license)
        (by simp [Keyed.keys, of_decide_eq_true sameId])
      apply under
      rw [← sameRow]
      exact of_decide_eq_true inTable.2
    rw [unread]
    exact (if_neg under).symm

/-! ## One item -/

section Items

variable {package : LicensingPackage} {environment : Environment} {commerce : CommerceStore}
variable {moment : Moment} {order : Order} {accountId : Id} {evidence : PaymentEvidence}
variable {item : OrderItem} {before after : LicensingStore}
variable {requests : List RenewalLeaseRequest} {intervalUnit : IntervalUnit} {intervalCount : Int}

/-- The licence an item is answered with. -/
def itemLicense (environment : Environment) (moment : Moment) (order : Order) (accountId : Id)
    (item : OrderItem) (subscriptionId : Option Id) (expiresAt : Option Time) : License :=
  issuedLicense moment (issueInput environment moment order accountId item subscriptionId expiresAt)

/-- The period a renewal starts: after the current one, or now when that has
ended. -/
def renewedPeriodStart (now : Time) (existing : Subscription) : Time :=
  if existing.currentPeriodEnd > now then existing.currentPeriodEnd else now

def renewedPeriodEnd (now : Time) (existing : Subscription) (intervalUnit : IntervalUnit)
    (intervalCount : Int) : Time :=
  addBillingInterval (renewedPeriodStart now existing) intervalUnit intervalCount

/-- What answering one item wrote. -/
inductive ItemFulfilled (package : LicensingPackage) (environment : Environment)
    (commerce : CommerceStore) (moment : Moment) (order : Order) (accountId : Id) (item : OrderItem)
    (before after : LicensingStore) : Prop
  | issued (oneTime : item.billingType = .oneTime) (expiresAt : Option Time) (licenses : Table License)
    (inserted : before.licenses.insert
      (itemLicense environment moment order accountId item none expiresAt) = some licenses)
    (wrote : after = { before with licenses })
  | subscribed (recurring : item.billingType = .subscription)
    (renewsNothing : order.renewalSubscriptionId = none) (intervalUnit : IntervalUnit)
    (intervalCount : Int) (interval : billingInterval commerce item = .ok (intervalUnit, intervalCount))
    (subscriptions : Table Subscription)
    (opened : before.subscriptions.insert
      (createdSubscription moment order accountId item intervalUnit intervalCount) = some subscriptions)
    (licenses : Table License)
    (inserted : before.licenses.insert (itemLicense environment moment order accountId item
      (some (moment.draw (.subscriptionId item.id)))
      (some (addBillingInterval moment.now intervalUnit intervalCount))) = some licenses)
    (wrote : after = { before with subscriptions, licenses })
  | renewed (recurring : item.billingType = .subscription) (subscriptionId : Id)
    (renews : order.renewalSubscriptionId = some subscriptionId) (existing : Subscription)
    (found : before.subscriptions.lookup (.id subscriptionId) = some existing)
    (intervalUnit : IntervalUnit) (intervalCount : Int)
    (interval : billingInterval commerce item = .ok (intervalUnit, intervalCount))
    (subscriptions : after.subscriptions.rows = before.subscriptions.rows.map (fun row =>
      if row.id = subscriptionId then
        extendSubscription (renewedPeriodStart moment.now existing)
          (renewedPeriodEnd moment.now existing intervalUnit intervalCount) intervalUnit
          (consumesDiscount item existing) row
      else row))
    (licenses : after.licenses.rows = before.licenses.rows.map (fun row =>
      if row.subscriptionId = some subscriptionId then
        reactivateLicense (package.renewalExpiration row.expiresAt moment.now
          (renewedPeriodEnd moment.now existing intervalUnit intervalCount -
            renewedPeriodStart moment.now existing)) row
      else row))
    (deviceActivations : after.deviceActivations = before.deviceActivations)

theorem issueItem_commits (lawful : package.Lawful) {subscriptionId : Option Id} {expiresAt : Option Time}
    (commits : (issueItem package environment moment order accountId item subscriptionId
      expiresAt).Commits before requests after) :
    Exists fun licenses => before.licenses.insert
      (itemLicense environment moment order accountId item subscriptionId expiresAt) = some licenses ∧
      after = { before with licenses } := by
  unfold issueItem at commits
  rw [Transaction.commits_bind] at commits
  rcases commits with ⟨issued, middle, called, commits⟩
  cases issued with
  | refused => exact absurd commits Transaction.not_commits_throw
  | ok snapshot =>
    rcases Transaction.commits_pure.mp commits with ⟨_, rfl⟩
    rcases lawful.issue_relays _ _ _ _ _ called (by rintro ⟨⟩) with
      ⟨answer, inserted, _⟩
    unfold issue at inserted
    simp only [Transaction.commits_bind, Transaction.commits_get, Transaction.commits_orFail,
      Transaction.commits_set, Transaction.commits_pure] at inserted
    rcases inserted with ⟨_, _, ⟨rfl, rfl⟩, licenses, _, ⟨done, rfl⟩, _, _, rfl, _, rfl⟩
    exact ⟨licenses, done, rfl⟩

theorem subscribeItem_commits (lawful : package.Lawful) (recurring : item.billingType = .subscription)
    (renewsNothing : order.renewalSubscriptionId = none)
    (interval : billingInterval commerce item = .ok (intervalUnit, intervalCount))
    (commits : (subscribeItem package environment moment order accountId item intervalUnit
      intervalCount).Commits before requests after) :
    ItemFulfilled package environment commerce moment order accountId item before after := by
  unfold subscribeItem at commits
  simp only [Transaction.commits_bind, Transaction.commits_get, Transaction.commits_orFail,
    Transaction.commits_set] at commits
  rcases commits with ⟨_, _, ⟨rfl, rfl⟩, subscriptions, _, ⟨opened, rfl⟩, _, _, rfl, commits⟩
  rcases issueItem_commits lawful commits with ⟨licenses, inserted, rfl⟩
  exact .subscribed recurring renewsNothing intervalUnit intervalCount interval subscriptions opened
    licenses inserted rfl

/-- What renewing a subscription has read and written. -/
theorem renewItem_writes (lawful : package.Lawful) {subscriptionId : Id}
    (commits : (renewItem package moment order evidence item intervalUnit intervalCount
      subscriptionId).Commits before requests after) :
    Exists fun existing => before.subscriptions.lookup (.id subscriptionId) = some existing ∧
      after.subscriptions.rows = before.subscriptions.rows.map (fun row =>
        if row.id = subscriptionId then
          extendSubscription (renewedPeriodStart moment.now existing)
            (renewedPeriodEnd moment.now existing intervalUnit intervalCount) intervalUnit
            (consumesDiscount item existing) row
        else row) ∧
      after.licenses.rows = before.licenses.rows.map (fun row =>
        if row.subscriptionId = some subscriptionId then
          reactivateLicense (package.renewalExpiration row.expiresAt moment.now
            (renewedPeriodEnd moment.now existing intervalUnit intervalCount -
              renewedPeriodStart moment.now existing)) row
        else row) ∧
      after.deviceActivations = before.deviceActivations := by
  unfold renewItem at commits
  simp only [Transaction.commits_bind, Transaction.commits_get, Transaction.commits_orFail,
    Transaction.commits_set] at commits
  rcases commits with ⟨_, _, ⟨rfl, rfl⟩, existing, _, ⟨found, rfl⟩, _, _, rfl, result, middle, called,
    commits⟩
  cases result with
  | refused => exact absurd commits Transaction.not_commits_throw
  | ok renewal =>
    rcases Transaction.commits_pure.mp commits with ⟨_, rfl⟩
    rcases lawful.renewSubscription_relays _ _ _ _ _ called (by rintro ⟨⟩) with
      ⟨answer, renewed, _⟩
    unfold renewSubscription at renewed
    simp only [Transaction.commits_bind, Transaction.commits_get, Transaction.commits_set,
      Transaction.commits_pure] at renewed
    rcases renewed with ⟨_, _, ⟨rfl, rfl⟩, _, _, rfl, _, rfl⟩
    have sameId : existing.id = subscriptionId := by
      have key := before.subscriptions.lookup_key found
      simpa [Keyed.keys, eq_comm] using key
    refine ⟨existing, found, ?_, ?_, ?_⟩
    · rw [(renewLicenses_frame package _ _ _).1]
      simp only [Table.update, decide_eq_true_eq, sameId]
      rfl
    · rw [renewLicenses_licensesOf package]
      simp only [sameId]
      rfl
    · rw [(renewLicenses_frame package _ _ _).2]

theorem renewItem_commits (lawful : package.Lawful) {subscriptionId : Id}
    (recurring : item.billingType = .subscription)
    (renews : order.renewalSubscriptionId = some subscriptionId)
    (interval : billingInterval commerce item = .ok (intervalUnit, intervalCount))
    (commits : (renewItem package moment order evidence item intervalUnit intervalCount
      subscriptionId).Commits before requests after) :
    ItemFulfilled package environment commerce moment order accountId item before after := by
  rcases renewItem_writes lawful commits with ⟨existing, found, subscriptions, licenses, deviceActivations⟩
  exact .renewed recurring subscriptionId renews existing found intervalUnit intervalCount interval
    subscriptions licenses deviceActivations

theorem fulfillItem_commits (lawful : package.Lawful)
    (commits : (fulfillItem package environment commerce moment order accountId evidence item).Commits
      before requests after) :
    ItemFulfilled package environment commerce moment order accountId item before after := by
  unfold fulfillItem at commits
  split at commits
  case h_1 oneTime =>
    rcases issueItem_commits lawful commits with ⟨licenses, inserted, wrote⟩
    exact .issued oneTime _ licenses inserted wrote
  case h_2 recurring =>
    split at commits
    case h_1 => exact absurd commits Transaction.not_commits_throw
    case h_2 intervalUnit intervalCount interval =>
      split at commits
      case h_1 subscriptionId renews => exact renewItem_commits lawful recurring renews interval commits
      case h_2 renewsNothing =>
        exact subscribeItem_commits lawful recurring renewsNothing interval commits

theorem fulfillItems_commits (lawful : package.Lawful) (items : List OrderItem)
    (commits : (fulfillItems package environment commerce moment order accountId evidence items).Commits
      before requests after) :
    Steps (ItemFulfilled package environment commerce moment order accountId) items before after := by
  induction items generalizing before requests with
  | nil =>
    rcases Transaction.commits_pure.mp commits with ⟨_, rfl⟩
    exact Steps.nil _
  | cons item rest inductionHypothesis =>
    rw [fulfillItems] at commits
    simp only [Transaction.commits_bind, Transaction.commits_pure] at commits
    rcases commits with ⟨_, middle, first, _, _, later, _, rfl⟩
    exact Steps.cons (fulfillItem_commits lawful first) (inductionHypothesis later)

end Items

variable {package : LicensingPackage} {environment : Environment} {commerce : CommerceStore}
variable {moment : Moment} {before after : LicensingStore}
variable {order : Order} {accountId : Id} {item : OrderItem} {target : LicensingFulfillmentTarget}

/-- What a committed fulfilment of an order has done. -/
structure OrderFulfilled (package : LicensingPackage) (environment : Environment)
    (commerce : CommerceStore) (moment : Moment) (target : LicensingFulfillmentTarget) (order : Order)
    (before after : LicensingStore) : Prop where
  named : target.orderItemId.isSome = true -> (targetItems commerce order target).length = 1
  items : Steps (ItemFulfilled package environment commerce moment order
    (target.accountId.getD order.accountId)) (targetItems commerce order target) before after

theorem fulfillOrderLicensing_commits (lawful : package.Lawful) {orderId : Id}
    {evidence : PaymentEvidence} {requests : List RenewalLeaseRequest}
    (commits : (fulfillOrderLicensing package environment commerce moment orderId evidence
      target).Commits before requests after) :
    Exists fun order => commerce.orders.lookup (.id orderId) = some order ∧
      OrderFulfilled package environment commerce moment target order before after := by
  unfold fulfillOrderLicensing at commits
  simp only [Transaction.commits_bind, Transaction.commits_orFail] at commits
  rcases commits with ⟨order, _, ⟨found, rfl⟩, commits⟩
  refine ⟨order, found, ?_⟩
  rcases Transaction.commits_ite.mp commits with ⟨_, commits⟩ | ⟨named, commits⟩
  · simp only [Transaction.commits_bind, Transaction.not_commits_throw, false_and, exists_false] at commits
  · refine ⟨fun targeted => ?_, fulfillItems_commits lawful _ commits⟩
    by_contra many
    exact named ⟨targeted, many⟩

theorem mem_targetItems :
    item ∈ targetItems commerce order target ↔ item ∈ commerce.orderItems ∧ item.orderId = order.id ∧
      forall orderItemId, target.orderItemId = some orderItemId -> item.id = orderItemId := by
  unfold targetItems
  cases target.orderItemId with
  | none => simp only [Table.mem_select, decide_eq_true_eq, reduceCtorEq, false_implies, implies_true,
      and_true]
  | some named =>
    simp only [List.mem_filter, Table.mem_select, decide_eq_true_eq, Option.some.injEq]
    constructor
    · rintro ⟨⟨member, ofOrder⟩, same⟩
      exact ⟨member, ofOrder, fun _ isNamed => isNamed ▸ same⟩
    · rintro ⟨member, ofOrder, same⟩
      exact ⟨⟨member, ofOrder⟩, same named rfl⟩

/-! ## What never changes -/

/-- The terms of a licence: all of it but its status and its expiry. -/
def licenseTerms (license : License) : License := { license with status := .active, expiresAt := none }

/-- The part of a subscription that says whose it is and where it came from. -/
def subscriptionTerms (subscription : Subscription) : Id × Id × Id × Option Id :=
  (subscription.id, subscription.accountId, subscription.orderId, subscription.editionId)

/-- Licences and subscriptions are added and never removed. -/
structure LicensingGrows (before after : LicensingStore) : Prop where
  licenses : Table.Grows licenseTerms before.licenses after.licenses
  subscriptions : Table.Grows subscriptionTerms before.subscriptions after.subscriptions

theorem LicensingGrows.refl (store : LicensingStore) : LicensingGrows store store :=
  ⟨Table.Grows.refl _ _, Table.Grows.refl _ _⟩

theorem LicensingGrows.trans {first second third : LicensingStore} (left : LicensingGrows first second)
    (right : LicensingGrows second third) : LicensingGrows first third :=
  ⟨left.licenses.trans right.licenses, left.subscriptions.trans right.subscriptions⟩

theorem ItemFulfilled.grows
    (fulfilled : ItemFulfilled package environment commerce moment order accountId item before after) :
    LicensingGrows before after := by
  cases fulfilled with
  | issued _ expiresAt licenses inserted wrote =>
    rw [wrote]
    exact ⟨Table.grows_insert inserted, Table.Grows.refl _ _⟩
  | subscribed _ _ intervalUnit intervalCount _ subscriptions opened licenses inserted wrote =>
    rw [wrote]
    exact ⟨Table.grows_insert inserted, Table.grows_insert opened⟩
  | renewed _ subscriptionId _ _ _ intervalUnit intervalCount _ subscriptions licenses _ =>
    constructor
    · intro old member
      refine ⟨_, (Table.mem_of_rows licenses).mpr ⟨old, member, rfl⟩, ?_⟩
      split
      · rfl
      · rfl
    · intro old member
      refine ⟨_, (Table.mem_of_rows subscriptions).mpr ⟨old, member, rfl⟩, ?_⟩
      split
      · rfl
      · rfl

/-- An item that is not a renewal leaves a licence of its own. -/
def Licensed (item : OrderItem) (store : LicensingStore) : Prop :=
  Exists fun license => license ∈ store.licenses ∧ license.orderItemId = item.id

theorem LicensingGrows.licensed (grows : LicensingGrows before after) (licensed : Licensed item before) :
    Licensed item after := by
  rcases licensed with ⟨license, member, ofItem⟩
  rcases grows.licenses license member with ⟨later, laterMember, same⟩
  have sameItem : later.orderItemId = license.orderItemId := Table.eq_of_mask same (fun _ => rfl)
  exact ⟨later, laterMember, sameItem.trans ofItem⟩

/-- Whether an item of an order extends a subscription instead of starting
something of its own. -/
def renewsItem (order : Order) (item : OrderItem) : Bool :=
  order.renewalSubscriptionId.isSome && item.billingType = .subscription

theorem ItemFulfilled.licensed
    (fulfilled : ItemFulfilled package environment commerce moment order accountId item before after)
    (fresh : renewsItem order item = false) : Licensed item after := by
  cases fulfilled with
  | issued _ expiresAt licenses inserted wrote =>
    rw [wrote]
    exact ⟨_, (Table.mem_insert inserted).mpr (Or.inr rfl), rfl⟩
  | subscribed _ _ intervalUnit intervalCount _ subscriptions opened licenses inserted wrote =>
    rw [wrote]
    exact ⟨_, (Table.mem_insert inserted).mpr (Or.inr rfl), rfl⟩
  | renewed recurring subscriptionId renews =>
    simp [renewsItem, renews, recurring] at fresh

/-- A licence is unique per order item, so an item is answered with a licence
once. -/
theorem ItemFulfilled.unlicensed
    (fulfilled : ItemFulfilled package environment commerce moment order accountId item before after)
    (fresh : renewsItem order item = false) : ¬ Licensed item before := by
  have refused : forall {license : License} {licenses : Table License},
      before.licenses.insert license = some licenses -> license.orderItemId = item.id ->
      ¬ Licensed item before := by
    rintro license licenses inserted ofItem ⟨holder, member, heldFor⟩
    have wanted : License.Key.orderItemId item.id ∈ Keyed.keys license := by simp [Keyed.keys, ofItem]
    have free := Table.lookup_eq_none_of_insert inserted wanted
    exact before.licenses.lookup_eq_none.mp free holder member (by simp [Keyed.keys, heldFor])
  cases fulfilled with
  | issued _ expiresAt licenses inserted _ => exact refused inserted rfl
  | subscribed _ _ intervalUnit intervalCount _ subscriptions opened licenses inserted _ =>
    exact refused inserted rfl
  | renewed recurring subscriptionId renews =>
    simp [renewsItem, renews, recurring] at fresh

theorem OrderFulfilled.grows
    (fulfilled : OrderFulfilled package environment commerce moment target order before after) :
    LicensingGrows before after :=
  fulfilled.items.related LicensingGrows LicensingGrows.refl
    (fun _ _ _ left right => left.trans right) (fun _ _ _ _ step => step.grows)

end Licensing
end DigitalSolutions

import DigitalSolutions.Licensing.Fulfillment

namespace DigitalSolutions
namespace Licensing

open Foundation Persistence Platform

/-!
# Periods of subscriptions and their licences

A subscription ends its period at an instant of the calendar, its licences
expire at an instant the licensing package computes from a duration.  The
duration is the length of the calendar period that starts where the package
starts to count, so the two instants agree after a renewal if they agreed
before it.
-/

variable {existing : Subscription}

/-- `lib/licensing/renewal.ts`. -/
def renewalExpiration (currentExpiry : Option Time) (effectiveAt : Time) (durationMs : Int) : Time :=
  let base := match currentExpiry with
    | some expiry => if expiry > effectiveAt then expiry else effectiveAt
    | none => effectiveAt
  base + durationMs

/-- Billing intervals are positive numbers of months or years, and offers
discount no negative number of cycles. -/
structure Priced (commerce : CommerceStore) : Prop where
  intervals : forall item, item ∈ commerce.orderItems -> forall intervalUnit intervalCount,
    billingInterval commerce item = .ok (intervalUnit, intervalCount) -> 0 < intervalCount
  cycles : forall item, item ∈ commerce.orderItems -> forall cycles,
    item.pricingSnapshot.offer.bind OfferSnapshot.discountedBillingCycles = some cycles -> 0 ≤ cycles

instance (commerce : CommerceStore) : Decidable (Priced commerce) :=
  decidable_of_iff
    ((forall item, item ∈ commerce.orderItems.rows ->
      (billingInterval commerce item).toOption.all (fun interval => 0 < interval.2) = true) ∧
    forall item, item ∈ commerce.orderItems.rows ->
      (item.pricingSnapshot.offer.bind OfferSnapshot.discountedBillingCycles).all
        (fun cycles => 0 ≤ cycles) = true) (by
    constructor
    · rintro ⟨intervals, cycles⟩
      constructor
      · intro item member intervalUnit intervalCount interval
        have positive := intervals item member
        rw [interval] at positive
        exact of_decide_eq_true positive
      · intro item member count offered
        have low := cycles item member
        rw [offered] at low
        exact of_decide_eq_true low
    · intro priced
      constructor
      · intro item member
        cases interval : billingInterval commerce item with
        | error failure => rfl
        | ok interval' => exact decide_eq_true (priced.intervals item member _ _ interval)
      · intro item member
        cases offered : item.pricingSnapshot.offer.bind OfferSnapshot.discountedBillingCycles with
        | none => rfl
        | some cycles => exact decide_eq_true (priced.cycles item member _ offered))

/-- The dates of every licence under a subscription, and the counter of
discounted cycles. -/
structure Dated (store : LicensingStore) : Prop where
  attached : forall license, license ∈ store.licenses -> forall subscriptionId,
    license.subscriptionId = some subscriptionId ->
    Exists fun subscription => subscription ∈ store.subscriptions ∧ subscription.id = subscriptionId
  agree : forall license, license ∈ store.licenses ->
    forall subscription, subscription ∈ store.subscriptions ->
    license.subscriptionId = some subscription.id ->
    license.expiresAt = some subscription.currentPeriodEnd
  discounted : forall subscription, subscription ∈ store.subscriptions ->
    forall total, subscription.discountedCyclesTotal = some total ->
    subscription.discountedCyclesConsumed ≤ total

theorem Dated.empty {store : LicensingStore} (licenses : store.licenses = ∅)
    (subscriptions : store.subscriptions = ∅) : Dated store := by
  constructor
  · intro license member
    rw [licenses] at member
    exact absurd member (Table.not_mem_empty license)
  · intro license member
    rw [licenses] at member
    exact absurd member (Table.not_mem_empty license)
  · intro subscription member
    rw [subscriptions] at member
    exact absurd member (Table.not_mem_empty subscription)

/-! ## One renewal -/

/-- What a renewal owes its buyer: the paid time grows by an interval, from
the end of the current period or, when that has passed, from now. -/
structure PaidTime (effectiveAt : Time) (interval : Time -> Time) (old new : Subscription) : Prop where
  later : old.currentPeriodEnd < new.currentPeriodEnd
  early : effectiveAt < old.currentPeriodEnd -> interval old.currentPeriodEnd ≤ new.currentPeriodEnd
  late : old.currentPeriodEnd ≤ effectiveAt -> interval effectiveAt ≤ new.currentPeriodEnd
  start : old.currentPeriodEnd ≤ new.currentPeriodStart ∧ effectiveAt ≤ new.currentPeriodStart

theorem renewedPeriodStart_early {now : Time} (early : now < existing.currentPeriodEnd) :
    renewedPeriodStart now existing = existing.currentPeriodEnd :=
  if_pos early

theorem renewedPeriodStart_late {now : Time} (late : existing.currentPeriodEnd ≤ now) :
    renewedPeriodStart now existing = now :=
  if_neg (Int.not_lt.mpr late)

theorem le_renewedPeriodStart (now : Time) (existing : Subscription) :
    existing.currentPeriodEnd ≤ renewedPeriodStart now existing ∧
      now ≤ renewedPeriodStart now existing := by
  rcases Int.lt_or_le now existing.currentPeriodEnd with early | late
  · rw [renewedPeriodStart_early early]
    exact ⟨Int.le_refl _, Int.le_of_lt early⟩
  · rw [renewedPeriodStart_late late]
    exact ⟨late, Int.le_refl _⟩

theorem paidTime_extend {now : Time} {intervalUnit : IntervalUnit} {intervalCount : Int}
    (positive : 0 < intervalCount) (consumeDiscount : Bool) :
    PaidTime now (fun start => addBillingInterval start intervalUnit intervalCount) existing
      (extendSubscription (renewedPeriodStart now existing)
        (renewedPeriodEnd now existing intervalUnit intervalCount) intervalUnit consumeDiscount
        existing) := by
  have start := le_renewedPeriodStart now existing
  have forward := addBillingInterval_later (renewedPeriodStart now existing) intervalUnit positive
  constructor
  · exact Int.lt_of_le_of_lt start.1 forward
  · intro early
    rw [extendSubscription, renewedPeriodEnd, renewedPeriodStart_early early]
  · intro late
    rw [extendSubscription, renewedPeriodEnd, renewedPeriodStart_late late]
  · exact start

/-- The licensing package counts the duration of the period from where the
period starts. -/
theorem renewalExpiration_agrees (now : Time) (existing : Subscription) (intervalUnit : IntervalUnit)
    (intervalCount : Int) :
    renewalExpiration (some existing.currentPeriodEnd) now
      (renewedPeriodEnd now existing intervalUnit intervalCount - renewedPeriodStart now existing) =
      renewedPeriodEnd now existing intervalUnit intervalCount := by
  have base : renewalExpiration (some existing.currentPeriodEnd) now
      (renewedPeriodEnd now existing intervalUnit intervalCount - renewedPeriodStart now existing) =
      renewedPeriodStart now existing + (renewedPeriodEnd now existing intervalUnit intervalCount -
        renewedPeriodStart now existing) := rfl
  rw [base, Int.add_comm]
  exact Int.sub_add_cancel _ _

/-- A discounted cycle is consumed only while one is left. -/
theorem discounted_extend {item : OrderItem} {total : Int} {periodStart periodEnd : Time}
    {intervalUnit : IntervalUnit} (offered : existing.discountedCyclesTotal = some total)
    (within : existing.discountedCyclesConsumed ≤ total) :
    (extendSubscription periodStart periodEnd intervalUnit (consumesDiscount item existing)
      existing).discountedCyclesConsumed ≤ total := by
  unfold extendSubscription
  dsimp only
  split
  · rename_i consumes
    simp only [consumesDiscount, offered, Option.getD_some, Bool.and_eq_true, decide_eq_true_eq]
      at consumes
    exact consumes.2
  · exact within

/-! ## One item, one order -/

section Items

variable {package : LicensingPackage} {environment : Environment} {commerce : CommerceStore}
variable {moment : Moment} {order : Order} {accountId : Id} {item : OrderItem}
variable {before after : LicensingStore}

/-- One renewal by an item of the shop, at its price's interval. -/
def Extends (commerce : CommerceStore) (effectiveAt : Time) (old new : Subscription) : Prop :=
  Exists fun item => Exists fun intervalUnit => Exists fun intervalCount =>
    item ∈ commerce.orderItems ∧ billingInterval commerce item = .ok (intervalUnit, intervalCount) ∧
    PaidTime effectiveAt (fun start => addBillingInterval start intervalUnit intervalCount) old new

/-- Every subscription is still there, after some renewals. -/
def SubscriptionsExtend (commerce : CommerceStore) (effectiveAt : Time) (before after : LicensingStore) :
    Prop :=
  forall subscription, subscription ∈ before.subscriptions -> Exists fun later =>
    later ∈ after.subscriptions ∧ later.id = subscription.id ∧
    Relation.ReflTransGen (Extends commerce effectiveAt) subscription later

theorem SubscriptionsExtend.refl (commerce : CommerceStore) (effectiveAt : Time)
    (store : LicensingStore) : SubscriptionsExtend commerce effectiveAt store store :=
  fun subscription member => ⟨subscription, member, rfl, Relation.ReflTransGen.refl⟩

theorem SubscriptionsExtend.trans {effectiveAt : Time} {first second third : LicensingStore}
    (left : SubscriptionsExtend commerce effectiveAt first second)
    (right : SubscriptionsExtend commerce effectiveAt second third) :
    SubscriptionsExtend commerce effectiveAt first third := by
  intro subscription member
  rcases left subscription member with ⟨middle, middleMember, middleId, toMiddle⟩
  rcases right middle middleMember with ⟨later, laterMember, laterId, toLater⟩
  exact ⟨later, laterMember, laterId.trans middleId, toMiddle.trans toLater⟩

/-- The subscription that was read is the one row of its identifier. -/
private theorem existing_of_id {subscriptionId : Id} {row : Subscription}
    (found : before.subscriptions.lookup (.id subscriptionId) = some existing)
    (member : row ∈ before.subscriptions) (named : row.id = subscriptionId) : row = existing := by
  have again := before.subscriptions.lookup_of_mem member
    (by simp [Keyed.keys, named] : Subscription.Key.id subscriptionId ∈ Keyed.keys row)
  rw [found, Option.some.injEq] at again
  exact again.symm

theorem ItemFulfilled.extends (priced : Priced commerce) (member : item ∈ commerce.orderItems)
    (fulfilled : ItemFulfilled package environment commerce moment order accountId item before after) :
    SubscriptionsExtend commerce moment.now before after := by
  cases fulfilled with
  | issued _ expiresAt licenses inserted wrote =>
    rw [wrote]
    exact SubscriptionsExtend.refl _ _ _
  | subscribed _ _ intervalUnit intervalCount _ subscriptions opened licenses inserted wrote =>
    rw [wrote]
    intro subscription old
    exact ⟨subscription, (Table.mem_insert opened).mpr (Or.inl old), rfl, Relation.ReflTransGen.refl⟩
  | renewed _ subscriptionId _ existing found intervalUnit intervalCount interval subscriptions
      licenses _ =>
    intro subscription old
    refine ⟨_, (Table.mem_of_rows subscriptions).mpr ⟨subscription, old, rfl⟩, ?_⟩
    by_cases renewed : subscription.id = subscriptionId
    · have same := existing_of_id found old renewed
      rw [if_pos renewed, same]
      refine ⟨rfl, Relation.ReflTransGen.single ⟨item, intervalUnit, intervalCount, member, interval, ?_⟩⟩
      exact paidTime_extend (priced.intervals item member _ _ interval) _
    · rw [if_neg renewed]
      exact ⟨rfl, Relation.ReflTransGen.refl⟩

theorem ItemFulfilled.dated (renews : package.renewalExpiration = renewalExpiration)
    (priced : Priced commerce) (member : item ∈ commerce.orderItems) (dated : Dated before)
    (fulfilled : ItemFulfilled package environment commerce moment order accountId item before after) :
    Dated after := by
  cases fulfilled with
  | issued _ expiresAt licenses inserted wrote =>
    rw [wrote]
    constructor
    · intro license inLicenses subscriptionId under
      rcases (Table.mem_insert inserted).mp inLicenses with old | rfl
      · exact dated.attached license old subscriptionId under
      · cases under
    · intro license inLicenses subscription inSubscriptions under
      rcases (Table.mem_insert inserted).mp inLicenses with old | rfl
      · exact dated.agree license old subscription inSubscriptions under
      · cases under
    · exact dated.discounted
  | subscribed _ _ intervalUnit intervalCount _ subscriptions opened licenses inserted wrote =>
    rw [wrote]
    have named : Subscription.Key.id (moment.draw (.subscriptionId item.id)) ∈
        Keyed.keys (createdSubscription moment order accountId item intervalUnit intervalCount) :=
      List.mem_singleton.mpr rfl
    have free := Table.lookup_eq_none_of_insert opened named
    -- No earlier subscription, and so no earlier licence, goes by the new identifier.
    have unused : forall subscription, subscription ∈ before.subscriptions ->
        subscription.id ≠ moment.draw (.subscriptionId item.id) := by
      intro subscription old sameId
      exact before.subscriptions.lookup_eq_none.mp free subscription old
        (by simp [Keyed.keys, sameId])
    constructor
    · intro license inLicenses subscriptionId under
      rcases (Table.mem_insert inserted).mp inLicenses with old | rfl
      · rcases dated.attached license old subscriptionId under with ⟨subscription, oldSub, named⟩
        exact ⟨subscription, (Table.mem_insert opened).mpr (Or.inl oldSub), named⟩
      · exact ⟨_, (Table.mem_insert opened).mpr (Or.inr rfl), Option.some.inj under⟩
    · intro license inLicenses subscription inSubscriptions under
      rcases (Table.mem_insert inserted).mp inLicenses with old | rfl
      · rcases (Table.mem_insert opened).mp inSubscriptions with oldSub | rfl
        · exact dated.agree license old subscription oldSub under
        · rcases dated.attached license old _ under with ⟨other, oldOther, named⟩
          exact absurd named (unused other oldOther)
      · rcases (Table.mem_insert opened).mp inSubscriptions with oldSub | rfl
        · exact absurd (Option.some.inj under).symm (unused subscription oldSub)
        · rfl
    · intro subscription inSubscriptions total offered
      rcases (Table.mem_insert opened).mp inSubscriptions with oldSub | rfl
      · exact dated.discounted subscription oldSub total offered
      · have low := priced.cycles item member total offered
        change item.pricingSnapshot.offer.bind OfferSnapshot.discountedBillingCycles = some total at offered
        simp only [createdSubscription, offered, positiveCount]
        split
        · rename_i truthy
          have nonzero : total ≠ 0 := of_decide_eq_true truthy
          omega
        · exact low
  | renewed _ subscriptionId _ existing found intervalUnit intervalCount interval subscriptions
      licenses _ =>
    have kept : forall row : Subscription, (if row.id = subscriptionId then
        extendSubscription (renewedPeriodStart moment.now existing)
          (renewedPeriodEnd moment.now existing intervalUnit intervalCount) intervalUnit
          (consumesDiscount item existing) row else row).id = row.id := by
      intro row
      split
      · rfl
      · rfl
    constructor
    · intro license inLicenses attachedId under
      rcases (Table.mem_of_rows licenses).mp inLicenses with ⟨old, oldMember, became⟩
      have underBefore : old.subscriptionId = some attachedId := by
        rw [← under, ← became]
        split
        · rfl
        · rfl
      rcases dated.attached old oldMember attachedId underBefore with ⟨subscription, oldSub, named⟩
      exact ⟨_, (Table.mem_of_rows subscriptions).mpr ⟨subscription, oldSub, rfl⟩,
        (kept subscription).trans named⟩
    · intro license inLicenses subscription inSubscriptions under
      rcases (Table.mem_of_rows licenses).mp inLicenses with ⟨old, oldMember, became⟩
      rcases (Table.mem_of_rows subscriptions).mp inSubscriptions with ⟨oldSub, oldSubMember, becameSub⟩
      have sameId : subscription.id = oldSub.id := by
        rw [← becameSub]
        exact kept oldSub
      have underBefore : old.subscriptionId = some oldSub.id := by
        rw [← sameId, ← under, ← became]
        split
        · rfl
        · rfl
      have agreed := dated.agree old oldMember oldSub oldSubMember underBefore
      by_cases renewed : oldSub.id = subscriptionId
      · have same := existing_of_id found oldSubMember renewed
        have renewedLicense : old.subscriptionId = some subscriptionId := by rw [underBefore, renewed]
        rw [if_pos renewedLicense, renews, agreed, same, renewalExpiration_agrees] at became
        rw [if_pos renewed] at becameSub
        rw [← became, ← becameSub]
        rfl
      · have otherLicense : ¬ old.subscriptionId = some subscriptionId := by
          rw [underBefore]
          exact fun same => renewed (Option.some.inj same)
        rw [if_neg otherLicense] at became
        rw [if_neg renewed] at becameSub
        rw [← became, ← becameSub]
        exact agreed
    · intro subscription inSubscriptions total offered
      rcases (Table.mem_of_rows subscriptions).mp inSubscriptions with ⟨oldSub, oldSubMember, becameSub⟩
      by_cases renewed : oldSub.id = subscriptionId
      · have same := existing_of_id found oldSubMember renewed
        rw [if_pos renewed, same] at becameSub
        rw [← becameSub] at offered ⊢
        rw [same] at oldSubMember
        exact discounted_extend offered (dated.discounted existing oldSubMember total offered)
      · rw [if_neg renewed] at becameSub
        rw [← becameSub] at offered ⊢
        exact dated.discounted oldSub oldSubMember total offered

variable {target : LicensingFulfillmentTarget}

theorem OrderFulfilled.dated (renews : package.renewalExpiration = renewalExpiration)
    (priced : Priced commerce) (dated : Dated before)
    (fulfilled : OrderFulfilled package environment commerce moment target order before after) :
    Dated after := by
  refine fulfilled.items.invariant (fun item named _ _ holds step => ?_) dated
  exact step.dated renews priced (mem_targetItems.mp named).1 holds

theorem OrderFulfilled.extends (priced : Priced commerce)
    (fulfilled : OrderFulfilled package environment commerce moment target order before after) :
    SubscriptionsExtend commerce moment.now before after :=
  fulfilled.items.related (SubscriptionsExtend commerce moment.now)
    (SubscriptionsExtend.refl commerce moment.now) (fun _ _ _ left right => left.trans right)
    (fun _ named _ _ step => step.extends priced (mem_targetItems.mp named).1)

end Items

end Licensing
end DigitalSolutions

import DigitalSolutions.Foundation.Processes
import DigitalSolutions.Persistence.Schema
import DigitalSolutions.Platform.Text

namespace DigitalSolutions
namespace Offers

open Foundation Persistence Platform

/-!
# Discount offers and their redemptions

Administrators enable, disable and revoke an offer with a read, a decision and
an update by id.  A checkout reserves a redemption while it holds the lock of
the offer's row, and reads the offer again under the lock.
-/

inductive DiscountType
  | generalPromotion | customerAccountOffer | administrativeAdjustment
  deriving DecidableEq

inductive DiscountStatus
  | draft | active | disabled | revoked | expired
  deriving DecidableEq

structure DiscountOffer where
  id : Id
  codeNormalized : Option String
  type : DiscountType
  status : DiscountStatus
  discountBps : Int
  startsAt : Time
  endsAt : Option Time
  productId : Option Id
  editionId : Option Id
  purchasePlanId : Option Id
  customerAccountId : Option Id
  maximumRedemptions : Option Nat
  perAccountRedemptionLimit : Option Nat
  discountedBillingCycles : Option Nat
  allowZeroTotal : Bool
  revokedAt : Option Time
  deriving DecidableEq

inductive DiscountOffer.Key
  | id (value : Id) | codeNormalized (value : String)
  deriving DecidableEq

instance : Keyed DiscountOffer DiscountOffer.Key where
  keys offer := .id offer.id ::
    match offer.codeNormalized with
    | some code => [.codeNormalized code]
    | none => []

structure OfferRedemption where
  id : Id
  offerId : Id
  accountId : Id
  orderId : Id
  status : OfferRedemptionStatus
  discountBps : Int
  baseMinor : Int
  discountMinor : Int
  finalMinor : Int
  currency : String
  pricingVersion : String
  deriving DecidableEq

inductive OfferRedemption.Key
  | id (value : Id) | orderId (value : Id)
  deriving DecidableEq

instance : Keyed OfferRedemption OfferRedemption.Key where
  keys redemption := [.id redemption.id, .orderId redemption.orderId]

inductive OfferAction
  | enable | disable | revoke
  deriving DecidableEq

structure OfferAuditLog where
  actorId : Id
  accountId : Option Id
  action : OfferAction
  targetId : Id
  previousStatus : DiscountStatus
  status : DiscountStatus
  deriving DecidableEq

structure OfferStore where
  offers : Table DiscountOffer
  redemptions : Table OfferRedemption
  auditLogs : List OfferAuditLog
  deriving DecidableEq

/-! ## Prices -/

def maxSafeInteger : Int := 2 ^ 53 - 1

/-- `roundRatioHalfUp`, of a numerator that is not negative. -/
def roundRatioHalfUp (numerator denominator : Int) : Option Int :=
  if denominator ≤ 0 ∨ numerator < 0 then none
  else
    let value := (numerator + denominator / 2) / denominator
    if value ≤ maxSafeInteger then some value else none

structure DiscountedAmount where
  discountAmountMinor : Int
  finalAmountMinor : Int
  deriving DecidableEq

def applyOfferDiscount (catalogAmountMinor discountBps : Int) : Option DiscountedAmount :=
  if catalogAmountMinor < 1 ∨ maxSafeInteger < catalogAmountMinor then none
  else if discountBps < 0 ∨ 10000 < discountBps then none
  else
    (roundRatioHalfUp (catalogAmountMinor * (10000 - discountBps)) 10000).bind fun finalAmountMinor =>
      if finalAmountMinor < 0 ∨ catalogAmountMinor < finalAmountMinor then none
      else some ⟨catalogAmountMinor - finalAmountMinor, finalAmountMinor⟩

/-! ## Reservations -/

structure OfferPlanContext where
  id : Id
  type : PurchasePlanType
  editionId : Id
  productId : Id
  currency : String
  deriving DecidableEq

def normalizeOfferCode (value : String) : String := toUpperCase (trim value)

/-- A column restricts an offer to another value. -/
def restricts (column : Option Id) (value : Id) : Bool :=
  column.any fun required => required ≠ "" && required ≠ value

def offerMatches (offer : DiscountOffer) (plan : OfferPlanContext) (accountId : Id) (now : Time) : Bool :=
  offer.status = .active && offer.revokedAt.isNone && offer.startsAt ≤ now &&
    offer.endsAt.all (fun endsAt => now < endsAt) && !(restricts offer.customerAccountId accountId) &&
    !(restricts offer.productId plan.productId) && !(restricts offer.editionId plan.editionId) &&
    !(restricts offer.purchasePlanId plan.id) &&
    !(offer.discountedBillingCycles.any (fun cycles => cycles ≠ 0) && plan.type ≠ .monthly)

structure OfferCheckout where
  identifier : String
  accountId : Id
  orderId : Id
  plan : OfferPlanContext
  catalogAmountMinor : Int
  deriving DecidableEq

/-- The offers that an identifier names, by id or by code. -/
def candidates (identifier : String) (store : OfferStore) : List DiscountOffer :=
  store.offers.select fun offer =>
    offer.id = identifier || offer.codeNormalized = some (normalizeOfferCode identifier)

def isUsed (redemption : OfferRedemption) : Bool :=
  redemption.status = .reserved || redemption.status = .applied || redemption.status = .refunded

def redemptionCount (store : OfferStore) (offerId : Id) : Nat :=
  (store.redemptions.select fun redemption => redemption.offerId = offerId && isUsed redemption).length

def accountRedemptionCount (store : OfferStore) (offerId accountId : Id) : Nat :=
  (store.redemptions.select fun redemption =>
    redemption.offerId = offerId && redemption.accountId = accountId && isUsed redemption).length

/-- A limit has been reached. -/
def isReached (limit : Option Nat) (count : Nat) : Bool := limit.any fun most => most ≤ count

/-- A total of nothing needs an offer that allows it, and for a perpetual plan one
that is no general promotion. -/
def zeroTotalAllowed (offer : DiscountOffer) (plan : OfferPlanContext) : Bool :=
  offer.allowZeroTotal && !(plan.type = .perpetual && offer.type = .generalPromotion)

inductive OfferError
  | message (text : String)
  | uniqueViolation
  deriving DecidableEq

/-- What `resolveAndReserveOffer` does under the lock of the offer's row. -/
def reserveOffer (offerId : Id) (checkout : OfferCheckout) (redemptionId : Id) (now : Time)
    (store : OfferStore) : Except OfferError OfferStore :=
  match store.offers.lookup (.id offerId) with
  | none => .error (.message "OFFER_NOT_FOUND")
  | some offer =>
    if offerMatches offer checkout.plan checkout.accountId now = false then
      .error (.message "OFFER_NOT_FOUND")
    else if isReached offer.maximumRedemptions (redemptionCount store offer.id) then
      .error (.message "OFFER_LIMIT_REACHED")
    else if isReached offer.perAccountRedemptionLimit
        (accountRedemptionCount store offer.id checkout.accountId) then
      .error (.message "OFFER_ACCOUNT_LIMIT_REACHED")
    else
      match applyOfferDiscount checkout.catalogAmountMinor offer.discountBps with
      | none => .error (.message "INVALID_DISCOUNTED_AMOUNT")
      | some discounted =>
        if discounted.finalAmountMinor = 0 ∧ zeroTotalAllowed offer checkout.plan = false then
          .error (.message "ZERO_TOTAL_NOT_AUTHORIZED")
        else
          match store.redemptions.insert
            { id := redemptionId
              offerId := offer.id
              accountId := checkout.accountId
              orderId := checkout.orderId
              status := .reserved
              discountBps := offer.discountBps
              baseMinor := checkout.catalogAmountMinor
              discountMinor := discounted.discountAmountMinor
              finalMinor := discounted.finalAmountMinor
              currency := checkout.plan.currency
              pricingVersion := "OFFER_V1" } with
          | none => .error .uniqueViolation
          | some redemptions => .ok { store with redemptions }

/-! ## Administration -/

namespace OfferAction

def status : OfferAction -> DiscountStatus
  | .enable => .active
  | .disable => .disabled
  | .revoke => .revoked

end OfferAction

def writeOffer (id : Id) (action : OfferAction) (now : Time) (store : OfferStore) : OfferStore :=
  { store with
    offers := store.offers.update (fun offer => offer.id = id) fun offer =>
      { offer with
        status := action.status
        revokedAt := if action = .revoke then some now else none } }

/-! ## What happens to redemptions and offers elsewhere -/

inductive OfferEvent
  /-- The creation of an offer, as active or as a draft. -/
  | create (offer : DiscountOffer) (active : Bool)
  /-- The release of a reservation that is a day old. -/
  | release (redemptionId : Id)
  /-- The settlement of the order, also after its local cancellation. -/
  | apply (redemptionId : Id)
  /-- The refund of the order. -/
  | refund (orderId : Id)

/-- The status that an event gives to a redemption. -/
def eventStatus (event : OfferEvent) (redemption : OfferRedemption) : OfferRedemptionStatus :=
  match event with
  | .create _ _ => redemption.status
  | .release redemptionId =>
    if redemption.id = redemptionId ∧ redemption.status = .reserved then .released else redemption.status
  | .apply redemptionId =>
    if redemption.id = redemptionId ∧ (redemption.status = .reserved ∨ redemption.status = .released) then
      .applied
    else redemption.status
  | .refund orderId => if redemption.orderId = orderId then .refunded else redemption.status

def offerEvent (store : OfferStore) (event : OfferEvent) : Except OfferError OfferStore :=
  match event with
  | .create offer active =>
    match store.offers.insert
      { offer with status := if active then .active else .draft, revokedAt := none } with
    | none => .error .uniqueViolation
    | some offers => .ok { store with offers }
  | event =>
    .ok { store with
      redemptions := store.redemptions.update (fun _ => true) fun redemption =>
        { redemption with status := eventStatus event redemption } }

/-! ## Concurrent requests -/

inductive OfferCall
  | patch (id : Id) (action : OfferAction) (adminId : Id)
  | checkout (checkout : OfferCheckout)

inductive OfferPoint
  | reading (id : Id) (action : OfferAction) (adminId : Id)
  | counting (id : Id) (adminId : Id) (previousStatus : DiscountStatus)
  | writing (id : Id) (action : OfferAction) (adminId : Id) (previousStatus : DiscountStatus)
  | auditing (offer : DiscountOffer) (action : OfferAction) (adminId : Id) (previousStatus : DiscountStatus)
  | choosing (checkout : OfferCheckout)
  | reserving (offerId : Id) (checkout : OfferCheckout)
  deriving DecidableEq

/-- The clock, the id of a new row, the offer that an unordered query comes upon
first, and whether the access throws. -/
structure OfferDraw where
  now : Time
  fresh : Id
  first : Id
  throws : Bool

/-- One access.  What throws ends the request. -/
def offerStep (store : OfferStore) (draw : OfferDraw) : OfferPoint -> OfferStore × Option OfferPoint
  | .reading id action adminId =>
    match store.offers.lookup (.id id) with
    | none => (store, none)
    | some current =>
      if current.status = .revoked then (store, none)
      else if action = .revoke then (store, some (.counting id adminId current.status))
      else (store, some (.writing id action adminId current.status))
  | .counting id adminId previousStatus =>
    if (store.redemptions.select fun redemption =>
        redemption.offerId = id && redemption.status ≠ .released).length ≠ 0 then (store, none)
    else (store, some (.writing id .revoke adminId previousStatus))
  | .writing id action adminId previousStatus =>
    let after := writeOffer id action draw.now store
    match after.offers.lookup (.id id) with
    | none => (store, none)
    | some offer => (after, some (.auditing offer action adminId previousStatus))
  | .auditing offer action adminId previousStatus =>
    ({ store with
        auditLogs := store.auditLogs ++
          [⟨adminId, offer.customerAccountId, action, offer.id, previousStatus, action.status⟩] }, none)
  | .choosing checkout =>
    let found := candidates checkout.identifier store
    match (found.find? fun offer => offer.id = draw.first).or found.head? with
    | none => (store, none)
    | some candidate => (store, some (.reserving candidate.id checkout))
  | .reserving offerId checkout =>
    match reserveOffer offerId checkout draw.fresh draw.now store with
    | .error _ => (store, none)
    | .ok after => (after, none)

def offerProtocol : Protocol OfferStore OfferCall OfferPoint OfferDraw OfferEvent OfferError where
  enter
    | .patch id action adminId => .reading id action adminId
    | .checkout checkout => .choosing checkout
  advance store point draw := .ok (if draw.throws then (store, none) else offerStep store draw point)
  ambient := offerEvent

end Offers
end DigitalSolutions

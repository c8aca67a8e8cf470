import DigitalSolutions.Offers.OfferRequests

namespace DigitalSolutions
namespace Offers

open Foundation Persistence

/-!
# Revoked offers

A reservation reads its offer again under the lock.  An administrator's update
does not: it is only as good as what was read before it.
-/

variable {before after : OfferStore} {draw : OfferDraw}
variable {crowd : Crowd OfferStore OfferPoint}

abbrev OfferMove := CrowdMove OfferCall OfferDraw OfferEvent

theorem offer_eq {offers : Table DiscountOffer} {left right : DiscountOffer} (leftMember : left ∈ offers)
    (rightMember : right ∈ offers) (same : left.id = right.id) : left = right := by
  have occupied : DiscountOffer.Key.id left.id ∈ Keyed.keys right := by
    rw [same]
    exact List.mem_cons_self
  exact offers.eq_of_common_key leftMember rightMember List.mem_cons_self occupied

/-! ## What an access writes -/

inductive OfferWrite (before after : OfferStore) : OfferPoint -> Prop
  | kept {point : OfferPoint} (offers : after.offers = before.offers)
      (redemptions : after.redemptions = before.redemptions) : OfferWrite before after point
  | written {id : Id} {action : OfferAction} {adminId : Id} {previousStatus : DiscountStatus} {now : Time}
      (written : after = writeOffer id action now before) :
      OfferWrite before after (.writing id action adminId previousStatus)
  | reserved {offerId : Id} {checkout : OfferCheckout} {offer : DiscountOffer} {redemption : OfferRedemption}
      (member : offer ∈ before.offers) (active : offer.status = .active)
      (isOffer : redemption.offerId = offer.id) (offers : after.offers = before.offers)
      (inserted : before.redemptions.insert redemption = some after.redemptions) :
      OfferWrite before after (.reserving offerId checkout)

theorem reserveOffer_ok {offerId redemptionId : Id} {checkout : OfferCheckout} {now : Time}
    (reserved : reserveOffer offerId checkout redemptionId now before = .ok after) :
    Exists fun offer => Exists fun redemption => offer ∈ before.offers ∧ offer.status = .active ∧
      redemption.offerId = offer.id ∧ after.offers = before.offers ∧
      before.redemptions.insert redemption = some after.redemptions := by
  unfold reserveOffer at reserved
  split at reserved
  · cases reserved
  · rename_i offer found
    split at reserved
    · cases reserved
    · rename_i isMatch
      have active : offer.status = .active := by
        rw [Bool.not_eq_false] at isMatch
        simp only [offerMatches, Bool.and_eq_true, decide_eq_true_eq] at isMatch
        exact isMatch.1.1.1.1.1.1.1.1
      split at reserved
      · cases reserved
      · split at reserved
        · cases reserved
        · split at reserved
          · cases reserved
          · split at reserved
            · cases reserved
            · split at reserved
              · cases reserved
              · rename_i redemptions inserted
                cases reserved
                exact ⟨offer, _, before.offers.lookup_mem found, active, rfl, rfl, inserted⟩

theorem offerStep_write (store : OfferStore) (draw : OfferDraw) (point : OfferPoint) :
    OfferWrite store (offerStep store draw point).1 point := by
  cases point with
  | reading id action adminId =>
    simp only [offerStep]
    split
    · exact .kept rfl rfl
    · split
      · exact .kept rfl rfl
      · split
        · exact .kept rfl rfl
        · exact .kept rfl rfl
  | counting id adminId previousStatus =>
    simp only [offerStep]
    split
    · exact .kept rfl rfl
    · exact .kept rfl rfl
  | writing id action adminId previousStatus =>
    simp only [offerStep]
    split
    · exact .kept rfl rfl
    · exact .written rfl
  | auditing offer action adminId previousStatus => exact .kept rfl rfl
  | choosing checkout =>
    simp only [offerStep]
    split
    · exact .kept rfl rfl
    · exact .kept rfl rfl
  | reserving offerId checkout =>
    simp only [offerStep]
    split
    · exact .kept rfl rfl
    · rename_i after reserved
      rcases reserveOffer_ok reserved with ⟨offer, redemption, member, active, isOffer, offers, inserted⟩
      exact .reserved member active isOffer offers inserted

/-! ## Conditions on a run -/

/-- What an administrator's request has read still holds when it writes, and no
released redemption of a revoked offer is settled or refunded. -/
def StillStands (crowd : Crowd OfferStore OfferPoint) : OfferMove -> Prop
  | .advance process draw =>
    match crowd.processes process with
    | some (.writing id .revoke _ _) => draw.throws = false -> forall redemption,
        redemption ∈ crowd.store.redemptions -> redemption.offerId = id -> redemption.status = .released
    | some (.writing id _ _ _) => draw.throws = false -> forall offer, offer ∈ crowd.store.offers ->
        offer.id = id -> offer.status ≠ .revoked
    | _ => True
  | .ambient event => forall redemption, redemption ∈ crowd.store.redemptions ->
      redemption.status = .released -> eventStatus event redemption ≠ .released ->
      forall offer, offer ∈ crowd.store.offers -> offer.id = redemption.offerId -> offer.status ≠ .revoked
  | _ => True

/-- What `StillStands` says about a write. -/
structure StandingWrite (store : OfferStore) (point : OfferPoint) : Prop where
  revoked : forall id adminId previousStatus, point = .writing id .revoke adminId previousStatus ->
    forall redemption, redemption ∈ store.redemptions -> redemption.offerId = id ->
      redemption.status = .released
  switched : forall id action adminId previousStatus, point = .writing id action adminId previousStatus ->
    action ≠ .revoke -> forall offer, offer ∈ store.offers -> offer.id = id -> offer.status ≠ .revoked

theorem standing_write {process : Nat} {point : OfferPoint}
    (stands : StillStands crowd (.advance process draw)) (here : crowd.processes process = some point)
    (steady : draw.throws = false) : StandingWrite crowd.store point where
  revoked := by
    rintro id adminId previousStatus rfl
    simp only [StillStands, here] at stands
    exact stands steady
  switched := by
    rintro id action adminId previousStatus rfl other
    cases action with
    | revoke => exact absurd rfl other
    | enable =>
      simp only [StillStands, here] at stands
      exact stands steady
    | disable =>
      simp only [StillStands, here] at stands
      exact stands steady

/-! ## What a step keeps -/

/-- A revoked offer has no used redemption. -/
def Unused (store : OfferStore) : Prop :=
  forall offer, offer ∈ store.offers -> offer.status = .revoked -> forall redemption,
    redemption ∈ store.redemptions -> redemption.offerId = offer.id -> redemption.status = .released

structure StepKept (before after : OfferStore) : Prop where
  /-- Revoked offers stay revoked. -/
  revoked : forall offer, offer ∈ before.offers -> offer.status = .revoked ->
    Exists fun later => later ∈ after.offers ∧ later.id = offer.id ∧ later.status = .revoked
  /-- A new redemption is not of a revoked offer. -/
  reserved : forall redemption, redemption ∈ after.redemptions ->
    (forall old, old ∈ before.redemptions -> old.id ≠ redemption.id) ->
    forall offer, offer ∈ before.offers -> offer.id = redemption.offerId -> offer.status ≠ .revoked
  /-- An offer is revoked only while its redemptions are released. -/
  committed : forall offer later, offer ∈ before.offers -> later ∈ after.offers -> later.id = offer.id ->
    offer.status ≠ .revoked -> later.status = .revoked -> forall redemption,
    redemption ∈ before.redemptions -> redemption.offerId = offer.id -> redemption.status = .released

/-- The offers are the same, and redemptions come only to offers that are not
revoked. -/
theorem StepKept.of_offers (offers : after.offers = before.offers)
    (reserved : forall redemption, redemption ∈ after.redemptions ->
      (forall old, old ∈ before.redemptions -> old.id ≠ redemption.id) ->
      forall offer, offer ∈ before.offers -> offer.id = redemption.offerId -> offer.status ≠ .revoked) :
    StepKept before after where
  revoked offer member isRevoked := ⟨offer, offers ▸ member, rfl, isRevoked⟩
  reserved := reserved
  committed offer later member laterMember same notRevoked isRevoked := by
    rw [offers] at laterMember
    rw [offer_eq member laterMember same.symm] at notRevoked
    exact absurd isRevoked notRevoked

theorem rows_writeOffer (store : OfferStore) (id : Id) (action : OfferAction) (now : Time) :
    (writeOffer id action now store).offers.rows = store.offers.rows.map fun offer =>
      if offer.id = id then
        { offer with
          status := action.status
          revokedAt := if action = .revoke then some now else none }
      else offer :=
  store.offers.rows_update

/-- The offers after an administrator's update. -/
theorem mem_writeOffer {id : Id} {action : OfferAction} {now : Time} {offer : DiscountOffer}
    (member : offer ∈ (writeOffer id action now before).offers) :
    Exists fun old => old ∈ before.offers ∧ old.id = offer.id ∧
      ((old.id = id ∧ offer.status = action.status) ∨ (old.id ≠ id ∧ offer = old)) := by
  rcases (Table.mem_of_rows (rows_writeOffer before id action now)).mp member with ⟨old, oldMember, isOffer⟩
  refine ⟨old, oldMember, ?_⟩
  split at isOffer
  · rename_i chosen
    subst isOffer
    exact ⟨rfl, Or.inl ⟨chosen, rfl⟩⟩
  · rename_i other
    subst isOffer
    exact ⟨rfl, Or.inr ⟨other, rfl⟩⟩

theorem mem_of_writeOffer (id : Id) (action : OfferAction) (now : Time) {offer : DiscountOffer}
    (member : offer ∈ before.offers) :
    Exists fun later => later ∈ (writeOffer id action now before).offers ∧ later.id = offer.id ∧
      later.status = if offer.id = id then action.status else offer.status := by
  refine ⟨_, (Table.mem_of_rows (rows_writeOffer before id action now)).mpr ⟨offer, member, rfl⟩, ?_⟩
  split
  · exact ⟨rfl, rfl⟩
  · exact ⟨rfl, rfl⟩

theorem status_eq_revoked {action : OfferAction} (isRevoked : action.status = .revoked) : action = .revoke := by
  cases action with
  | enable => cases isRevoked
  | disable => cases isRevoked
  | revoke => rfl

namespace OfferWrite

variable {point : OfferPoint}

theorem stepKept (write : OfferWrite before after point) (standing : StandingWrite before point) :
    StepKept before after := by
  cases write with
  | kept offers redemptions =>
    apply StepKept.of_offers offers
    intro redemption member new
    rw [redemptions] at member
    exact absurd rfl (new redemption member)
  | @reserved offerId checkout offer redemption member active isOffer offers inserted =>
    apply StepKept.of_offers offers
    intro later laterMember new other otherMember same isRevoked
    rcases (Table.mem_insert inserted).mp laterMember with old | rfl
    · exact new later old rfl
    · rw [offer_eq otherMember member (same.trans isOffer), active] at isRevoked
      cases isRevoked
  | @written id action adminId previousStatus now written =>
    subst written
    refine ⟨?_, ?_, ?_⟩
    · intro offer member isRevoked
      rcases mem_of_writeOffer id action now member with ⟨later, laterMember, same, status⟩
      refine ⟨later, laterMember, same, ?_⟩
      by_cases chosen : offer.id = id
      · rw [status, if_pos chosen]
        by_cases revokes : action = .revoke
        · rw [revokes]
          rfl
        · have live := standing.switched id action adminId previousStatus rfl revokes offer member chosen
          exact absurd isRevoked live
      · rw [status, if_neg chosen]
        exact isRevoked
    · intro redemption member new
      exact absurd rfl (new redemption member)
    · intro offer later member laterMember same live isRevoked redemption redemptionMember isOf
      rcases mem_writeOffer laterMember with ⟨old, oldMember, sameOld, ⟨chosen, status⟩ | ⟨_, isOld⟩⟩
      · rw [offer_eq oldMember member (sameOld.trans same)] at chosen
        have revokes := status_eq_revoked (status.symm.trans isRevoked)
        subst revokes
        exact standing.revoked id adminId previousStatus rfl redemption redemptionMember (isOf.trans chosen)
      · rw [isOld, offer_eq oldMember member (sameOld.trans same)] at isRevoked
        exact absurd isRevoked live

theorem unused (write : OfferWrite before after point) (standing : StandingWrite before point)
    (unused : Unused before) : Unused after := by
  intro offer member isRevoked redemption redemptionMember isOf
  cases write with
  | kept offers redemptions =>
    rw [offers] at member
    rw [redemptions] at redemptionMember
    exact unused offer member isRevoked redemption redemptionMember isOf
  | @reserved offerId checkout live new liveMember active isOffer offers inserted =>
    rw [offers] at member
    rcases (Table.mem_insert inserted).mp redemptionMember with old | rfl
    · exact unused offer member isRevoked redemption old isOf
    · rw [offer_eq member liveMember (isOf.symm.trans isOffer), active] at isRevoked
      cases isRevoked
  | @written id action adminId previousStatus now written =>
    subst written
    rcases mem_writeOffer member with ⟨old, oldMember, same, ⟨chosen, status⟩ | ⟨_, isOld⟩⟩
    · have revokes := status_eq_revoked (status.symm.trans isRevoked)
      subst revokes
      have isWritten : redemption.offerId = id := (isOf.trans same.symm).trans chosen
      exact standing.revoked id adminId previousStatus rfl redemption redemptionMember isWritten
    · rw [isOld] at isRevoked isOf
      exact unused old oldMember isRevoked redemption redemptionMember isOf

end OfferWrite

/-! ## What happens elsewhere -/

inductive EventWrite (before after : OfferStore) (event : OfferEvent) : Prop
  | created {offer : DiscountOffer} (live : offer.status ≠ .revoked)
      (inserted : before.offers.insert offer = some after.offers)
      (redemptions : after.redemptions = before.redemptions)
  | moved (offers : after.offers = before.offers)
      (rows : after.redemptions.rows = before.redemptions.rows.map fun redemption =>
        { redemption with status := eventStatus event redemption })

theorem offerEvent_write {event : OfferEvent} (changed : offerEvent before event = .ok after) :
    EventWrite before after event := by
  have moved : Except.ok (ε := OfferError) { before with
      redemptions := before.redemptions.update (fun _ => true) fun redemption =>
        { redemption with status := eventStatus event redemption } } = .ok after ->
      EventWrite before after event := by
    intro isAfter
    cases isAfter
    refine .moved rfl ?_
    simp only [Table.update, if_true]
  cases event with
  | create offer active =>
    simp only [offerEvent] at changed
    split at changed
    · cases changed
    · rename_i offers inserted
      cases changed
      refine .created ?_ inserted rfl
      cases active <;> rintro ⟨⟩
  | release redemptionId => exact moved changed
  | apply redemptionId => exact moved changed
  | refund orderId => exact moved changed

namespace EventWrite

variable {event : OfferEvent}

theorem stepKept (write : EventWrite before after event) : StepKept before after := by
  cases write with
  | @created new live inserted redemptions =>
    refine ⟨?_, ?_, ?_⟩
    · intro offer member isRevoked
      exact ⟨offer, (Table.mem_insert inserted).mpr (Or.inl member), rfl, isRevoked⟩
    · intro redemption member new
      rw [redemptions] at member
      exact absurd rfl (new redemption member)
    · intro offer later member laterMember same notRevoked isRevoked
      rcases (Table.mem_insert inserted).mp laterMember with old | rfl
      · rw [offer_eq member old same.symm] at notRevoked
        exact absurd isRevoked notRevoked
      · exact absurd isRevoked live
  | moved offers rows =>
    apply StepKept.of_offers offers
    intro redemption member new
    rcases (Table.mem_of_rows rows).mp member with ⟨old, oldMember, rfl⟩
    exact absurd rfl (new old oldMember)

theorem unused (write : EventWrite before after event) (isBefore : crowd.store = before)
    (stands : StillStands crowd (.ambient event)) (unused : Unused before) :
    Unused after := by
  subst isBefore
  intro offer member isRevoked redemption redemptionMember isOf
  cases write with
  | created live inserted redemptions =>
    rw [redemptions] at redemptionMember
    rcases (Table.mem_insert inserted).mp member with old | rfl
    · exact unused offer old isRevoked redemption redemptionMember isOf
    · exact absurd isRevoked live
  | moved offers rows =>
    rw [offers] at member
    rcases (Table.mem_of_rows rows).mp redemptionMember with ⟨old, oldMember, rfl⟩
    have released := unused offer member isRevoked old oldMember isOf
    by_cases stays : eventStatus event old = .released
    · exact stays
    · exact absurd isRevoked (stands old oldMember released stays offer member isOf.symm)

end EventWrite

/-! ## Runs -/

def offerRun (moves : List OfferMove) : Crowd OfferStore OfferPoint :=
  offerProtocol.machine.run (Crowd.opening ⟨∅, ∅, []⟩) moves

structure OffersKept (moves : List OfferMove) : Prop where
  revoked : forall past rest, moves = past ++ rest -> forall offer,
    offer ∈ (offerRun past).store.offers -> offer.status = .revoked ->
    Exists fun later => later ∈ (offerRun moves).store.offers ∧ later.id = offer.id ∧ later.status = .revoked
  step : forall past move rest, moves = past ++ move :: rest ->
    StepKept (offerRun past).store (offerRun (past ++ [move])).store
  unused : Unused (offerRun moves).store

/-- What an accepted move keeps. -/
theorem step_kept {next : Crowd OfferStore OfferPoint} {move : OfferMove}
    (stands : StillStands crowd move) (accepted : offerProtocol.machine.step crowd move = .ok next) :
    StepKept crowd.store next.store ∧ (Unused crowd.store -> Unused next.store) := by
  have same : crowd.store = next.store ->
      StepKept crowd.store next.store ∧ (Unused crowd.store -> Unused next.store) := by
    intro isSame
    rw [← isSame]
    refine ⟨StepKept.of_offers rfl ?_, fun unused => unused⟩
    intro redemption member new
    exact absurd rfl (new redemption member)
  rcases Protocol.step_store accepted with isSame | ⟨process, draw, point, later, rfl, here, advanced⟩ |
    ⟨event, rfl, changed⟩
  · exact same isSame.symm
  · have done := Except.ok.inj advanced
    cases throws : draw.throws with
    | true =>
      rw [throws, if_pos rfl] at done
      exact same (congrArg Prod.fst done)
    | false =>
      rw [throws, if_neg Bool.false_ne_true] at done
      have write := offerStep_write crowd.store draw point
      rw [done] at write
      have standing := standing_write stands here throws
      exact ⟨write.stepKept standing, write.unused standing⟩
  · have write := offerEvent_write changed
    exact ⟨write.stepKept, write.unused rfl stands⟩

theorem unused_run {moves : List OfferMove}
    (admitted : offerProtocol.machine.Admits StillStands (Crowd.opening ⟨∅, ∅, []⟩) moves) :
    Unused (offerRun moves).store := by
  have preserved : forall crowd move next, Unused (Crowd.store crowd) -> StillStands crowd move ->
      offerProtocol.machine.step crowd move = .ok next -> Unused next.store := by
    intro crowd move next unused stands accepted
    exact (step_kept stands accepted).2 unused
  have initially : Unused (Crowd.opening ⟨∅, ∅, []⟩ : Crowd OfferStore OfferPoint).store := by
    intro offer member
    exact absurd member (Table.not_mem_empty offer)
  exact Machine.run_invariant_of_admits preserved initially admitted

/-- A revoked offer stays revoked to the end of a run. -/
theorem revoked_run {moves : List OfferMove} {offer : DiscountOffer}
    (admitted : offerProtocol.machine.Admits StillStands crowd moves)
    (member : offer ∈ crowd.store.offers) (isRevoked : offer.status = .revoked) :
    Exists fun later => later ∈ (offerProtocol.machine.run crowd moves).store.offers ∧ later.id = offer.id ∧
      later.status = .revoked := by
  have preserved : forall crowd move next,
      (Exists fun later => later ∈ (Crowd.store crowd).offers ∧ later.id = offer.id ∧ later.status = .revoked) ->
      StillStands crowd move -> offerProtocol.machine.step crowd move = .ok next ->
      Exists fun later => later ∈ next.store.offers ∧ later.id = offer.id ∧ later.status = .revoked := by
    rintro crowd move next ⟨middle, middleMember, same, middleRevoked⟩ stands accepted
    rcases (step_kept stands accepted).1.revoked middle middleMember middleRevoked with
      ⟨later, laterMember, sameLater, laterRevoked⟩
    exact ⟨later, laterMember, sameLater.trans same, laterRevoked⟩
  exact Machine.run_invariant_of_admits preserved ⟨offer, member, rfl, isRevoked⟩ admitted

def springOffer : DiscountOffer :=
  { id := "spring"
    codeNormalized := some "SPRING"
    type := .generalPromotion
    status := .draft
    discountBps := 1000
    startsAt := 0
    endsAt := none
    productId := none
    editionId := none
    purchasePlanId := none
    customerAccountId := none
    maximumRedemptions := none
    perAccountRedemptionLimit := none
    discountedBillingCycles := none
    allowZeroTotal := false
    revokedAt := none }

def advanceAt (process : Nat) (now : Time) : OfferMove := .advance process ⟨now, "redemption", "", false⟩

/-- One administrator enables the offer, another one revokes it, and the first
one has read it before. -/
def revokedMeanwhile : List OfferMove :=
  [.ambient (.create springOffer true), .start 0 (.patch "spring" .enable "first"), advanceAt 0 1,
    .start 1 (.patch "spring" .revoke "second"), advanceAt 1 2, advanceAt 1 3, advanceAt 1 4]

/-- `StillStands`, as a check of the moves of requests. -/
def stillStands (crowd : Crowd OfferStore OfferPoint) : OfferMove -> Bool
  | .advance process _ =>
    match crowd.processes process with
    | some (.writing id .revoke _ _) => crowd.store.redemptions.rows.all fun redemption =>
        !decide (redemption.offerId = id) || decide (redemption.status = .released)
    | some (.writing id _ _ _) => crowd.store.offers.rows.all fun offer =>
        !decide (offer.id = id) || !decide (offer.status = .revoked)
    | _ => true
  | .ambient event => crowd.store.redemptions.rows.all fun redemption =>
      !decide (redemption.status = .released) || decide (eventStatus event redemption = .released)
  | _ => true

theorem stillStands_spec {move : OfferMove} (checked : stillStands crowd move = true) :
    StillStands crowd move := by
  cases move with
  | start process call => trivial
  | stop process => trivial
  | ambient event =>
    simp only [stillStands, List.all_eq_true, Bool.or_eq_true, Bool.not_eq_true', decide_eq_false_iff_not,
      decide_eq_true_eq] at checked
    intro redemption member released changes
    rcases checked redemption member with other | stays
    · exact absurd released other
    · exact absurd stays changes
  | advance process draw =>
    simp only [stillStands] at checked
    simp only [StillStands]
    split
    · rename_i here
      simp only [here, List.all_eq_true, Bool.or_eq_true, Bool.not_eq_true', decide_eq_false_iff_not,
        decide_eq_true_eq] at checked
      intro _ redemption member same
      exact (checked redemption member).resolve_left (fun different => different same)
    · rename_i other here
      rw [here] at checked
      intro _ offer member same
      split at checked
      · rename_i id adminId previousStatus isRevoke
        cases isRevoke
        exact absurd rfl other
      · rename_i isWriting
        cases isWriting
        simp only [List.all_eq_true, Bool.or_eq_true, Bool.not_eq_true', decide_eq_false_iff_not] at checked
        exact (checked offer member).resolve_left (fun different => different same)
      · rename_i neither
        exact absurd rfl (neither _ _ _ _)
    · trivial

def monthlyPlan : OfferPlanContext := ⟨"plan", .monthly, "edition", "product", "EUR"⟩

/-- Reserved by a checkout, disabled, released when the order has expired, and
revoked. -/
def usedUp : List OfferMove :=
  [.ambient (.create springOffer true), .start 0 (.checkout ⟨" spring ", "account", "order", monthlyPlan, 1000⟩),
    advanceAt 0 1, advanceAt 0 2, .start 1 (.patch "spring" .disable "admin"), advanceAt 1 3, advanceAt 1 4,
    .start 2 (.patch "spring" .revoke "admin"), advanceAt 2 5, advanceAt 2 6, .ambient (.release "redemption"),
    .start 2 (.patch "spring" .revoke "admin"), advanceAt 2 7, advanceAt 2 8, advanceAt 2 9]

end Offers
end DigitalSolutions

import DigitalSolutions.Entitlements.ClaimCodeColumns
import DigitalSolutions.Storefront.Reference
import DigitalSolutions.Storefront.RightsWrites

namespace DigitalSolutions
namespace Storefront

open Foundation Persistence Platform Commerce Entitlements Licensing Orders Payments Scheduler

/-!
# The life of a claim code

A code is issued available and leaves that state once, for being claimed,
revoked or expired.  All transactions that touch codes run serializably, so a
history of commits is a schedule of the storefront.  The one fact that links
codes to their orders is that a refunded order has no available code: the
refund revokes what is available, and nothing is issued for an order that has
been refunded.
-/

/-! ## Moves of a code -/

/-- What may become of one code. -/
inductive CodeMove (code later : ClaimCode) : Prop
  | kept (same : later = code)
  | spent (available : code.state.status = .available) (terms : codeTerms later = codeTerms code)
    (final : later.state.status ≠ .available)

namespace CodeMove

variable {first second third : ClaimCode}
variable {code : ClaimCode} {moment : Moment}

theorem terms (move : CodeMove first second) : codeTerms second = codeTerms first := by
  cases move with
  | kept same => rw [same]
  | spent _ terms _ => exact terms

/-- A code that is no longer available stays as it is, to the last column. -/
theorem final (move : CodeMove first second) (spent : first.state.status ≠ .available) :
    second = first := by
  cases move with
  | kept same => exact same
  | spent available _ _ => exact absurd available spent

theorem trans (left : CodeMove first second) (right : CodeMove second third) :
    CodeMove first third := by
  cases left with
  | kept same => exact same ▸ right
  | spent available terms final =>
    refine .spent available (right.terms.trans terms) ?_
    rw [right.final final]
    exact final

theorem ofAvailable {state : ClaimCodeState} (available : code.state.status = .available)
    (final : state.status ≠ .available) :
    CodeMove code { code with state } :=
  .spent available rfl final

end CodeMove

/-- Every code moves on, and a code that was not there is one of those
issued. -/
structure CodesMoved (issued : ClaimCode -> Prop) (before after : Table ClaimCode) : Prop where
  onward : forall code, code ∈ before -> Exists fun later => later ∈ after ∧ CodeMove code later
  origin : forall later, later ∈ after ->
    (Exists fun code => code ∈ before ∧ CodeMove code later) ∨ issued later

namespace CodesMoved

variable {issued : ClaimCode -> Prop} {first second third : Table ClaimCode}

theorem refl (issued : ClaimCode -> Prop) (table : Table ClaimCode) : CodesMoved issued table table :=
  ⟨fun code member => ⟨code, member, .kept rfl⟩, fun code member => Or.inl ⟨code, member, .kept rfl⟩⟩

/-- Codes that are issued must still be among the issued after they moved on,
which available codes are when only available codes are issued. -/
theorem trans (left : CodesMoved issued first second) (right : CodesMoved issued second third)
    (closed : forall code later, issued code -> CodeMove code later -> issued later) :
    CodesMoved issued first third := by
  constructor
  · intro code member
    rcases left.onward code member with ⟨middle, middleMember, toMiddle⟩
    rcases right.onward middle middleMember with ⟨later, laterMember, toLater⟩
    exact ⟨later, laterMember, toMiddle.trans toLater⟩
  · intro later member
    rcases right.origin later member with ⟨middle, middleMember, toLater⟩ | fresh
    · rcases left.origin middle middleMember with ⟨code, codeMember, toMiddle⟩ | fresh
      · exact Or.inl ⟨code, codeMember, toMiddle.trans toLater⟩
      · exact Or.inr (closed middle later fresh toLater)
    · exact Or.inr fresh

/-- An update that takes available codes to one spent state each. -/
theorem ofRows {chosen : ClaimCode -> Bool} {state : ClaimCodeState}
    (wrote : second.rows = first.rows.map (fun code =>
      if chosen code then { code with state } else code))
    (guarded : forall code, chosen code = true -> code.state.status = .available)
    (final : state.status ≠ .available) : CodesMoved issued first second := by
  have move : forall code, CodeMove code (if chosen code then { code with state } else code) := by
    intro code
    by_cases hit : chosen code = true
    · rw [if_pos hit]
      exact .ofAvailable (guarded code hit) final
    · rw [if_neg hit]
      exact .kept rfl
  constructor
  · intro code member
    exact ⟨_, (Table.mem_of_rows wrote).mpr ⟨code, member, rfl⟩, move code⟩
  · intro later member
    rcases (Table.mem_of_rows wrote).mp member with ⟨code, old, became⟩
    exact Or.inl ⟨code, old, became ▸ move code⟩

end CodesMoved

/-! ## What the transactions do to the codes -/

variable {host : Host} {before after : Db}

/-- The codes of an order. -/
def OfOrder (orderId : Id) (code : ClaimCode) : Prop := code.orderId = orderId

theorem ofOrder_closed {orderId : Id} (code later : ClaimCode) (ofOrder : OfOrder orderId code)
    (move : CodeMove code later) : OfOrder orderId later := by
  have sameOrder : later.orderId = code.orderId := Table.eq_of_mask move.terms (fun _ => rfl)
  exact sameOrder.trans ofOrder

theorem codesMoved_expireCode {issued : ClaimCode -> Prop} (claimCodeId : Id)
    (store : EntitlementsStore) :
    CodesMoved issued store.claimCodes (expireCode claimCodeId store).claimCodes := by
  have wrote : (expireCode claimCodeId store).claimCodes.rows = store.claimCodes.rows.map (fun code =>
      if code.id = claimCodeId && code.state.status = .available then { code with state := .expired }
      else code) := rfl
  refine CodesMoved.ofRows wrote ?_ (by decide)
  intro code chosen
  exact of_decide_eq_true (Bool.and_eq_true_iff.mp chosen).2

theorem codesMoved_revokeCodes {issued : ClaimCode -> Prop} (orderId : Id) (revokedAt : Time)
    (store : EntitlementsStore) :
    CodesMoved issued store.claimCodes (revokeCodes orderId revokedAt store).claimCodes := by
  have wrote : (revokeCodes orderId revokedAt store).claimCodes.rows =
      store.claimCodes.rows.map (fun code =>
        if code.orderId = orderId && code.state.status = .available then
          { code with state := .revoked revokedAt }
        else code) := rfl
  refine CodesMoved.ofRows wrote ?_ (by decide : ClaimCodeStatus.revoked ≠ .available)
  intro code chosen
  exact of_decide_eq_true (Bool.and_eq_true_iff.mp chosen).2

/-- The statement of the refund leaves none of the order's codes available. -/
theorem revokeCodes_unavailable {orderId : Id} {revokedAt : Time} {store : EntitlementsStore}
    (member : code ∈ (revokeCodes orderId revokedAt store).claimCodes) (ofOrder : code.orderId = orderId) :
    code.state.status ≠ .available := by
  have wrote : (revokeCodes orderId revokedAt store).claimCodes.rows =
      store.claimCodes.rows.map (fun code =>
        if code.orderId = orderId && code.state.status = .available then
          { code with state := .revoked revokedAt }
        else code) := rfl
  rcases (Table.mem_of_rows wrote).mp member with ⟨old, _, became⟩
  intro available
  split at became
  · rw [← became] at available
    cases available
  · rename_i untouched
    rw [← became] at ofOrder available
    exact untouched (by simp only [ofOrder, available, decide_true, Bool.and_self])

theorem Consumed.codesMoved {input : ClaimCodeConsumeInput} {order : Order} {issued : ClaimCode -> Prop}
    (wrote : Consumed host moment input before after code order) :
    CodesMoved issued before.entitlements.claimCodes after.entitlements.claimCodes := by
  refine CodesMoved.ofRows (Table.rows_amend _ wrote.claimCodes) ?_
    (by decide : ClaimCodeStatus.claimed ≠ .available)
  intro row chosen
  exact of_decide_eq_true (Bool.and_eq_true_iff.mp chosen).2

/-- An answered item adds codes of its order, all of them available. -/
theorem itemAnswered_codesMoved {order : SettledOrder} {settledAt : Time} {item : SettledItem}
    {before after : EntitlementsStore}
    (answer : ItemAnswered host moment order settledAt item before after) :
    CodesMoved (OfOrder order.orderId) before.claimCodes after.claimCodes := by
  cases answer with
  | granted mode input asked result accepted called =>
    rcases grant_commits called with ⟨_, _, _, codes⟩ | ⟨_, _, _, rfl⟩
    · rw [codes]
      exact CodesMoved.refl _ _
    · exact CodesMoved.refl _ _
  | issued mode input asked result unitCount accepted called =>
    cases issueCommerceClaimUnits_commits accepted called with
    | existing _ _ unchanged =>
      rw [unchanged]
      exact CodesMoved.refl _ _
    | issued _ _ _ codes appended _ each _ =>
      constructor
      · intro code member
        refine ⟨code, ?_, .kept rfl⟩
        rw [← Table.mem_rows, appended]
        exact List.mem_append_left _ member
      · intro later member
        rw [← Table.mem_rows, appended] at member
        rcases List.mem_append.mp member with old | fresh
        · exact Or.inl ⟨later, old, .kept rfl⟩
        · exact Or.inr ((each later fresh).orderId.trans asked.orderId)

theorem PaidEffect.codesMoved {event : VerifiedEvent} {row : PaymentProviderEvent}
    {value : PaidSettlement} {fact : PaymentSettlementFact} {order : Order} {invoice : Invoice}
    {settled : Db} {paidOrder : Order}
    (effect : PaidEffect host moment event before after row value fact order invoice settled paidOrder) :
    CodesMoved (OfOrder order.id) before.entitlements.claimCodes after.entitlements.claimCodes := by
  have named : value.order.orderId = order.id := by
    rw [effect.reaction.answers]
    rfl
  rw [effect.entitlements, ← named]
  exact effect.reaction.fulfilled.related
    (fun first second => CodesMoved (OfOrder value.order.orderId) first.claimCodes second.claimCodes)
    (fun store => CodesMoved.refl _ _)
    (fun _ _ _ left right => left.trans right ofOrder_closed)
    (fun _ _ _ _ answer => itemAnswered_codesMoved answer)

/-- The orders whose codes a transaction may issue: the one it has settled. -/
def Issuable (db : Db) (code : ClaimCode) : Prop :=
  Exists fun order => order ∈ db.commerce.orders ∧ order.id = code.orderId ∧ order.status = .paid

theorem Effect.codesMoved (lawful : host.Lawful) (effect : Effect host before after) :
    CodesMoved (Issuable after) before.entitlements.claimCodes after.entitlements.claimCodes := by
  cases effect with
  | quiet _ _ entitlements _ =>
    rw [entitlements]
    exact CodesMoved.refl _ _
  | paid moment event row value fact order invoice settled paidOrder effect =>
    have moved := effect.codesMoved
    rcases effect.order with ⟨_, member, isPaid, _⟩
    refine ⟨moved.onward, fun later laterMember => ?_⟩
    rcases moved.origin later laterMember with old | fresh
    · exact Or.inl old
    · exact Or.inr ⟨paidOrder, member, effect.sameId.trans fresh.symm, isPaid⟩
  | refunded moment event resolved _ _ refunded wrote webhookEvents rest =>
    rw [rest]
    change CodesMoved _ before.entitlements.claimCodes refunded.entitlements.claimCodes
    rw [(entitlements_of_refund lawful wrote).1.claimCodes]
    exact codesMoved_revokeCodes _ _ _
  | expired claimCodeId wrote =>
    rw [wrote]
    exact codesMoved_expireCode _ _
  | consumed moment input code order wrote => exact wrote.codesMoved
  | leased moment request licensing issued wrote =>
    rw [wrote]
    exact CodesMoved.refl _ _
  | deactivated moment accountId licenseId deviceActivationId wrote =>
    rw [wrote]
    exact CodesMoved.refl _ _

/-! ## Refunded orders have no available code -/

/-- No order that has been refunded still has a code to give away. -/
def Sealed (db : Db) : Prop :=
  forall order, order ∈ db.commerce.orders -> order.status = .refunded ->
    forall code, code ∈ db.entitlements.claimCodes -> code.orderId = order.id ->
      code.state.status ≠ .available

/-- Codes that were spent before stay so, and codes that are issued belong to
an order that is paid. -/
theorem CodesMoved.sealed
    (moved : CodesMoved (Issuable after) before.entitlements.claimCodes after.entitlements.claimCodes)
    {order : Order} (member : order ∈ after.commerce.orders) (refunded : order.status = .refunded)
    (spent : forall code, code ∈ before.entitlements.claimCodes -> code.orderId = order.id ->
      code.state.status ≠ .available)
    (code : ClaimCode) (codeMember : code ∈ after.entitlements.claimCodes)
    (ofOrder : code.orderId = order.id) : code.state.status ≠ .available := by
  rcases moved.origin code codeMember with ⟨old, oldMember, move⟩ | ⟨paidOrder, paidMember, sameId, paid⟩
  · have sameOrder : code.orderId = old.orderId := Table.eq_of_mask move.terms (fun _ => rfl)
    have unavailable := spent old oldMember (sameOrder.symm.trans ofOrder)
    rw [move.final unavailable]
    exact unavailable
  · rw [order_of_id paidMember member (sameId.trans ofOrder), refunded] at paid
    cases paid

theorem Effect.sealed (effect : Effect host before after) (lawful : host.Lawful)
    (sealed' : Sealed before) : Sealed after := by
  intro order member isRefunded code codeMember ofOrder
  cases effect.origin member (by rw [wasPaid, isRefunded]; rfl) with
  | kept old =>
    exact (effect.codesMoved lawful).sealed member isRefunded (sealed' order old isRefunded) code codeMember
      ofOrder
  | settled moment event row value fact unsettled invoice settled effect =>
    rw [effect.order.2.2.1] at isRefunded
    cases isRefunded
  | refunded moment event resolved refunded old paid wrote webhookEvents rest became =>
    rw [rest] at codeMember
    change code ∈ refunded.entitlements.claimCodes at codeMember
    rw [(entitlements_of_refund lawful wrote).1.claimCodes] at codeMember
    exact revokeCodes_unavailable codeMember (ofOrder.trans (by rw [← became]))

theorem sealed_run (lawful : host.Lawful) {start : Db} (sealed' : Sealed start)
    (transactions : List HostTransaction) : Sealed ((storefront host).run start transactions) := by
  have keeps : forall db transaction next, Sealed db ->
      (storefront host).step db transaction = .ok next -> Sealed next := by
    intro db transaction next holds committed
    exact (commit_effect lawful (storefront_step.mp committed)).sealed lawful holds
  exact Machine.run_invariant keeps sealed' transactions

/-- Between two points of a run every code of the first moves on. -/
theorem codes_onward (lawful : host.Lawful) (start : Db) (transactions : List HostTransaction)
    (code : ClaimCode) (member : code ∈ start.entitlements.claimCodes) :
    Exists fun later => later ∈ ((storefront host).run start transactions).entitlements.claimCodes ∧
      CodeMove code later := by
  have keeps : forall db transaction next,
      (Exists fun later => later ∈ db.entitlements.claimCodes ∧ CodeMove code later) ->
      (storefront host).step db transaction = .ok next ->
      (Exists fun later => later ∈ next.entitlements.claimCodes ∧ CodeMove code later) := by
    rintro db transaction next ⟨middle, middleMember, toMiddle⟩ committed
    rcases ((commit_effect lawful (storefront_step.mp committed)).codesMoved lawful).onward middle
      middleMember with ⟨later, laterMember, toLater⟩
    exact ⟨later, laterMember, toMiddle.trans toLater⟩
  have here : Exists fun later => later ∈ start.entitlements.claimCodes ∧ CodeMove code later :=
    ⟨code, member, .kept rfl⟩
  exact Machine.run_invariant keeps here transactions

/-! ## The state machine -/

/-- The grants that come from a code. -/
def rightsOfCode (db : Db) (code : ClaimCode) : List Entitlement :=
  db.entitlements.entitlements.select (fun right => right.sourceReference = .claim code.id)

/-- The licences that may come from a code: those of its item, which is all a
consumption ever issues. -/
def licensesOfCode (db : Db) (code : ClaimCode) : List License :=
  db.licensing.licenses.select (fun license => license.orderItemId = code.orderItemId)

/-- A consumption that commits now has met an available, current code of an
order that is not refunded. -/
def ConsumesInGoodStanding (host : Host) (db : Db) : Prop :=
  forall moment input entitlementId accountId after,
    (consumeClaimCode host.licensing host.environment moment input).Commits db
      (.claimed entitlementId accountId) after ->
    Exists fun code => Exists fun order =>
      code ∈ db.entitlements.claimCodes ∧
      hashClaimCode host.environment input.code = .ok code.codeHash ∧
      code.state.status = .available ∧ pastExpiry moment.now code = false ∧
      db.commerce.orders.lookup (.id code.orderId) = some order ∧ order.status ≠ .refunded

/-- A reveal that commits now with a text has met an available, current code
of the purchaser. -/
def RevealsAvailable (host : Host) (db : Db) : Prop :=
  forall moment claimCodeId purchaserAccountId plaintext after,
    (revealClaimCode host.environment moment claimCodeId purchaserAccountId).Commits db.entitlements
      (.available plaintext) after ->
    Exists fun code =>
      code ∈ db.entitlements.claimCodes ∧ code.id = claimCodeId ∧
      code.purchaserAccountId = purchaserAccountId ∧ code.state.status = .available ∧
      pastExpiry moment.now code = false

/-- What holds of the codes in one state. -/
structure CodesLawful (host : Host) (db : Db) : Prop where
  secret : forall code, code ∈ db.entitlements.claimCodes ->
    ((columnsOf code.state).codeCiphertext.isSome = true ↔ code.state.status = .available)
  oneRight : forall code, code ∈ db.entitlements.claimCodes -> (rightsOfCode db code).length ≤ 1
  oneLicense : forall code, code ∈ db.entitlements.claimCodes -> (licensesOfCode db code).length ≤ 1
  reveals : RevealsAvailable host db
  consumes : ConsumesInGoodStanding host db

theorem consumes_of_sealed (lawful : host.Lawful) {db : Db} (sealed' : Sealed db) :
    ConsumesInGoodStanding host db := by
  intro moment input entitlementId accountId after commits
  cases consumeClaimCode_commits commits with
  | claimed code codeHash hashed found codeCiphertext available current entitlements inserted requests
      licensing fulfilled claimed marked =>
    have member := db.entitlements.claimCodes.lookup_mem found
    have sameHash : codeHash = code.codeHash := by
      simpa [Keyed.keys] using db.entitlements.claimCodes.lookup_key found
    have isAvailable : code.state.status = .available := by
      rw [available]
      rfl
    rcases fulfillOrderLicensing_commits lawful.licensing fulfilled with ⟨order, ordered, _⟩
    have named : order.id = code.orderId := (lookup_self ordered).1
    refine ⟨code, order, member, sameHash ▸ hashed, isAvailable, current, ordered, ?_⟩
    intro refunded
    exact sealed' order (db.commerce.orders.lookup_mem ordered) refunded code member named.symm
      isAvailable

theorem reveals_available (host : Host) (db : Db) : RevealsAvailable host db := by
  intro moment claimCodeId purchaserAccountId plaintext after commits
  rcases revealClaimCode_available commits with
    ⟨_, code, codeCiphertext, _, member, named, ofPurchaser, available, current, _, _⟩
  refine ⟨code, member, named, ofPurchaser, ?_, current⟩
  rw [available]
  rfl

theorem codesLawful_of_sealed (lawful : host.Lawful) {db : Db} (sealed' : Sealed db) :
    CodesLawful host db where
  secret := fun code _ => ciphertext_iff_available code.state
  oneRight := fun code _ => db.entitlements.entitlements.select_le_one
    (.sourceReference (.claim code.id)) (fun right chosen => by simp_all [Keyed.keys])
  oneLicense := fun code _ => db.licensing.licenses.select_le_one (.orderItemId code.orderItemId)
    (fun license chosen => by simp_all [Keyed.keys])
  reveals := reveals_available host db
  consumes := consumes_of_sealed lawful sealed'

/-- In every run that starts with no available code of a refunded order:
whatever became of a code between two points of the run is nothing, or one
step out of the available state; and at the later point the codes are
lawful. -/
theorem claim_codes_lawful (host : Host) (lawful : host.Lawful) (start : Db) (sealed' : Sealed start)
    (earlier later : List HostTransaction) :
    (forall code, code ∈ ((storefront host).run start earlier).entitlements.claimCodes ->
      Exists fun next =>
        next ∈ ((storefront host).run start (earlier ++ later)).entitlements.claimCodes ∧
        CodeMove code next) ∧
    CodesLawful host ((storefront host).run start (earlier ++ later)) := by
  constructor
  · intro code member
    rw [Machine.run_append]
    exact codes_onward lawful _ later code member
  · exact codesLawful_of_sealed lawful (sealed_run lawful sealed' _)

/-! ## Concrete run -/

instance (db : Db) : Decidable (Sealed db) :=
  inferInstanceAs (Decidable (forall order, order ∈ db.commerce.orders.rows ->
    order.status = .refunded -> forall code, code ∈ db.entitlements.claimCodes.rows ->
      code.orderId = order.id -> code.state.status ≠ .available))

/-- A paid gift of two units whose codes expire. -/
def expiringGift : Db :=
  let paid := (storefront Reference.host).run Db.empty
    [.createPendingOrder (Reference.checkout "g" 0 .claimCode .oneTime 2 none (fun _ => rfl)),
      .recordCheckoutAttempt (Reference.attempt "g" 0),
      .claimEvent (Reference.moment "paid" 10) (Reference.delivery "paid" .paymentPaid "g" "pay" 9),
      .processVerifiedEvent (Reference.moment "paid" 11) "event:paid"]
  { paid with entitlements := { paid.entitlements with
      claimCodes := paid.entitlements.claimCodes.update (fun _ => true)
        (fun code => { code with expiresAt := some 20 }) } }

/-- Both codes are revealed and the first is consumed. -/
def giftTaken : List HostTransaction :=
  [.revealClaimCode (Reference.moment "reveal" 12) "code:item:g:0" "buyer",
    .revealClaimCode (Reference.moment "reveal" 13) "code:item:g:1" "buyer",
    .consumeClaimCode (Reference.moment "consume" 14)
      ⟨"BKE-CLM-00000-00000-00000-00000-00000-00000", "friend", "friend"⟩]

/-- The second code is revealed and consumed after it has expired. -/
def giftExpired : List HostTransaction :=
  [.revealClaimCode (Reference.moment "reveal" 21) "code:item:g:1" "buyer",
    .consumeClaimCode (Reference.moment "consume" 22)
      ⟨"BKE-CLM-00000-00000-00000-00000-00000-00001", "friend", "friend"⟩]

example : ((storefront Reference.host).run expiringGift
    (giftTaken ++ giftExpired)).entitlements.claimCodes.rows.map (fun code => code.state.status) =
      [.claimed, .expired] := by
  decide +kernel

theorem claim_codes_lawful_expiringGift :
    (forall code,
      code ∈ ((storefront Reference.host).run expiringGift giftTaken).entitlements.claimCodes ->
      Exists fun next =>
        next ∈ ((storefront Reference.host).run expiringGift
          (giftTaken ++ giftExpired)).entitlements.claimCodes ∧
        CodeMove code next) ∧
    CodesLawful Reference.host
      ((storefront Reference.host).run expiringGift (giftTaken ++ giftExpired)) :=
  claim_codes_lawful Reference.host Reference.host_lawful expiringGift (by decide +kernel) giftTaken
    giftExpired

end Storefront
end DigitalSolutions

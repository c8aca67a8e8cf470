import DigitalSolutions.Storefront.System

namespace DigitalSolutions
namespace Storefront

open Foundation Persistence Platform Commerce Entitlements Licensing Orders Payments Scheduler

/-!
# A lawful host

Plain implementations of the packages the host is wired to.  They show that
the laws the host relies on can be kept together, and they are what the
concrete runs of this development execute.  Hashing and sealing are replaced
by functions that only keep different inputs apart.
-/

namespace Reference

/-- An order on texts by their characters. -/
def compareTexts (left right : String) : Int :=
  if left.toList < right.toList then -1 else if left = right then 0 else 1

def environment : Environment where
  paymentProvider := "mock"
  livemode := false
  claimCodeEncryptionKey := some "0123456789abcdef0123456789abcdef"
  licensePepper := "pepper"
  localeCompare := compareTexts
  hmacSha256 secret text := secret ++ ":" ++ text
  sealText key nonce text := key ++ ":" ++ nonce ++ ":" ++ text
  openText key text :=
    if (key ++ ":").toList.isPrefixOf text.toList then
      some (String.ofList (text.toList.drop (key.length + 1)))
    else none
  hashLicenseKey text := "hash:" ++ text
  encryptLicenseKey text := "sealed:" ++ text

/-! ## Payments -/

def claimFor (moment : Moment) (event : PaymentProviderEvent) (attempt : PaymentCheckoutAttempt)
    (externalPaymentId externalCheckoutId : String) : SettlementFactClaim where
  id := moment.draw .settlementFactId
  providerEventRecordId := event.id
  checkoutAttemptId := attempt.id
  provider := event.provider
  eventId := event.eventId
  externalPaymentId
  externalCheckoutId
  commercialReference := attempt.commercialReference
  amountMinor := attempt.amountMinor
  currency := attempt.currency
  livemode := event.livemode
  settledAt := event.occurredAt

/-- The claim, once the event and its attempt are known to agree. -/
def settleEvent (moment : Moment) (event : PaymentProviderEvent) (externalPaymentId externalCheckoutId : String)
    (attempt : PaymentCheckoutAttempt) : Program PaymentsPort PaymentsPort.Answer ReconcileResult :=
  if event.amountMinor ≠ some attempt.amountMinor then .done (.rejected .amountMismatch)
  else if event.currency ≠ some attempt.currency then .done (.rejected .currencyMismatch)
  else if event.reference.any (fun reference => reference ≠ attempt.commercialReference) then
    .done (.rejected .referenceMismatch)
  else
    .call (.claim (claimFor moment event attempt externalPaymentId externalCheckoutId))
      (fun claimed : SettlementFactClaimResult =>
        .done (.settled claimed.record (if claimed.created then .created else .existing)))

def reconcileEvent (moment : Moment) (expectedLivemode : Bool) (event : PaymentProviderEvent) :
    Program PaymentsPort PaymentsPort.Answer ReconcileResult :=
  if event.type ≠ .paymentPaid then .done (.rejected (.other "PAYMENTS_EVENT_NOT_PAID"))
  else if event.livemode ≠ expectedLivemode then .done (.rejected .modeMismatch)
  else
    match event.externalPaymentId, event.externalCheckoutId with
    | some externalPaymentId, some externalCheckoutId =>
      .call (.findCheckoutAttempt event.provider externalCheckoutId)
        (fun attempt : Option PaymentCheckoutAttempt =>
          match attempt with
          | none => .done (.rejected .checkoutMismatch)
          | some attempt => settleEvent moment event externalPaymentId externalCheckoutId attempt)
    | none, _ => .done (.rejected .paymentReferenceMissing)
    | some _, none => .done (.rejected .checkoutMismatch)

def payments : PaymentsPackage where
  reconcile moment input :=
    .call (.findProviderEventById input.providerEventRecordId)
      (fun event : Option PaymentProviderEvent =>
        match event with
        | none => .done (.rejected (.other "PAYMENTS_EVENT_NOT_FOUND"))
        | some event => reconcileEvent moment input.expectedLivemode event)

/-! ## Commerce -/

def grantFor (order : SettledOrder) (settledAt : Time) (item : SettledItem) : GrantInput where
  subjectId := order.accountId
  resourceId := item.productId
  sourceReference := .commerce order.orderId item.orderItemId
  quantity := item.quantity
  scopeSnapshot := item.entitlementSnapshot
  grantSnapshot := order.fulfillmentSnapshot
  validFrom := settledAt
  validUntil := none

def unitsFor (order : SettledOrder) (settledAt : Time) (item : SettledItem) : ClaimUnitIssueInput where
  orderId := order.orderId
  orderItemId := item.orderItemId
  purchaserAccountId := order.accountId
  productId := item.productId
  editionId := item.editionId
  purchasePlanId := item.purchasePlanId
  resourceId := item.productId
  quantity := item.quantity
  scopeSnapshot := item.entitlementSnapshot
  grantSnapshot := order.fulfillmentSnapshot
  validFrom := settledAt

def fulfill (order : SettledOrder) (settledAt : Time) :
    List SettledItem -> Program CommercePort CommercePort.Answer ReactResult
  | [] => .done (.ok order)
  | item :: rest =>
    match order.fulfillmentMode with
    | .accountEntitlement =>
      .call (.grant (grantFor order settledAt item)) (fun answer : GrantPortResult =>
        match answer with
        | .granted | .existing => fulfill order settledAt rest
        | .rejected => .done (.rejected (.other "COMMERCE_GRANT_REJECTED"))
        | .failed => .done .failed)
    | .claimCode =>
      .call (.issue (unitsFor order settledAt item)) (fun answer : ClaimUnitIssueResult =>
        match answer with
        | .issued _ | .existing _ => fulfill order settledAt rest
        | .rejected => .done (.rejected (.other "COMMERCE_ISSUE_REJECTED"))
        | .failed => .done .failed)

def commerce : CommercePackage where
  react _ :=
    .call .reconcile (fun settlement : CommerceSettlement =>
      .call (.settle ⟨settlement.commercialReference, settlement.amountMinor, settlement.currency,
          settlement.settledAt⟩) (fun result : SettleResult =>
        match result with
        | .rejected .orderNotFound => .done (.rejected .orderNotFound)
        | .rejected _ => .done (.rejected (.other "COMMERCE_ORDER_NOT_SETTLEABLE"))
        | .settled order => fulfill order settlement.settledAt order.items))

/-! ## Entitlements and licensing -/

def entitlements : EntitlementsPackage where
  grant := Program.relay id
  revoke := Program.relay id

def licensing : LicensingPackage where
  initialExpiration now validityDays := validityDays.map (fun days => addDays now days)
  renewalExpiration expiresAt effectiveAt durationMs :=
    match expiresAt with
    | some expiry => (if expiry > effectiveAt then expiry else effectiveAt) + durationMs
    | none => effectiveAt + durationMs
  issue := Program.relay .ok
  renewSubscription := Program.relay .ok

/-- A lease makes the device of an active licence active. -/
def issueLease (_ : Moment) (request : CommercialLeaseRequest) : Tx LicensingStore Unit := do
  let store <- get
  match store.licenses.lookup (.id request.licenseId) with
  | none => throw (.message "LICENSE_NOT_FOUND")
  | some license =>
    if license.status ≠ .active then
      throw (.message "LICENSE_INACTIVE")
    match store.deviceActivations.lookup (.device request.licenseId request.deviceHash) with
    | some device =>
      set { store with
        deviceActivations := store.deviceActivations.update (fun row => row.id = device.id)
          (fun row => { row with active := true, deactivatedAt := none }) }
    | none =>
      let deviceActivations <- Transaction.orFail .uniqueViolation
        (store.deviceActivations.insert {
          id := request.licenseId ++ ":" ++ request.deviceHash
          licenseId := request.licenseId
          deviceHash := request.deviceHash
          active := true
          deactivatedAt := none })
      set { store with deviceActivations }

def leases : LeasePackage where
  issue := issueLease

def ingestion : IngestionPackage where
  ingest input :=
    .call input (fun claimed =>
      if claimed.record.eventFingerprint ≠ input.eventFingerprint then .done .rejected
      else .done (.accepted (snapshot claimed.record) (if claimed.created then .created else .existing)))

def host : Host := { environment, payments, commerce, entitlements, licensing, leases }

/-! ## The laws -/

theorem entitlements_lawful : entitlements.Lawful where
  grant_relays := Program.relays_relay id GrantResult.accepted
  revoke_relays := Program.relays_relay id RevokeResult.accepted

theorem licensing_lawful : licensing.Lawful where
  issue_relays := by
    intro Failure Store handle input before after value commits accepted
    rcases Program.relays_relay LicensingResult.ok LicensingResult.accepted handle input before after
      value commits accepted with ⟨answer, called, reported⟩
    exact ⟨answer, called, reported.symm⟩
  renewSubscription_relays := by
    intro Failure Store handle input before after value commits accepted
    rcases Program.relays_relay LicensingResult.ok LicensingResult.accepted handle input before after
      value commits accepted with ⟨answer, called, reported⟩
    exact ⟨answer, called, reported.symm⟩

/-- The two ways a lease of the reference host commits. -/
theorem issueLease_commits (moment : Moment) {request : CommercialLeaseRequest}
    {before after : LicensingStore} {answer : Unit}
    (commits : (issueLease moment request).Commits before answer after) :
    Exists fun license => before.licenses.lookup (.id request.licenseId) = some license ∧
      license.status = .active ∧ after.licenses = before.licenses ∧
      after.subscriptions = before.subscriptions ∧
      ((Exists fun device =>
          before.deviceActivations.lookup (.device request.licenseId request.deviceHash) = some device ∧
          after.deviceActivations = before.deviceActivations.update (fun row => row.id = device.id)
            (fun row => { row with active := true, deactivatedAt := none })) ∨
        Exists fun device : DeviceActivation => device.licenseId = request.licenseId ∧
          before.deviceActivations.insert device = some after.deviceActivations) := by
  unfold issueLease at commits
  rw [Transaction.commits_get_bind] at commits
  split at commits
  case h_1 => exact absurd commits Transaction.not_commits_throw
  case h_2 license found =>
    rcases Transaction.commits_ite.mp commits with ⟨_, commits⟩ | ⟨active, commits⟩
    · simp only [Transaction.commits_bind, Transaction.not_commits_throw, false_and,
        exists_false] at commits
    split at commits
    case h_1 device known =>
      have wrote := Transaction.commits_set.mp commits
      subst wrote
      exact ⟨license, found, not_not.mp active, rfl, rfl, Or.inl ⟨device, known, rfl⟩⟩
    case h_2 unknown =>
      simp only [Transaction.commits_bind, Transaction.commits_orFail, Transaction.commits_set]
        at commits
      rcases commits with ⟨deviceActivations, _, ⟨inserted, rfl⟩, rfl⟩
      exact ⟨license, found, not_not.mp active, rfl, rfl, Or.inr ⟨_, rfl, inserted⟩⟩

theorem leases_lawful : leases.Lawful where
  licenses := by
    intro moment request before after answer commits
    rcases issueLease_commits moment commits with ⟨_, _, _, same, _, _⟩
    exact same
  subscriptions := by
    intro moment request before after answer commits
    rcases issueLease_commits moment commits with ⟨_, _, _, _, same, _⟩
    exact same
  devices := by
    intro moment request before after answer commits device member active
    rcases issueLease_commits moment commits with ⟨license, found, licensed, _, _, wrote⟩
    have ofLicense : license.id = request.licenseId := by
      simpa [Keyed.keys, eq_comm] using before.licenses.lookup_key found
    have licenseMember := before.licenses.lookup_mem found
    rcases wrote with ⟨known, knownFound, wrote⟩ | ⟨new, newLicense, inserted⟩
    · rw [wrote, Table.mem_update] at member
      rcases member with ⟨old, oldMember, same⟩
      by_cases chosen : old.id = known.id
      · have sameDevice : old = known := before.deviceActivations.eq_of_common_key oldMember
          (before.deviceActivations.lookup_mem knownFound)
          (by simp [Keyed.keys] : DeviceActivation.Key.id old.id ∈ Keyed.keys old)
          (by simp [Keyed.keys, chosen])
        have knownLicense : known.licenseId = request.licenseId := by
          have key := before.deviceActivations.lookup_key knownFound
          simp only [Keyed.keys, List.mem_cons, reduceCtorEq, DeviceActivation.Key.device.injEq,
            List.not_mem_nil, or_false, false_or] at key
          exact key.1.symm
        refine Or.inr ⟨license, licenseMember, ?_, licensed⟩
        rw [← same, sameDevice]
        simp [ofLicense, knownLicense]
      · simp only [chosen, decide_false, Bool.false_eq_true, if_false] at same
        exact Or.inl ⟨old, oldMember, same ▸ active, by rw [same]⟩
    · rcases (Table.mem_insert inserted).mp member with old | rfl
      · exact Or.inl ⟨device, old, active, rfl⟩
      · exact Or.inr ⟨license, licenseMember, ofLicense.trans newLicense.symm, licensed⟩

/-- What a reconciliation of the reference host has checked and claimed. -/
structure ReconcileCommit (moment : Moment) (expectedLivemode : Bool) (event : PaymentProviderEvent)
    (before : PaymentsStore) (value : PaymentSettlementFact) (disposition : FactDisposition)
    (after : PaymentsStore) (externalPaymentId externalCheckoutId : String)
    (attempt : PaymentCheckoutAttempt) : Prop where
  livemode : event.livemode = expectedLivemode
  checkout : event.externalCheckoutId = some externalCheckoutId
  attempted : before.checkoutAttempts.lookup (.external event.provider externalCheckoutId) = some attempt
  claims : ClaimsEvent event attempt
    (claimFor moment event attempt externalPaymentId externalCheckoutId)
  claimed : (claim moment (claimFor moment event attempt externalPaymentId externalCheckoutId)).Commits
    before ⟨disposition = .created, value⟩ after

theorem settleEvent_commits {moment : Moment} {event : PaymentProviderEvent}
    {externalPaymentId externalCheckoutId : String} {attempt : PaymentCheckoutAttempt}
    {before after : PaymentsStore} {value : PaymentSettlementFact} {disposition : FactDisposition}
    (commits : ((settleEvent moment event externalPaymentId externalCheckoutId attempt).connect
      (paymentsRepository moment)).Commits before (.settled value disposition) after) :
    event.amountMinor = some attempt.amountMinor ∧ event.currency = some attempt.currency ∧
      (claim moment (claimFor moment event attempt externalPaymentId externalCheckoutId)).Commits before
        ⟨disposition = .created, value⟩ after := by
  unfold settleEvent at commits
  split at commits
  · cases (Transaction.commits_pure.mp commits).1
  rename_i amount
  split at commits
  · cases (Transaction.commits_pure.mp commits).1
  rename_i currency
  split at commits
  · cases (Transaction.commits_pure.mp commits).1
  refine ⟨not_not.mp amount, not_not.mp currency, ?_⟩
  simp only [Program.connect, Transaction.commits_bind, Transaction.commits_pure] at commits
  rcases commits with ⟨claimed, _, done, reported, rfl⟩
  rcases claimed with ⟨created, record⟩
  simp only [ReconcileResult.settled.injEq] at reported
  rcases reported with ⟨rfl, rfl⟩
  cases created with
  | true => exact done
  | false => exact done

theorem reconcileEvent_commits {moment : Moment} {expectedLivemode : Bool}
    {event : PaymentProviderEvent} {before after : PaymentsStore} {value : PaymentSettlementFact}
    {disposition : FactDisposition}
    (commits : ((reconcileEvent moment expectedLivemode event).connect
      (paymentsRepository moment)).Commits before (.settled value disposition) after) :
    Exists fun externalPaymentId => Exists fun externalCheckoutId => Exists fun attempt =>
      ReconcileCommit moment expectedLivemode event before value disposition after externalPaymentId
        externalCheckoutId attempt := by
  unfold reconcileEvent at commits
  split at commits
  · cases (Transaction.commits_pure.mp commits).1
  split at commits
  · cases (Transaction.commits_pure.mp commits).1
  rename_i livemode
  split at commits
  case h_2 => cases (Transaction.commits_pure.mp commits).1
  case h_3 => cases (Transaction.commits_pure.mp commits).1
  case h_1 externalPaymentId externalCheckoutId payment checkout =>
    simp only [Program.connect, Transaction.commits_bind] at commits
    rcases commits with ⟨attempt, _, searched, commits⟩
    rcases findCheckoutAttempt_commits.mp searched with ⟨rfl, rfl⟩
    cases attempted : before.checkoutAttempts.lookup (.external event.provider externalCheckoutId) with
    | none =>
      rw [attempted] at commits
      cases (Transaction.commits_pure.mp commits).1
    | some attempt =>
      rw [attempted] at commits
      rcases settleEvent_commits commits with ⟨amount, currency, claimed⟩
      refine ⟨externalPaymentId, externalCheckoutId, attempt, ?_⟩
      exact
        { livemode := not_not.mp livemode
          checkout
          attempted
          claims :=
            { providerEventRecordId := rfl
              checkoutAttemptId := rfl
              provider := rfl
              eventId := rfl
              externalPaymentId := payment.symm
              externalCheckoutId := checkout.symm
              commercialReference := rfl
              amountMinor := amount.symm
              attemptAmount := rfl
              currency := currency.symm
              attemptCurrency := rfl
              livemode := rfl
              settledAt := rfl }
          claimed }

theorem payments_lawful : payments.Lawful where
  settled := by
    intro moment input before after value disposition commits
    simp only [payments, Program.connect, Transaction.commits_bind] at commits
    rcases commits with ⟨event, _, searched, commits⟩
    rcases findProviderEventById_commits.mp searched with ⟨rfl, rfl⟩
    cases found : before.providerEvents.lookup (.id input.providerEventRecordId) with
    | none =>
      rw [found] at commits
      cases (Transaction.commits_pure.mp commits).1
    | some event =>
      rw [found] at commits
      rcases reconcileEvent_commits commits with ⟨externalPaymentId, externalCheckoutId, attempt, facts⟩
      exact ⟨event, externalCheckoutId, attempt,
        claimFor moment event attempt externalPaymentId externalCheckoutId, rfl, facts.livemode,
        facts.checkout, facts.attempted, facts.claims, facts.claimed⟩
  settles := by
    intro moment input before event attempt externalPaymentId externalCheckoutId found type livemode
      payment checkout attempted amount currency reference freshId freshEvent freshPayment
    have free : forall key, key ∈ Keyed.keys (claimedFact moment
        (claimFor moment event attempt externalPaymentId externalCheckoutId)) ->
        before.settlementFacts.lookup key = none := by
      intro key wanted
      simp only [Keyed.keys, claimedFact, claimFor, List.mem_cons, List.not_mem_nil, or_false] at wanted
      rcases wanted with rfl | rfl | rfl
      · exact freshId
      · exact freshEvent
      · exact freshPayment
    rcases claim_commits_of_free free with ⟨settlementFacts, claimed⟩
    have agrees : event.reference.any (fun reference => reference ≠ attempt.commercialReference) =
        false := by
      cases given : event.reference with
      | none => rfl
      | some text => simp [reference text given]
    have settled : ((settleEvent moment event externalPaymentId externalCheckoutId attempt).connect
        (paymentsRepository moment)).Commits before (.settled (claimedFact moment
          (claimFor moment event attempt externalPaymentId externalCheckoutId)) .created)
          { before with settlementFacts } := by
      unfold settleEvent
      rw [if_neg (not_not.mpr amount), if_neg (not_not.mpr currency), agrees, if_neg (by simp)]
      simp only [Program.connect, Transaction.commits_bind, Transaction.commits_pure]
      exact ⟨_, _, claimed, rfl, rfl⟩
    have reconciled : ((reconcileEvent moment input.expectedLivemode event).connect
        (paymentsRepository moment)).Commits before (.settled (claimedFact moment
          (claimFor moment event attempt externalPaymentId externalCheckoutId)) .created)
          { before with settlementFacts } := by
      unfold reconcileEvent
      rw [if_neg (not_not.mpr type), if_neg (not_not.mpr livemode), payment, checkout]
      simp only [Program.connect, Transaction.commits_bind]
      exact ⟨_, _, findCheckoutAttempt_commits.mpr ⟨attempted, rfl⟩, settled⟩
    refine ⟨claimedFact moment (claimFor moment event attempt externalPaymentId externalCheckoutId),
      { before with settlementFacts }, ?_⟩
    simp only [payments, Program.connect, Transaction.commits_bind]
    exact ⟨_, _, findProviderEventById_commits.mpr ⟨found, rfl⟩, reconciled⟩

section CommerceLaw

variable {Failure Store : Type}
variable {handle : (port : CommercePort) -> Transaction Failure Store port.Answer}

/-- The loop over the items answers every one of them. -/
theorem fulfill_commits {order value : SettledOrder} {settledAt : Time} {items : List SettledItem}
    {before after : Store}
    (commits : ((fulfill order settledAt items).connect handle).Commits before (.ok value) after) :
    order = value ∧ Steps (FulfillsItem handle order settledAt) items before after := by
  induction items generalizing before with
  | nil =>
    rcases Transaction.commits_pure.mp commits with ⟨same, rfl⟩
    exact ⟨ReactResult.ok.inj same, Steps.nil before⟩
  | cons item rest inductionHypothesis =>
    unfold fulfill at commits
    cases mode : order.fulfillmentMode with
    | accountEntitlement =>
      simp only [mode, Program.connect, Transaction.commits_bind] at commits
      rcases commits with ⟨answer, middle, called, commits⟩
      have asked : GrantsItem order settledAt item (grantFor order settledAt item) := ⟨rfl, rfl, rfl⟩
      cases answer with
      | granted =>
        rcases inductionHypothesis commits with ⟨same, later⟩
        exact ⟨same, Steps.cons (.grant mode _ asked .granted (Or.inl rfl) called) later⟩
      | existing =>
        rcases inductionHypothesis commits with ⟨same, later⟩
        exact ⟨same, Steps.cons (.grant mode _ asked .existing (Or.inr rfl) called) later⟩
      | rejected => cases (Transaction.commits_pure.mp commits).1
      | failed => cases (Transaction.commits_pure.mp commits).1
    | claimCode =>
      simp only [mode, Program.connect, Transaction.commits_bind] at commits
      rcases commits with ⟨answer, middle, called, commits⟩
      have asked : IssuesItem order settledAt item (unitsFor order settledAt item) :=
        ⟨rfl, rfl, rfl, rfl, rfl⟩
      cases answer with
      | issued count =>
        rcases inductionHypothesis commits with ⟨same, later⟩
        exact ⟨same, Steps.cons (.issue mode _ asked (.issued count) count (Or.inl rfl) called) later⟩
      | existing count =>
        rcases inductionHypothesis commits with ⟨same, later⟩
        exact ⟨same, Steps.cons (.issue mode _ asked (.existing count) count (Or.inr rfl) called) later⟩
      | rejected => cases (Transaction.commits_pure.mp commits).1
      | failed => cases (Transaction.commits_pure.mp commits).1

end CommerceLaw

theorem commerce_lawful : commerce.Lawful := by
  intro Failure Store handle input before after value commits
  simp only [commerce, Program.connect, Transaction.commits_bind] at commits
  rcases commits with ⟨settlement, reconciled, asked, result, settled, settles, commits⟩
  cases result with
  | rejected code => cases code <;> cases (Transaction.commits_pure.mp commits).1
  | settled order =>
    rcases fulfill_commits commits with ⟨rfl, fulfilled⟩
    exact ⟨settlement, reconciled, settled, asked, settles, fulfilled⟩

theorem host_lawful : host.Lawful where
  payments := payments_lawful
  commerce := commerce_lawful
  entitlements := entitlements_lawful
  licensing := licensing_lawful
  leases := leases_lawful

theorem ingestion_lawful : ingestion.Lawful := by
  intro Failure Store handle input before after result commits
  simp only [ingestion, Program.connect, Transaction.commits_bind] at commits
  rcases commits with ⟨claimed, middle, called, commits⟩
  split at commits
  · rename_i differs
    rcases Transaction.commits_pure.mp commits with ⟨rfl, rfl⟩
    exact Or.inr ⟨claimed, called, Or.inl ⟨rfl, differs⟩⟩
  · rcases Transaction.commits_pure.mp commits with ⟨rfl, rfl⟩
    exact Or.inr ⟨claimed, called, Or.inr rfl⟩

/-! ## A small catalogue for concrete runs -/

def digit (unitIndex : Nat) : String := String.ofList [Char.ofNat (48 + unitIndex % 10)]

/-- A moment whose draws are named after what they are for; `tag` keeps the
draws of different moments apart. -/
def moment (tag : String) (now : Time) : Moment where
  now
  draw
    | .entitlementId (.commerce orderId orderItemId) => "right:" ++ orderId ++ ":" ++ orderItemId
    | .entitlementId (.claim claimCodeId) => "right:" ++ claimCodeId
    | .entitlementId (.other text) => "right:" ++ text
    | .claimCodeId orderItemId unitIndex => "code:" ++ orderItemId ++ ":" ++ digit unitIndex
    | .claimCodePlaintext _ unitIndex =>
      "BKE-CLM-00000-00000-00000-00000-00000-0000" ++ digit unitIndex
    | .claimCodeNonce orderItemId unitIndex => "nonce:" ++ orderItemId ++ ":" ++ digit unitIndex
    | .subscriptionId orderItemId => "subscription:" ++ orderItemId
    | .licenseId orderItemId => "license:" ++ orderItemId
    | .licensePublicId orderItemId => "public:" ++ orderItemId
    | .licensePlaintextKey orderItemId => "key:" ++ orderItemId
    | .paymentId => "payment:" ++ tag
    | .paymentAttemptId => "attempt:" ++ tag
    | .settlementFactId => "fact:" ++ tag
    | .idempotencyKey => "idempotency:" ++ tag

theorem unrenewing : FulfillmentMode.accountEntitlement = .claimCode -> (none : Option Id) = none :=
  fun _ => rfl

theorem renewing :
    FulfillmentMode.accountEntitlement = .claimCode -> some "subscription:item:s" = (none : Option Id) := by
  rintro ⟨⟩

/-- An order of one item.  What the examples vary are the names, the way it
is fulfilled, how it is billed, the quantity and what it renews. -/
def checkout (name : String) (createdAt : Time) (fulfillmentMode : FulfillmentMode)
    (billingType : BillingType) (quantity : Nat) (renews : Option Id)
    (gift : fulfillmentMode = .claimCode -> renews = none) : CheckoutRows where
  order := {
    id := "order:" ++ name
    number := "number:" ++ name
    sourceReference := none
    accountId := "buyer"
    status := .pending
    fulfillmentMode
    fulfillmentSnapshot := .object []
    currency := "PHP"
    totalMinor := 1000
    createdAt
    paidAt := none
    renewalSubscriptionId := renews }
  items := [{
    id := "item:" ++ name
    orderId := "order:" ++ name
    productId := "product"
    editionId := some "edition"
    purchasePlanId := some "plan"
    priceId := "price"
    productName := "Product"
    editionName := some "Edition"
    planName := some "Plan"
    priceName := "Price"
    planType := none
    quantity
    unitAmountMinor := 1000
    billingType
    intervalUnit := some .month
    intervalCount := some 1
    offerId := none
    entitlementSnapshot := .object []
    policySnapshot := ⟨1, 1, none⟩
    pricingSnapshot := ⟨none, none, none⟩
    pricingVersion := none }]
  invoice := {
    id := "invoice:" ++ name
    number := "invoice:" ++ name
    orderId := "order:" ++ name
    status := .draft
    issuedAt := none }
  redemption := none
  order_pending := rfl
  items_nonempty := List.cons_ne_nil _ _
  items_of_order := by simp
  invoice_of_order := rfl
  invoice_draft := rfl
  redemption_of_order := nofun
  redemption_reserved := nofun
  reserved_after_creation := nofun
  gift_renews_nothing := gift

/-- The checkout attempt the payments package records for such an order. -/
def attempt (name : String) (createdAt : Time) : PaymentCheckoutAttempt where
  id := "checkout:" ++ name
  sourceReference := "source:" ++ name
  commercialReference := "order:" ++ name
  provider := "mock"
  requestFingerprint := "fingerprint:" ++ name
  amountMinor := 1000
  currency := "PHP"
  payerSnapshot := .object []
  itemsSnapshot := .object []
  status := .pending
  externalCheckoutId := some ("external:" ++ name)
  checkoutUrl := some ("https://pay.example/" ++ name)
  failureCode := none
  createdAt
  updatedAt := createdAt

/-- A delivery about such an order: an event of the given type for one
external payment of its checkout. -/
def delivery (eventId : String) (type : ProviderEventType) (name payment : String)
    (occurredAt : Time) : ProviderEventClaim where
  id := "event:" ++ eventId
  provider := "mock"
  eventId
  payloadHash := "payload:" ++ eventId
  eventFingerprint := "event:" ++ eventId
  rawType := none
  type
  externalPaymentId := some payment
  externalCheckoutId := some ("external:" ++ name)
  reference := none
  externalRefundId := none
  refundStatus := none
  amountMinor := some 1000
  currency := some "PHP"
  livemode := false
  occurredAt

end Reference

end Storefront
end DigitalSolutions

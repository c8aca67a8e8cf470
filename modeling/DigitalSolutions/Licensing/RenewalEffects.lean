import DigitalSolutions.Licensing.RenewalLeases

namespace DigitalSolutions
namespace Licensing

open Foundation Persistence Platform

/-!
# The operations of a renewal

A renewal adds an operation for each active device of each licence under the
subscription, or one that is completed for a licence without any.  Operations
that exist are left alone.
-/

variable {package : LicensingPackage} {environment : Environment} {commerce : CommerceStore}
variable {moment : Moment} {order : Order} {accountId : Id} {evidence : PaymentEvidence} {item : OrderItem}
variable {before after : LicensingStore} {table first second third : Table CommercialLeaseOperation}
variable {orderId : Id} {wanted other : Id -> Option String -> Prop}
variable {requests : List RenewalLeaseRequest} {request : RenewalLeaseRequest}

def decisionFor : Option String -> RenewalDecision
  | some deviceHash => .successorLeasePending deviceHash
  | none => .entitlementRenewedNoActiveInstallation

/-- The operation of a licence for one of its devices, or for none. -/
structure IsFor (orderId licenseId : Id) (device : Option String) (operation : CommercialLeaseOperation) :
    Prop where
  operationId : operation.operationId = ⟨orderId, licenseId, device⟩
  licenseId : operation.licenseId = licenseId
  orderId : operation.metadata.orderId = orderId
  decision : operation.metadata.decision = decisionFor device

/-- The status of a new operation. -/
def NewStatus (device : Option String) (operation : CommercialLeaseOperation) : Prop :=
  operation.status = if device.isSome then .prepared else .completed

/-- The wanted operations have been added, and no others. -/
structure OperationsAdded (orderId : Id) (wanted : Id -> Option String -> Prop)
    (before after : Table CommercialLeaseOperation) : Prop where
  kept : forall operation, operation ∈ before -> operation ∈ after
  added : forall operation, operation ∈ after -> operation ∈ before ∨
    Exists fun licenseId => Exists fun device => wanted licenseId device ∧
      IsFor orderId licenseId device operation ∧ NewStatus device operation
  each : forall licenseId device, wanted licenseId device -> Exists fun operation => operation ∈ after ∧
    operation.operationId = ⟨orderId, licenseId, device⟩

theorem OperationsAdded.refl (nothing : forall licenseId device, ¬ wanted licenseId device)
    (table : Table CommercialLeaseOperation) : OperationsAdded orderId wanted table table where
  kept _ member := member
  added _ member := Or.inl member
  each licenseId device isWanted := absurd isWanted (nothing licenseId device)

theorem OperationsAdded.trans (left : OperationsAdded orderId wanted first second)
    (right : OperationsAdded orderId other second third) :
    OperationsAdded orderId (fun licenseId device => wanted licenseId device ∨ other licenseId device)
      first third where
  kept operation member := right.kept operation (left.kept operation member)
  added operation member := by
    rcases right.added operation member with old | ⟨licenseId, device, isWanted, facts⟩
    · rcases left.added operation old with inFirst | ⟨licenseId, device, isWanted, facts⟩
      · exact Or.inl inFirst
      · exact Or.inr ⟨licenseId, device, Or.inl isWanted, facts⟩
    · exact Or.inr ⟨licenseId, device, Or.inr isWanted, facts⟩
  each licenseId device isWanted := by
    rcases isWanted with inFirst | inSecond
    · rcases left.each licenseId device inFirst with ⟨operation, member, isOperation⟩
      exact ⟨operation, right.kept operation member, isOperation⟩
    · exact right.each licenseId device inSecond

theorem OperationsAdded.congr (added : OperationsAdded orderId wanted first second)
    (same : forall licenseId device, wanted licenseId device ↔ other licenseId device) :
    OperationsAdded orderId other first second := by
  have isSame : wanted = other := by
    funext licenseId device
    exact propext (same licenseId device)
  rw [← isSame]
  exact added

/-! ## One licence -/

/-- An upsert that changes nothing of what exists. -/
theorem added_insertOrIgnore {licenseId : Id} {device : Option String} {row : CommercialLeaseOperation}
    (isFor : IsFor orderId licenseId device row) (status : NewStatus device row) :
    OperationsAdded orderId (fun license hash => license = licenseId ∧ hash = device) table
      (table.insertOrIgnore row).1 := by
  unfold Table.insertOrIgnore
  cases done : table.insert row with
  | some inserted =>
    refine ⟨?_, ?_, ?_⟩
    · intro operation member
      exact (Table.mem_insert done).mpr (Or.inl member)
    · intro operation member
      rcases (Table.mem_insert done).mp member with old | rfl
      · exact Or.inl old
      · exact Or.inr ⟨licenseId, device, ⟨rfl, rfl⟩, isFor, status⟩
    · rintro _ _ ⟨rfl, rfl⟩
      exact ⟨row, (Table.mem_insert done).mpr (Or.inr rfl), isFor.operationId⟩
  | none =>
    refine ⟨fun operation member => member, fun operation member => Or.inl member, ?_⟩
    rintro _ _ ⟨rfl, rfl⟩
    by_contra absent
    have free : forall key, key ∈ Keyed.keys row -> table.lookup key = none := by
      intro key isKey
      rw [Table.lookup_eq_none]
      intro operation member occupied
      apply absent
      have rowKey : key = .operationId row.operationId := List.mem_singleton.mp isKey
      have operationKey : key = .operationId operation.operationId := List.mem_singleton.mp occupied
      have same := CommercialLeaseOperation.Key.operationId.inj (operationKey.symm.trans rowKey)
      exact ⟨operation, member, same.trans isFor.operationId⟩
    rcases Table.insert_of_free free with ⟨inserted, isInserted⟩
    rw [done] at isInserted
    cases isInserted

/-- The devices that the operations of a licence are for. -/
def renewedDevices (deviceHashes : List String) : List (Option String) :=
  if deviceHashes.isEmpty then [none] else deviceHashes.map some

def renewalOperation (input : RenewInput) (license : License) (effectiveExpiry : Time)
    (device : Option String) : RenewalOperation where
  operationId := ⟨input.orderId, license.id, device⟩
  licenseId := license.id
  deviceHash := device
  status := if device.isSome then .prepared else .completed
  effectiveExpiry := effectiveExpiry

theorem renewalOperations_eq (input : RenewInput) (license : License) (effectiveExpiry : Time)
    (deviceHashes : List String) : renewalOperations input license effectiveExpiry deviceHashes =
      (renewedDevices deviceHashes).map (renewalOperation input license effectiveExpiry) := by
  unfold renewalOperations renewedDevices
  split
  · rfl
  · rw [List.map_map]
    rfl

theorem isFor_leaseOperationRow (input : RenewInput) (license : License) (effectiveExpiry : Time)
    (device : Option String) : IsFor input.orderId license.id device
      (leaseOperationRow input license (renewalOperation input license effectiveExpiry device)) := by
  cases device with
  | none => exact ⟨rfl, rfl, rfl, rfl⟩
  | some deviceHash => exact ⟨rfl, rfl, rfl, rfl⟩

theorem added_fold (input : RenewInput) (license : License) (effectiveExpiry : Time)
    (devices : List (Option String)) (table : Table CommercialLeaseOperation) :
    OperationsAdded input.orderId (fun licenseId device => licenseId = license.id ∧ device ∈ devices) table
      ((devices.map (renewalOperation input license effectiveExpiry)).foldl (fun table operation =>
        (table.insertOrIgnore (leaseOperationRow input license operation)).1) table) := by
  induction devices generalizing table with
  | nil =>
    apply OperationsAdded.refl
    rintro licenseId device ⟨_, member⟩
    cases member
  | cons device rest inductionHypothesis =>
    have isFor := isFor_leaseOperationRow input license effectiveExpiry device
    have upserted : OperationsAdded input.orderId (fun licenseId hash => licenseId = license.id ∧ hash = device)
        table (table.insertOrIgnore _).1 := added_insertOrIgnore isFor rfl
    apply (upserted.trans (inductionHypothesis _)).congr
    intro licenseId hash
    rw [List.mem_cons]
    constructor
    · rintro (⟨isLicense, isDevice⟩ | ⟨isLicense, inRest⟩)
      · exact ⟨isLicense, Or.inl isDevice⟩
      · exact ⟨isLicense, Or.inr inRest⟩
    · rintro ⟨isLicense, isDevice | inRest⟩
      · exact Or.inl ⟨isLicense, isDevice⟩
      · exact Or.inr ⟨isLicense, inRest⟩

/-! ## The licences under a subscription -/

theorem added_renewLicenses (package : LicensingPackage) (input : RenewInput) (licenses : List License)
    (store : LicensingStore) :
    OperationsAdded input.orderId (fun licenseId device =>
        (Exists fun license => license ∈ licenses ∧ license.id = licenseId) ∧
          device ∈ renewedDevices (activeDeviceHashes store licenseId))
      store.leaseOperations (renewLicenses package input licenses store).1.leaseOperations := by
  induction licenses generalizing store with
  | nil =>
    apply OperationsAdded.refl
    rintro licenseId device ⟨⟨license, member, _⟩, _⟩
    cases member
  | cons license rest inductionHypothesis =>
    rw [renewLicenses]
    let renewed := (renewLicense package input license store).1
    have first : OperationsAdded input.orderId (fun licenseId device => licenseId = license.id ∧
        device ∈ renewedDevices (activeDeviceHashes store license.id))
        store.leaseOperations renewed.leaseOperations := by
      have folded := added_fold input license (package.renewalExpiration license.expiresAt input.effectiveAt
        (input.periodEnd - input.periodStart)) (renewedDevices (activeDeviceHashes store license.id))
        store.leaseOperations
      rw [← renewalOperations_eq] at folded
      exact folded
    have sameDevices : forall licenseId, activeDeviceHashes renewed licenseId = activeDeviceHashes store licenseId :=
      fun licenseId => rfl
    apply (first.trans (inductionHypothesis renewed)).congr
    intro licenseId device
    rw [sameDevices]
    constructor
    · rintro (⟨rfl, isDevice⟩ | ⟨⟨other, member, isOther⟩, isDevice⟩)
      · exact ⟨⟨license, List.mem_cons_self, rfl⟩, isDevice⟩
      · exact ⟨⟨other, List.mem_cons_of_mem _ member, isOther⟩, isDevice⟩
    · rintro ⟨⟨other, member, isOther⟩, isDevice⟩
      rcases List.mem_cons.mp member with rfl | inRest
      · subst isOther
        exact Or.inl ⟨rfl, isDevice⟩
      · exact Or.inr ⟨⟨other, inRest, isOther⟩, isDevice⟩

/-- The licence is under the subscription and has this device, or none. -/
def Renews (store : LicensingStore) (subscriptionId licenseId : Id) (device : Option String) : Prop :=
  (Exists fun license => license ∈ store.licenses ∧ license.id = licenseId ∧
      license.subscriptionId = some subscriptionId) ∧
    device ∈ renewedDevices (activeDeviceHashes store licenseId)

theorem renews_iff_licensesOf (store : LicensingStore) (subscriptionId licenseId : Id) (device : Option String) :
    ((Exists fun license => license ∈ licensesOf store subscriptionId ∧ license.id = licenseId) ∧
        device ∈ renewedDevices (activeDeviceHashes store licenseId)) ↔
      Renews store subscriptionId licenseId device := by
  have members : forall license, license ∈ licensesOf store subscriptionId ↔
      license ∈ store.licenses ∧ license.subscriptionId = some subscriptionId := by
    intro license
    rw [licensesOf, Table.mem_select, decide_eq_true_eq]
  constructor
  · rintro ⟨⟨license, member, isLicense⟩, isDevice⟩
    exact ⟨⟨license, ((members license).mp member).1, isLicense, ((members license).mp member).2⟩, isDevice⟩
  · rintro ⟨⟨license, member, isLicense, isUnder⟩, isDevice⟩
    exact ⟨⟨license, (members license).mpr ⟨member, isUnder⟩, isLicense⟩, isDevice⟩

theorem added_renewSubscription {input : RenewInput} {renewal : Renewal}
    (commits : (renewSubscription package input).Commits before renewal after) :
    OperationsAdded input.orderId (Renews before input.subscriptionId) before.leaseOperations
      after.leaseOperations := by
  unfold renewSubscription at commits
  simp only [Transaction.commits_bind, Transaction.commits_get, Transaction.commits_set,
    Transaction.commits_pure] at commits
  rcases commits with ⟨_, _, ⟨rfl, rfl⟩, _, _, rfl, _, rfl⟩
  exact (added_renewLicenses package input _ before).congr
    (renews_iff_licensesOf before input.subscriptionId)

/-! ## The requests of a renewal -/

/-- A request for an operation of an order. -/
def RequestFor (orderId : Id) (wanted : Id -> Option String -> Prop) (request : RenewalLeaseRequest) : Prop :=
  request.operationId = ⟨orderId, request.licenseId, some request.deviceHash⟩ ∧
    wanted request.licenseId (some request.deviceHash)

theorem RequestFor.mono (isRequest : RequestFor orderId wanted request)
    (weaker : forall licenseId device, wanted licenseId device -> other licenseId device) :
    RequestFor orderId other request :=
  ⟨isRequest.1, weaker _ _ isRequest.2⟩

theorem mem_leaseRequests {operations : List RenewalOperation} :
    request ∈ leaseRequests operations ↔ Exists fun operation => operation ∈ operations ∧
      operation.status = .prepared ∧ operation.operationId = request.operationId ∧
      operation.licenseId = request.licenseId ∧ operation.deviceHash = some request.deviceHash := by
  unfold leaseRequests
  rw [List.mem_filterMap]
  apply exists_congr
  intro operation
  apply and_congr_right
  intro _
  cases operation.status with
  | prepared =>
    cases operation.deviceHash with
    | none => simp
    | some deviceHash =>
      cases request
      simp
  | pending => simp
  | completed => simp

theorem requests_renewLicenses (package : LicensingPackage) (input : RenewInput) (licenses : List License)
    (store : LicensingStore) : forall request,
    request ∈ leaseRequests (renewLicenses package input licenses store).2.renewalOperations ->
    RequestFor input.orderId (fun licenseId device =>
      (Exists fun license => license ∈ licenses ∧ license.id = licenseId) ∧
        device ∈ renewedDevices (activeDeviceHashes store licenseId)) request := by
  induction licenses generalizing store with
  | nil =>
    intro request member
    cases member
  | cons license rest inductionHypothesis =>
    intro request member
    rw [renewLicenses] at member
    rcases mem_leaseRequests.mp member with ⟨operation, inOperations, isPrepared, isOperation, isLicense, isDevice⟩
    rcases List.mem_append.mp inOperations with first | later
    · simp only [renewLicense] at first
      rw [renewalOperations_eq] at first
      rcases List.mem_map.mp first with ⟨device, inDevices, rfl⟩
      have sameDevice : device = some request.deviceHash := isDevice
      have sameLicense : license.id = request.licenseId := isLicense
      refine ⟨?_, ⟨license, List.mem_cons_self, sameLicense⟩, ?_⟩
      · rw [← isOperation, ← sameLicense, ← sameDevice]
        rfl
      · rw [← sameLicense, ← sameDevice]
        exact inDevices
    · have inRest := inductionHypothesis (renewLicense package input license store).1 request
        (mem_leaseRequests.mpr ⟨operation, later, isPrepared, isOperation, isLicense, isDevice⟩)
      apply inRest.mono
      rintro licenseId device ⟨⟨other, otherMember, isOther⟩, isWanted⟩
      exact ⟨⟨other, List.mem_cons_of_mem _ otherMember, isOther⟩, isWanted⟩

theorem requests_renewSubscription {input : RenewInput} {renewal : Renewal}
    (commits : (renewSubscription package input).Commits before renewal after)
    (member : request ∈ leaseRequests renewal.renewalOperations) :
    RequestFor input.orderId (Renews before input.subscriptionId) request := by
  unfold renewSubscription at commits
  simp only [Transaction.commits_bind, Transaction.commits_get, Transaction.commits_set,
    Transaction.commits_pure] at commits
  rcases commits with ⟨_, _, ⟨rfl, rfl⟩, _, _, rfl, rfl, rfl⟩
  apply (requests_renewLicenses package input _ before request member).mono
  intro licenseId device
  exact (renews_iff_licensesOf before input.subscriptionId licenseId device).mp

/-! ## The items of an order -/

/-- The wanted operations have been added, and what is asked for is wanted. -/
structure RenewalsWanted (orderId : Id) (wanted : Id -> Option String -> Prop) (before after : LicensingStore)
    (requests : List RenewalLeaseRequest) : Prop where
  added : OperationsAdded orderId wanted before.leaseOperations after.leaseOperations
  requested : forall request, request ∈ requests -> RequestFor orderId wanted request

theorem RenewalsWanted.append {middle : LicensingStore} {later : List RenewalLeaseRequest}
    (left : RenewalsWanted orderId wanted before middle requests)
    (right : RenewalsWanted orderId other middle after later) :
    RenewalsWanted orderId (fun licenseId device => wanted licenseId device ∨ other licenseId device)
      before after (requests ++ later) := by
  refine ⟨left.added.trans right.added, ?_⟩
  intro request member
  rcases List.mem_append.mp member with inFirst | inLater
  · exact (left.requested request inFirst).mono fun _ _ => Or.inl
  · exact (right.requested request inLater).mono fun _ _ => Or.inr

theorem RenewalsWanted.congr (renewals : RenewalsWanted orderId wanted before after requests)
    (same : forall licenseId device, wanted licenseId device ↔ other licenseId device) :
    RenewalsWanted orderId other before after requests :=
  ⟨renewals.added.congr same,
    fun request member => (renewals.requested request member).mono fun _ _ => (same _ _).mp⟩

/-- Nothing is wanted, and nothing is added. -/
theorem RenewalsWanted.none (nothing : forall licenseId device, ¬ wanted licenseId device)
    (same : after.leaseOperations = before.leaseOperations) :
    RenewalsWanted orderId wanted before after [] := by
  refine ⟨?_, fun _ member => absurd member List.not_mem_nil⟩
  rw [same]
  exact OperationsAdded.refl nothing before.leaseOperations

theorem renewItem_wanted (lawful : package.Lawful) {intervalUnit : IntervalUnit} {intervalCount : Int}
    {subscriptionId : Id}
    (commits : (renewItem package moment order evidence item intervalUnit intervalCount
      subscriptionId).Commits before requests after) :
    RenewalsWanted order.id (Renews before subscriptionId) before after requests := by
  unfold renewItem at commits
  simp only [Transaction.commits_bind, Transaction.commits_get, Transaction.commits_orFail,
    Transaction.commits_set] at commits
  rcases commits with ⟨_, _, ⟨rfl, rfl⟩, existing, _, ⟨found, rfl⟩, _, _, rfl, result, middle, called, commits⟩
  cases result with
  | refused => exact absurd commits Transaction.not_commits_throw
  | ok renewal =>
    rcases Transaction.commits_pure.mp commits with ⟨rfl, rfl⟩
    rcases lawful.renewSubscription_relays _ _ _ _ _ called (by rintro ⟨⟩) with
      ⟨answer, renewed, isAnswer⟩
    cases isAnswer
    have sameId : existing.id = subscriptionId := by
      have key := before.subscriptions.lookup_key found
      simpa [Keyed.keys, eq_comm] using key
    subst sameId
    exact ⟨added_renewSubscription renewed, fun request => requests_renewSubscription renewed⟩

theorem renews_of_fulfilled {subscriptionId : Id} (renews : order.renewalSubscriptionId = some subscriptionId)
    (fulfilled : ItemFulfilled package environment commerce moment order accountId item before after)
    (licenseId : Id) (device : Option String) :
    Renews after subscriptionId licenseId device ↔ Renews before subscriptionId licenseId device := by
  cases fulfilled with
  | issued oneTime expiresAt licenses inserted wrote =>
    subst wrote
    constructor
    · rintro ⟨⟨license, member, isLicense, isUnder⟩, isDevice⟩
      rcases (Table.mem_insert inserted).mp member with old | rfl
      · exact ⟨⟨license, old, isLicense, isUnder⟩, isDevice⟩
      · cases isUnder
    · rintro ⟨⟨license, member, facts⟩, isDevice⟩
      exact ⟨⟨license, (Table.mem_insert inserted).mpr (Or.inl member), facts⟩, isDevice⟩
  | subscribed recurring renewsNothing =>
    rw [renews] at renewsNothing
    cases renewsNothing
  | renewed recurring subscriptionId renews' existing found intervalUnit intervalCount interval subscriptions
      licenses deviceActivations =>
    have sameDevices : activeDeviceHashes after licenseId = activeDeviceHashes before licenseId := by
      rw [activeDeviceHashes, activeDeviceHashes, deviceActivations]
    rw [Renews, Renews, sameDevices]
    constructor
    · rintro ⟨⟨license, member, isLicense, isUnder⟩, isDevice⟩
      rcases (Table.mem_of_rows licenses).mp member with ⟨old, oldMember, isLater⟩
      split at isLater
      · subst isLater
        exact ⟨⟨old, oldMember, isLicense, isUnder⟩, isDevice⟩
      · subst isLater
        exact ⟨⟨old, oldMember, isLicense, isUnder⟩, isDevice⟩
    · rintro ⟨⟨license, member, isLicense, isUnder⟩, isDevice⟩
      refine ⟨⟨_, (Table.mem_of_rows licenses).mpr ⟨license, member, rfl⟩, ?_⟩, isDevice⟩
      split
      · exact ⟨isLicense, isUnder⟩
      · exact ⟨isLicense, isUnder⟩

/-- What an item of an order wants: nothing, or a renewal. -/
def WantedBy (order : Order) (items : List OrderItem) (store : LicensingStore) (licenseId : Id)
    (device : Option String) : Prop :=
  (Exists fun item => item ∈ items ∧ item.billingType = .subscription) ∧
    Exists fun subscriptionId => order.renewalSubscriptionId = some subscriptionId ∧
      Renews store subscriptionId licenseId device

theorem requests_issueItem {subscriptionId : Option Id} {expiresAt : Option Time}
    (commits : (issueItem package environment moment order accountId item subscriptionId
      expiresAt).Commits before requests after) : requests = [] := by
  unfold issueItem at commits
  rw [Transaction.commits_bind] at commits
  rcases commits with ⟨issued, middle, _, commits⟩
  cases issued with
  | refused => exact absurd commits Transaction.not_commits_throw
  | ok snapshot => exact (Transaction.commits_pure.mp commits).1.symm

theorem fulfillItem_wanted (lawful : package.Lawful)
    (commits : (fulfillItem package environment commerce moment order accountId evidence item).Commits
      before requests after) :
    RenewalsWanted order.id (WantedBy order [item] before) before after requests := by
  unfold fulfillItem at commits
  split at commits
  case h_1 oneTime =>
    rcases issueItem_commits lawful commits with ⟨licenses, _, rfl⟩
    rw [requests_issueItem commits]
    refine RenewalsWanted.none ?_ rfl
    rintro licenseId device ⟨⟨other, member, recurring⟩, _⟩
    rw [List.mem_singleton.mp member, oneTime] at recurring
    cases recurring
  case h_2 recurring =>
    split at commits
    case h_1 => exact absurd commits Transaction.not_commits_throw
    case h_2 intervalUnit intervalCount interval =>
      split at commits
      case h_1 subscriptionId renews =>
        apply (renewItem_wanted lawful commits).congr
        intro licenseId device
        constructor
        · intro isRenewed
          exact ⟨⟨item, List.mem_singleton_self item, recurring⟩, subscriptionId, renews, isRenewed⟩
        · rintro ⟨_, otherId, isOther, isRenewed⟩
          rw [renews, Option.some.injEq] at isOther
          rw [isOther]
          exact isRenewed
      case h_2 renewsNothing =>
        unfold subscribeItem at commits
        simp only [Transaction.commits_bind, Transaction.commits_get, Transaction.commits_orFail,
          Transaction.commits_set] at commits
        rcases commits with ⟨_, _, ⟨rfl, rfl⟩, _, _, ⟨_, rfl⟩, _, _, rfl, commits⟩
        rcases issueItem_commits lawful commits with ⟨licenses, _, rfl⟩
        rw [requests_issueItem commits]
        refine RenewalsWanted.none ?_ rfl
        rintro licenseId device ⟨_, subscriptionId, renews, _⟩
        rw [renewsNothing] at renews
        cases renews

theorem fulfillItems_wanted (lawful : package.Lawful) (items : List OrderItem)
    (commits : (fulfillItems package environment commerce moment order accountId evidence items).Commits
      before requests after) :
    RenewalsWanted order.id (WantedBy order items before) before after requests := by
  induction items generalizing before requests with
  | nil =>
    rcases Transaction.commits_pure.mp commits with ⟨rfl, rfl⟩
    refine RenewalsWanted.none ?_ rfl
    rintro licenseId device ⟨⟨item, member, _⟩, _⟩
    cases member
  | cons item rest inductionHypothesis =>
    rw [fulfillItems] at commits
    simp only [Transaction.commits_bind, Transaction.commits_pure] at commits
    rcases commits with ⟨_, middle, firstCommits, _, _, laterCommits, rfl, rfl⟩
    have fulfilled := fulfillItem_commits lawful firstCommits
    apply ((fulfillItem_wanted lawful firstCommits).append (inductionHypothesis laterCommits)).congr
    intro licenseId device
    constructor
    · rintro (⟨⟨other, member, recurring⟩, facts⟩ | ⟨⟨other, member, recurring⟩, subscriptionId, renews, isRenewed⟩)
      · rw [List.mem_singleton] at member
        subst member
        exact ⟨⟨other, List.mem_cons_self, recurring⟩, facts⟩
      · exact ⟨⟨other, List.mem_cons_of_mem _ member, recurring⟩, subscriptionId, renews,
          (renews_of_fulfilled renews fulfilled licenseId device).mp isRenewed⟩
    · rintro ⟨⟨other, member, recurring⟩, subscriptionId, renews, isRenewed⟩
      rcases List.mem_cons.mp member with rfl | inRest
      · exact Or.inl ⟨⟨other, List.mem_singleton_self other, recurring⟩, subscriptionId, renews, isRenewed⟩
      · exact Or.inr ⟨⟨other, inRest, recurring⟩, subscriptionId, renews,
          (renews_of_fulfilled renews fulfilled licenseId device).mpr isRenewed⟩

/-- What fulfilling an order adds to the operations, and asks for. -/
theorem added_fulfillOrderLicensing (lawful : package.Lawful)
    (commits : (fulfillOrderLicensing package environment commerce moment orderId evidence
      ⟨none, none⟩).Commits before requests after) :
    Exists fun order => commerce.orders.lookup (.id orderId) = some order ∧
      OperationsAdded order.id (WantedBy order (targetItems commerce order ⟨none, none⟩) before)
        before.leaseOperations after.leaseOperations ∧
      forall request, request ∈ requests ->
        RequestFor order.id (WantedBy order (targetItems commerce order ⟨none, none⟩) before) request := by
  unfold fulfillOrderLicensing at commits
  simp only [Transaction.commits_bind, Transaction.commits_orFail] at commits
  rcases commits with ⟨order, _, ⟨found, rfl⟩, commits⟩
  refine ⟨order, found, ?_⟩
  rcases Transaction.commits_ite.mp commits with ⟨named, _⟩ | ⟨_, commits⟩
  · cases named.1
  · have renewals := fulfillItems_wanted lawful _ commits
    exact ⟨renewals.added, renewals.requested⟩

end Licensing
end DigitalSolutions

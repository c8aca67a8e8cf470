import DigitalSolutions.Licensing.RenewalEffects

namespace DigitalSolutions
namespace Licensing

open Foundation Persistence Platform

/-!
# Renewals in a run

Every operation belongs to an order that has been settled, and to a licence
that has a key.  From there on it is completed at most, and nothing is added
for an order that has been settled.
-/

variable {host : RenewalHost} {before after start : RenewalStore}
variable {crowd next : Crowd RenewalStore RenewalPoint}
variable {earlier later : CommercialLeaseOperation}
variable {point : RenewalPoint} {order : Order}

/-! ## Operations over time -/

/-- The same operation, as it was or completed. -/
structure Progressed (earlier later : CommercialLeaseOperation) : Prop where
  operationId : later.operationId = earlier.operationId
  licenseId : later.licenseId = earlier.licenseId
  metadata : later.metadata = earlier.metadata
  status : later.status = earlier.status ∨ later.status = .completed

theorem Progressed.refl (operation : CommercialLeaseOperation) : Progressed operation operation :=
  ⟨rfl, rfl, rfl, Or.inl rfl⟩

theorem Progressed.trans {middle : CommercialLeaseOperation} (first : Progressed earlier middle)
    (second : Progressed middle later) : Progressed earlier later where
  operationId := second.operationId.trans first.operationId
  licenseId := second.licenseId.trans first.licenseId
  metadata := second.metadata.trans first.metadata
  status := by
    rcases second.status with same | completed
    · rw [same]
      exact first.status
    · exact Or.inr completed

theorem Progressed.completed (progressed : Progressed earlier later) (completed : earlier.status = .completed) :
    later.status = .completed := by
  rcases progressed.status with same | completed'
  · rw [same, completed]
  · exact completed'

theorem Progressed.prepared (progressed : Progressed earlier later) (prepared : later.status = .prepared) :
    earlier.status = .prepared := by
  rcases progressed.status with same | completed
  · rw [← same, prepared]
  · rw [completed] at prepared
    cases prepared

theorem Progressed.isFor (progressed : Progressed earlier later) {orderId licenseId : Id} {device : Option String}
    (isFor : IsFor orderId licenseId device earlier) : IsFor orderId licenseId device later where
  operationId := progressed.operationId.trans isFor.operationId
  licenseId := progressed.licenseId.trans isFor.licenseId
  orderId := by rw [progressed.metadata, isFor.orderId]
  decision := by rw [progressed.metadata, isFor.decision]

theorem progressed_completeOperation (operationId : RenewalOperationId) (completedAt : Time)
    (operation : CommercialLeaseOperation) :
    Progressed operation (completeOperation operationId completedAt operation) := by
  unfold completeOperation
  split
  · exact ⟨rfl, rfl, rfl, Or.inr rfl⟩
  · exact Progressed.refl operation

theorem renewalOperation_of_id {table : Table CommercialLeaseOperation} {left right : CommercialLeaseOperation}
    (leftMember : left ∈ table) (rightMember : right ∈ table) (same : left.operationId = right.operationId) :
    left = right := by
  have occupied : CommercialLeaseOperation.Key.operationId left.operationId ∈ Keyed.keys right := by
    rw [same]
    exact List.mem_singleton_self _
  exact table.eq_of_common_key leftMember rightMember (List.mem_singleton_self _) occupied

/-- Settled orders stay settled, and their operations are those that they had. -/
structure Continues (before after : RenewalStore) : Prop where
  settled : forall orderId, orderId ∈ before.settled -> orderId ∈ after.settled
  forward : forall earlier, earlier ∈ before.licensing.leaseOperations ->
    Exists fun later => later ∈ after.licensing.leaseOperations ∧ Progressed earlier later
  backward : forall later, later ∈ after.licensing.leaseOperations -> later.metadata.orderId ∈ before.settled ->
    Exists fun earlier => earlier ∈ before.licensing.leaseOperations ∧ Progressed earlier later

theorem Continues.refl (store : RenewalStore) : Continues store store where
  settled _ isSettled := isSettled
  forward earlier member := ⟨earlier, member, Progressed.refl earlier⟩
  backward later member _ := ⟨later, member, Progressed.refl later⟩

theorem Continues.trans {middle : RenewalStore} (first : Continues before middle)
    (second : Continues middle after) : Continues before after where
  settled orderId isSettled := second.settled orderId (first.settled orderId isSettled)
  forward earlier member := by
    rcases first.forward earlier member with ⟨between, inMiddle, progressed⟩
    rcases second.forward between inMiddle with ⟨later, inAfter, further⟩
    exact ⟨later, inAfter, progressed.trans further⟩
  backward later member isSettled := by
    rcases second.backward later member (first.settled _ isSettled) with ⟨between, inMiddle, further⟩
    rw [further.metadata] at isSettled
    rcases first.backward between inMiddle isSettled with ⟨earlier, inBefore, progressed⟩
    exact ⟨earlier, inBefore, progressed.trans further⟩

/-- What the store has in every state of a run. -/
structure Formed (store : RenewalStore) : Prop where
  orders : forall operation, operation ∈ store.licensing.leaseOperations ->
    operation.metadata.orderId ∈ store.settled
  devices : forall operation, operation ∈ store.licensing.leaseOperations -> Exists fun device =>
    IsFor operation.metadata.orderId operation.licenseId device operation ∧
      (operation.status = .prepared -> device ≠ none)
  licenses : forall operation, operation ∈ store.licensing.leaseOperations ->
    Exists fun license => license ∈ store.licensing.licenses ∧ license.id = operation.licenseId
  keys : forall license, license ∈ store.licensing.licenses -> present license.keyCiphertext ≠ none

/-- An operation for a device says which. -/
theorem Formed.names (formed : Formed before) {operation : CommercialLeaseOperation}
    (member : operation ∈ before.licensing.leaseOperations) {orderId licenseId : Id} {deviceHash : String}
    (isOperation : operation.operationId = ⟨orderId, licenseId, some deviceHash⟩) :
    operation.licenseId = licenseId ∧ recordedDeviceHash operation = deviceHash := by
  rcases formed.devices operation member with ⟨device, isFor, _⟩
  have ids := isFor.operationId.symm.trans isOperation
  simp only [RenewalOperationId.mk.injEq] at ids
  rcases ids with ⟨_, sameLicense, rfl⟩
  refine ⟨sameLicense, ?_⟩
  rw [recordedDeviceHash, isFor.decision]
  rfl

/-- The licences, the subscriptions and the settled orders are the same, and
operations have progressed at most. -/
structure Quiet (before after : RenewalStore) : Prop where
  licenses : after.licensing.licenses = before.licensing.licenses
  subscriptions : after.licensing.subscriptions = before.licensing.subscriptions
  settled : after.settled = before.settled
  forward : forall earlier, earlier ∈ before.licensing.leaseOperations ->
    Exists fun later => later ∈ after.licensing.leaseOperations ∧ Progressed earlier later
  backward : forall later, later ∈ after.licensing.leaseOperations ->
    Exists fun earlier => earlier ∈ before.licensing.leaseOperations ∧ Progressed earlier later

theorem Quiet.same (licenses : after.licensing.licenses = before.licensing.licenses)
    (subscriptions : after.licensing.subscriptions = before.licensing.subscriptions)
    (settled : after.settled = before.settled)
    (operations : after.licensing.leaseOperations = before.licensing.leaseOperations) : Quiet before after := by
  refine ⟨licenses, subscriptions, settled, ?_, ?_⟩
  · intro earlier member
    exact ⟨earlier, operations ▸ member, Progressed.refl earlier⟩
  · intro later member
    exact ⟨later, operations ▸ member, Progressed.refl later⟩

theorem Quiet.continues (quiet : Quiet before after) : Continues before after where
  settled orderId isSettled := by
    rw [quiet.settled]
    exact isSettled
  forward := quiet.forward
  backward later member _ := quiet.backward later member

theorem Quiet.formed (quiet : Quiet before after) (formed : Formed before) : Formed after where
  orders later member := by
    rcases quiet.backward later member with ⟨earlier, inBefore, progressed⟩
    rw [quiet.settled, progressed.metadata]
    exact formed.orders earlier inBefore
  devices later member := by
    rcases quiet.backward later member with ⟨earlier, inBefore, progressed⟩
    rcases formed.devices earlier inBefore with ⟨device, isFor, ofDevice⟩
    refine ⟨device, ?_, fun prepared => ofDevice (progressed.prepared prepared)⟩
    rw [progressed.metadata, progressed.licenseId]
    exact progressed.isFor isFor
  licenses later member := by
    rcases quiet.backward later member with ⟨earlier, inBefore, progressed⟩
    rw [quiet.licenses, progressed.licenseId]
    exact formed.licenses earlier inBefore
  keys license member := formed.keys license (quiet.licenses ▸ member)

theorem quiet_issue (issues : IssuesRenewals host.issuer) (request : RenewalIssue) (drawn : String)
    (store : RenewalStore) : Quiet store (host.issuer.issue request drawn store).1 := by
  rcases issues.frame request drawn store with ⟨licenses, subscriptions, settled⟩
  rcases issues.operations request drawn store with same | ⟨completedAt, rows⟩
  · exact Quiet.same licenses subscriptions settled same
  · refine ⟨licenses, subscriptions, settled, ?_, ?_⟩
    · intro earlier member
      exact ⟨_, (Table.mem_of_rows rows).mpr ⟨earlier, member, rfl⟩,
        progressed_completeOperation request.operationId completedAt earlier⟩
    · intro later member
      rcases (Table.mem_of_rows rows).mp member with ⟨earlier, inBefore, rfl⟩
      exact ⟨earlier, inBefore, progressed_completeOperation request.operationId completedAt earlier⟩

/-! ## A payment -/

/-- No licence is lost, and new ones have keys. -/
structure LicensesKept (before after : LicensingStore) : Prop where
  kept : forall license, license ∈ before.licenses ->
    Exists fun later => later ∈ after.licenses ∧ later.id = license.id
  keys : (forall license, license ∈ before.licenses -> present license.keyCiphertext ≠ none) ->
    forall license, license ∈ after.licenses -> present license.keyCiphertext ≠ none

theorem LicensesKept.refl (store : LicensingStore) : LicensesKept store store :=
  ⟨fun license member => ⟨license, member, rfl⟩, fun keys => keys⟩

theorem LicensesKept.trans {first second third : LicensingStore} (left : LicensesKept first second)
    (right : LicensesKept second third) : LicensesKept first third where
  kept license member := by
    rcases left.kept license member with ⟨between, inSecond, isBetween⟩
    rcases right.kept between inSecond with ⟨later, inThird, isLater⟩
    exact ⟨later, inThird, isLater.trans isBetween⟩
  keys inFirst := right.keys (left.keys inFirst)

theorem licensesKept_insert {license : License} {licenses : Table License} {first second : LicensingStore}
    (hasKey : present license.keyCiphertext ≠ none) (inserted : first.licenses.insert license = some licenses)
    (wrote : second.licenses = licenses) : LicensesKept first second := by
  subst wrote
  constructor
  · intro old member
    exact ⟨old, (Table.mem_insert inserted).mpr (Or.inl member), rfl⟩
  · intro keys other member
    rcases (Table.mem_insert inserted).mp member with old | rfl
    · exact keys other old
    · exact hasKey

theorem licensesKept_of_fulfilled {package : LicensingPackage} {environment : Environment}
    {commerce : CommerceStore} {moment : Moment} {accountId : Id} {item : OrderItem}
    {first second : LicensingStore} (encrypts : forall key, environment.encryptLicenseKey key ≠ "")
    (fulfilled : ItemFulfilled package environment commerce moment order accountId item first second) :
    LicensesKept first second := by
  have hasKey : forall subscriptionId expiresAt, present (itemLicense environment moment order accountId item
      subscriptionId expiresAt).keyCiphertext ≠ none := by
    intro subscriptionId expiresAt
    have named := encrypts (moment.draw (.licensePlaintextKey item.id))
    simp only [itemLicense, issuedLicense, issueInput, present, String.isEmpty_iff, named, if_false]
    exact Option.some_ne_none _
  cases fulfilled with
  | issued oneTime expiresAt licenses inserted wrote =>
    exact licensesKept_insert (hasKey none expiresAt) inserted (congrArg LicensingStore.licenses wrote)
  | subscribed recurring renewsNothing intervalUnit intervalCount interval subscriptions opened licenses
      inserted wrote =>
    exact licensesKept_insert (hasKey _ _) inserted (congrArg LicensingStore.licenses wrote)
  | renewed recurring subscriptionId renews existing found intervalUnit intervalCount interval subscriptions
      licenses deviceActivations =>
    constructor
    · intro license member
      refine ⟨_, (Table.mem_of_rows licenses).mpr ⟨license, member, rfl⟩, ?_⟩
      split
      · rfl
      · rfl
    · intro keys license member
      rcases (Table.mem_of_rows licenses).mp member with ⟨old, inFirst, rfl⟩
      split
      · exact keys old inFirst
      · exact keys old inFirst

/-- What a committed payment of an order that was not settled has done. -/
structure Paid (host : RenewalHost) (order : Order) (before after : RenewalStore) : Prop where
  found : host.commerce.orders.lookup (.id order.id) = some order
  unsettled : order.id ∉ before.settled
  settled : after.settled = order.id :: before.settled
  operations : OperationsAdded order.id
    (WantedBy order (targetItems host.commerce order ⟨none, none⟩) before.licensing)
    before.licensing.leaseOperations after.licensing.leaseOperations
  licenses : LicensesKept before.licensing after.licensing

/-- The requests are for operations of the order. -/
def Requested (host : RenewalHost) (order : Order) (store : RenewalStore)
    (requests : List RenewalLeaseRequest) : Prop :=
  forall request, request ∈ requests ->
    RequestFor order.id (WantedBy order (targetItems host.commerce order ⟨none, none⟩) store.licensing) request

/-- A payment does nothing, or fulfils an order that was not settled. -/
theorem payOrder_cases (lawful : host.package.Lawful)
    (encrypts : forall key, host.environment.encryptLicenseKey key ≠ "") (moment : Moment) (orderId : Id)
    (evidence : PaymentEvidence) (store : RenewalStore) :
    payOrder host moment orderId evidence store = (store, []) ∨
      Exists fun order => order.id = orderId ∧
        Paid host order store (payOrder host moment orderId evidence store).1 ∧
        Requested host order store (payOrder host moment orderId evidence store).2 := by
  unfold payOrder
  split
  · exact Or.inl rfl
  · rename_i unsettled
    split
    · exact Or.inl rfl
    · rename_i requests licensing commits
      rcases added_fulfillOrderLicensing lawful commits with ⟨order, found, added, requested⟩
      rcases fulfillOrderLicensing_commits lawful commits with ⟨other, isOther, fulfilled⟩
      have isOrder : order.id = orderId := by
        have key := host.commerce.orders.lookup_key found
        simpa [Keyed.keys, eq_comm] using key
      subst isOrder
      refine Or.inr ⟨order, rfl, ⟨found, unsettled, rfl, added, ?_⟩, requested⟩
      apply fulfilled.items.related LicensesKept LicensesKept.refl (fun _ _ _ => LicensesKept.trans)
      intro item _ _ _ itemFulfilled
      exact licensesKept_of_fulfilled encrypts itemFulfilled

theorem Paid.continues (paid : Paid host order before after) : Continues before after where
  settled orderId isSettled := by
    rw [paid.settled]
    exact List.mem_cons_of_mem _ isSettled
  forward earlier member := ⟨earlier, paid.operations.kept earlier member, Progressed.refl earlier⟩
  backward later member isSettled := by
    rcases paid.operations.added later member with old | ⟨licenseId, device, _, isFor, _⟩
    · exact ⟨later, old, Progressed.refl later⟩
    · rw [isFor.orderId] at isSettled
      exact absurd isSettled paid.unsettled

theorem Paid.formed (paid : Paid host order before after) (formed : Formed before) :
    Formed after where
  orders operation member := by
    rw [paid.settled]
    rcases paid.operations.added operation member with old | ⟨licenseId, device, _, isFor, _⟩
    · exact List.mem_cons_of_mem _ (formed.orders operation old)
    · rw [isFor.orderId]
      exact List.mem_cons_self
  devices operation member := by
    rcases paid.operations.added operation member with old | ⟨licenseId, device, _, isFor, status⟩
    · exact formed.devices operation old
    · refine ⟨device, ?_, ?_⟩
      · rw [isFor.orderId, isFor.licenseId]
        exact isFor
      · rintro prepared rfl
        rw [NewStatus, prepared] at status
        cases status
  licenses operation member := by
    have held : Exists fun license => license ∈ before.licensing.licenses ∧ license.id = operation.licenseId := by
      rcases paid.operations.added operation member with old | ⟨licenseId, device, wanted, isFor, _⟩
      · exact formed.licenses operation old
      · rcases wanted with ⟨_, subscriptionId, _, ⟨license, inBefore, isLicense, _⟩, _⟩
        exact ⟨license, inBefore, isLicense.trans isFor.licenseId.symm⟩
    rcases held with ⟨license, inBefore, isLicense⟩
    rcases paid.licenses.kept license inBefore with ⟨later, inAfter, isLater⟩
    exact ⟨later, inAfter, isLater.trans isLicense⟩
  keys := paid.licenses.keys formed.keys

/-! ## One access -/

/-- What an access at a point has done. -/
inductive RenewalWrite (host : RenewalHost) (before after : RenewalStore) : RenewalPoint -> Prop
  | quiet {point : RenewalPoint} (quiet : Quiet before after) : RenewalWrite host before after point
  | paid {order : Order} {evidence : PaymentEvidence} (paid : Paid host order before after) :
      RenewalWrite host before after (.paying order.id evidence)

theorem RenewalWrite.continues (write : RenewalWrite host before after point) :
    Continues before after := by
  cases write with
  | quiet quiet => exact quiet.continues
  | paid paid => exact paid.continues

theorem RenewalWrite.formed (write : RenewalWrite host before after point) (formed : Formed before) :
    Formed after := by
  cases write with
  | quiet quiet => exact quiet.formed formed
  | paid paid => exact paid.formed formed

theorem quiet_refl (store : RenewalStore) : Quiet store store := Quiet.same rfl rfl rfl rfl

theorem renewalStep_write (lawful : host.package.Lawful) (issues : IssuesRenewals host.issuer)
    (encrypts : forall key, host.environment.encryptLicenseKey key ≠ "") (store : RenewalStore)
    (draw : RenewalDraw) (point : RenewalPoint) :
    RenewalWrite host store (renewalStep host store draw point).1 point := by
  have kept : RenewalWrite host store store point := .quiet (quiet_refl store)
  cases point with
  | paying orderId evidence =>
    simp only [renewalStep]
    split
    · exact kept
    · rcases payOrder_cases lawful encrypts draw.moment orderId evidence store with
        same | ⟨order, rfl, paid, _⟩
      · rw [same]
        exact kept
      · exact .paid paid
  | leasing requests =>
    cases requests with
    | nil => exact kept
    | cons request rest =>
      simp only [renewalStep]
      split
      · exact kept
      · split
        · exact kept
        · exact kept
  | issuing request rest =>
    simp only [renewalStep]
    split
    · exact kept
    · exact .quiet (quiet_issue issues request draw.drawn store)
  | selecting dryRun =>
    simp only [renewalStep]
    split
    · exact kept
    · exact kept
  | recovering candidates =>
    cases candidates with
    | nil => exact kept
    | cons candidate rest =>
      simp only [renewalStep]
      split
      · exact kept
      · rename_i request _
        split
        · exact kept
        · exact .quiet (quiet_issue issues request draw.drawn store)

theorem quiet_ambient {event : RenewalAmbient}
    (changed : (renewalProtocol host).ambient before event = .ok after) : Quiet before after := by
  cases changed
  cases event with
  | devices deviceActivations => exact Quiet.same rfl rfl rfl rfl
  | leases leases => exact Quiet.same rfl rfl rfl rfl

/-! ## The requests of a payment -/

/-- What a payment is still going to ask for. -/
def pendingRequests : RenewalPoint -> List RenewalLeaseRequest
  | .leasing requests => requests
  | .issuing _ rest => rest
  | _ => []

/-- The request is what the recovery would make of a stored operation. -/
def Named (store : RenewalStore) (request : RenewalLeaseRequest) : Prop :=
  Exists fun operation => operation ∈ store.licensing.leaseOperations ∧
    operation.operationId = request.operationId ∧ operation.licenseId = request.licenseId ∧
    recordedDeviceHash operation = request.deviceHash

def Pending (store : RenewalStore) (point : RenewalPoint) : Prop :=
  forall request, request ∈ pendingRequests point -> Named store request

theorem Named.continues {request : RenewalLeaseRequest} (named : Named before request)
    (continues : Continues before after) : Named after request := by
  rcases named with ⟨operation, member, isOperation, isLicense, isDevice⟩
  rcases continues.forward operation member with ⟨later, inAfter, progressed⟩
  refine ⟨later, inAfter, progressed.operationId.trans isOperation, progressed.licenseId.trans isLicense, ?_⟩
  rw [← isDevice, recordedDeviceHash, recordedDeviceHash, progressed.metadata]

theorem Pending.continues (pending : Pending before point) (continues : Continues before after) :
    Pending after point :=
  fun request member => (pending request member).continues continues

theorem named_of_requested {requests : List RenewalLeaseRequest} (formed : Formed after)
    (paid : Paid host order before after) (requested : Requested host order before requests)
    {request : RenewalLeaseRequest} (member : request ∈ requests) : Named after request := by
  rcases requested request member with ⟨isRequest, wanted⟩
  rcases paid.operations.each _ _ wanted with ⟨operation, inAfter, isOperation⟩
  rcases formed.names inAfter isOperation with ⟨isLicense, isDevice⟩
  exact ⟨operation, inAfter, isOperation.trans isRequest.symm, isLicense, isDevice⟩

theorem pending_next (lawful : host.package.Lawful)
    (encrypts : forall key, host.environment.encryptLicenseKey key ≠ "") {store : RenewalStore}
    (formed : Formed store) {draw : RenewalDraw} {later : RenewalPoint} (pending : Pending store point)
    (continues : Continues store (renewalStep host store draw point).1)
    (isLater : (renewalStep host store draw point).2 = some later) :
    Pending (renewalStep host store draw point).1 later := by
  have rest : forall {requests : List RenewalLeaseRequest}, later = .leasing requests ->
      (forall request, request ∈ requests -> Named store request) ->
      Pending (renewalStep host store draw point).1 later := by
    rintro requests rfl named request member
    exact (named request member).continues continues
  have nothing : pendingRequests later = [] -> Pending (renewalStep host store draw point).1 later := by
    intro empty request member
    rw [empty] at member
    cases member
  cases point with
  | paying orderId evidence =>
    simp only [renewalStep] at isLater ⊢
    split at isLater
    · cases isLater
    · rename_i quiet
      cases isLater
      simp only [quiet, Bool.false_eq_true, if_false]
      rcases payOrder_cases lawful encrypts draw.moment orderId evidence store with
        same | ⟨order, _, paid, requested⟩
      · intro request member
        rw [same] at member
        cases member
      · intro request member
        exact named_of_requested (paid.formed formed) paid requested member
  | leasing requests =>
    cases requests with
    | nil => cases isLater
    | cons request tail =>
      have inTail : forall other, other ∈ tail -> Named store other :=
        fun other member => pending other (List.mem_cons_of_mem request member)
      simp only [renewalStep] at isLater
      split at isLater
      · exact rest (Option.some.inj isLater).symm inTail
      · split at isLater
        · exact rest (Option.some.inj isLater).symm inTail
        · cases isLater
          intro other member
          exact (inTail other member).continues continues
  | issuing request tail =>
    have inTail : forall other, other ∈ tail -> Named store other := pending
    simp only [renewalStep] at isLater
    split at isLater
    · exact rest (Option.some.inj isLater).symm inTail
    · exact rest (Option.some.inj isLater).symm inTail
  | selecting dryRun =>
    simp only [renewalStep] at isLater
    split at isLater
    · cases isLater
    · cases isLater
      exact nothing rfl
  | recovering candidates =>
    cases candidates with
    | nil => cases isLater
    | cons candidate tail =>
      simp only [renewalStep] at isLater
      split at isLater
      · cases isLater
        exact nothing rfl
      · split at isLater
        · cases isLater
          exact nothing rfl
        · cases isLater
          exact nothing rfl

/-! ## Whole runs -/

abbrev RenewalMove : Type := CrowdMove RenewalCall RenewalDraw RenewalAmbient

theorem renewals_outlined (lawful : host.package.Lawful) (issues : IssuesRenewals host.issuer)
    (encrypts : forall key, host.environment.encryptLicenseKey key ≠ "") :
    (renewalProtocol host).Outlined (fun _ _ => True) Formed fun store _ point => Pending store point where
  enters crowd process call holds _ := by
    intro request member
    cases call with
    | payment orderId evidence => cases member
    | recovery dryRun => cases member
  advances crowd process point draw after later holds _ here advanced := by
    have write := renewalStep_write lawful issues encrypts crowd.store draw point
    have isAfter : (renewalStep host crowd.store draw point).1 = after :=
      congrArg Prod.fst (Except.ok.inj advanced)
    have isLater : (renewalStep host crowd.store draw point).2 = later :=
      congrArg Prod.snd (Except.ok.inj advanced)
    subst isAfter
    refine ⟨write.formed holds.store, ?_⟩
    intro next isNext
    exact pending_next lawful encrypts holds.store (holds.points process point here) write.continues
      (isLater.trans isNext)
  spares crowd process point draw after later holds _ here advanced other bystander _ stands := by
    have write := renewalStep_write lawful issues encrypts crowd.store draw point
    have isAfter : (renewalStep host crowd.store draw point).1 = after :=
      congrArg Prod.fst (Except.ok.inj advanced)
    subst isAfter
    exact (holds.points other bystander stands).continues write.continues
  ambient crowd event after holds _ changed := by
    have quiet := quiet_ambient changed
    exact ⟨quiet.formed holds.store,
      fun other bystander stands => (holds.points other bystander stands).continues quiet.continues⟩

/-- A move pays an order that was not settled, or is quiet. -/
theorem renewal_move (lawful : host.package.Lawful) (issues : IssuesRenewals host.issuer)
    (encrypts : forall key, host.environment.encryptLicenseKey key ≠ "") {move : RenewalMove}
    (accepted : (renewalProtocol host).machine.step crowd move = .ok next) :
    Quiet crowd.store next.store ∨
      Exists fun process => Exists fun draw => Exists fun order => Exists fun evidence =>
        move = .advance process draw ∧ crowd.processes process = some (.paying order.id evidence) ∧
        Paid host order crowd.store next.store := by
  rcases Protocol.step_store accepted with same | ⟨process, draw, point, later, rfl, here, advanced⟩ |
    ⟨event, rfl, changed⟩
  · rw [same]
    exact Or.inl (quiet_refl crowd.store)
  · have isNext : (renewalStep host crowd.store draw point).1 = next.store :=
      congrArg Prod.fst (Except.ok.inj advanced)
    have write := renewalStep_write lawful issues encrypts crowd.store draw point
    rw [isNext] at write
    cases write with
    | quiet quiet => exact Or.inl quiet
    | @paid order evidence paid => exact Or.inr ⟨process, draw, order, evidence, rfl, here, paid⟩
  · exact Or.inl (quiet_ambient changed)

theorem continues_run (lawful : host.package.Lawful) (issues : IssuesRenewals host.issuer)
    (encrypts : forall key, host.environment.encryptLicenseKey key ≠ "")
    (crowd : Crowd RenewalStore RenewalPoint) (moves : List RenewalMove) :
    Continues crowd.store ((renewalProtocol host).machine.run crowd moves).store := by
  have preserved : forall middle : Crowd RenewalStore RenewalPoint, forall (move : RenewalMove) next,
      Continues crowd.store middle.store -> (renewalProtocol host).machine.step middle move = .ok next ->
      Continues crowd.store next.store := by
    intro middle move next continues accepted
    apply continues.trans
    rcases renewal_move lawful issues encrypts accepted with quiet | ⟨_, _, _, _, _, _, paid⟩
    · exact quiet.continues
    · exact paid.continues
  exact Machine.run_invariant preserved (Continues.refl crowd.store) moves

end Licensing
end DigitalSolutions

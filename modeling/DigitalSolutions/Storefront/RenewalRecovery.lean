import DigitalSolutions.Licensing.RenewalRuns
import DigitalSolutions.Storefront.SubscriptionPeriods

namespace DigitalSolutions
namespace Storefront

open Foundation Persistence Platform Licensing

/-!
# Renewals are recovered

A renewal has one operation for each device that was active at its payment,
whatever is interrupted and repeated afterwards.  Only the payment extends
anything.  As long as the device of a prepared operation is active and bound,
the recovery asks for its lease, under the same operation id as the payment.
-/

variable {host : RenewalHost} {start before after : RenewalStore} {process : Nat}
variable {crowd next : Crowd RenewalStore RenewalPoint}

def renewalRun (host : RenewalHost) (start : RenewalStore) (moves : List RenewalMove) :
    Crowd RenewalStore RenewalPoint :=
  (renewalProtocol host).machine.run (Crowd.opening start) moves

/-- Each licence and device that was to be renewed has one operation, and the
order has no others. -/
structure RenewedOnce (host : RenewalHost) (order : Order) (before after : RenewalStore) : Prop where
  each : forall licenseId device,
    WantedBy order (targetItems host.commerce order ⟨none, none⟩) before.licensing licenseId device ->
    ExistsUnique fun operation => operation ∈ after.licensing.leaseOperations ∧
      IsFor order.id licenseId device operation
  only : forall operation, operation ∈ after.licensing.leaseOperations -> operation.metadata.orderId = order.id ->
    Exists fun licenseId => Exists fun device =>
      WantedBy order (targetItems host.commerce order ⟨none, none⟩) before.licensing licenseId device ∧
      IsFor order.id licenseId device operation

structure SamePeriods (before after : RenewalStore) : Prop where
  licenses : after.licensing.licenses = before.licensing.licenses
  subscriptions : after.licensing.subscriptions = before.licensing.subscriptions

/-- The move pays an order that was not settled. -/
def Pays (crowd next : Crowd RenewalStore RenewalPoint) (move : RenewalMove) : Prop :=
  Exists fun process => Exists fun draw => Exists fun orderId => Exists fun evidence =>
    move = .advance process draw ∧ crowd.processes process = some (.paying orderId evidence) ∧
    orderId ∉ crowd.store.settled ∧ next.store.settled = orderId :: crowd.store.settled

/-- The device of the operation is active, and a lease binds it. -/
structure StillBound (host : RenewalHost) (store : RenewalStore) (operation : CommercialLeaseOperation) :
    Prop where
  active : recordedDeviceHash operation ∈ activeDeviceHashes store.licensing operation.licenseId
  bound : Exists fun lease => lease ∈ store.leases ∧ lease.licenseId = operation.licenseId ∧
    lease.status = "ACTIVE" ∧ host.sha256 lease.deviceId = recordedDeviceHash operation

/-- The issue is for the operation, and for its device. -/
structure IssueOf (host : RenewalHost) (operation : CommercialLeaseOperation) (issue : RenewalIssue) : Prop where
  operationId : issue.operationId = operation.operationId
  device : host.sha256 issue.deviceId = recordedDeviceHash operation

/-- How often the process advances. -/
def advances (process : Nat) (moves : List RenewalMove) : Nat :=
  moves.countP fun move => match move with
    | .advance other _ => other = process
    | _ => false

/-- A recovery has selected its operations, has had its turn with those before
the last one, and goes on to this one. -/
structure Reaches (host : RenewalHost) (start : RenewalStore) (past between : List RenewalMove)
    (process : Nat) (selection draw : RenewalDraw) (operation : CommercialLeaseOperation) : Prop where
  selecting : (renewalRun host start past).processes process = some (.selecting false)
  selected : selection.throws = false
  going : forall move, move ∈ between -> move ≠ .stop process
  goes : draw.throws = false
  window : advances process between < 20
  operation : (preparedOperations (renewalRun host start past).store)[advances process between]? = some operation

structure RenewalsKept (host : RenewalHost) (start : RenewalStore) (moves : List RenewalMove) : Prop where
  once : forall past move rest, moves = past ++ move :: rest -> forall order,
    host.commerce.orders.lookup (.id order.id) = some order ->
    order.id ∉ (renewalRun host start past).store.settled ->
    order.id ∈ (renewalRun host start (past ++ [move])).store.settled ->
    RenewedOnce host order (renewalRun host start past).store (renewalRun host start moves).store
  periods : forall past move rest, moves = past ++ move :: rest ->
    SamePeriods (renewalRun host start past).store (renewalRun host start (past ++ [move])).store ∨
      Pays (renewalRun host start past) (renewalRun host start (past ++ [move])) move
  completed : forall past rest, moves = past ++ rest -> forall operation,
    operation ∈ (renewalRun host start past).store.licensing.leaseOperations -> operation.status = .completed ->
    Exists fun later => later.status = .completed ∧
      (renewalRun host start moves).store.licensing.leaseOperations.lookup (.operationId operation.operationId) =
        some later
  /-- What a payment is going to ask for is what the recovery would ask for. -/
  agrees : forall process point, (renewalRun host start moves).processes process = some point ->
    forall request, request ∈ pendingRequests point -> Exists fun operation =>
      operation ∈ (renewalRun host start moves).store.licensing.leaseOperations ∧
      operation.operationId = request.operationId ∧
      paymentIssue host (renewalRun host start moves).store request =
        recoveryIssue host (recoveryCandidate (renewalRun host start moves).store operation)
  /-- A prepared operation is accepted while its device is active and bound. -/
  accepted : forall operation, operation ∈ (renewalRun host start moves).store.licensing.leaseOperations ->
    operation.status = .prepared -> StillBound host (renewalRun host start moves).store operation ->
    operation ∈ preparedOperations (renewalRun host start moves).store ∧
    Exists fun issue => IssueOf host operation issue ∧
      recoveryIssue host (recoveryCandidate (renewalRun host start moves).store operation) = some issue
  /-- A recovery that comes to an accepted operation has its lease issued. -/
  recovered : forall past process selection between draw rest,
    moves = past ++ .advance process selection :: between ++ .advance process draw :: rest ->
    forall operation, Reaches host start past between process selection draw operation ->
    StillBound host (renewalRun host start past).store operation ->
    Exists fun issue => IssueOf host operation issue ∧
      (renewalRun host start (past ++ .advance process selection :: between ++ [.advance process draw])).store =
        (host.issuer.issue issue draw.drawn
          (renewalRun host start (past ++ .advance process selection :: between)).store).1

/-! ## The operations of a paid order -/

theorem renewedOnce_of_paid {order : Order} {final : RenewalStore} (paid : Paid host order before after)
    (formed : Formed before) (continues : Continues after final) : RenewedOnce host order before final where
  each licenseId device wanted := by
    rcases paid.operations.each licenseId device wanted with ⟨operation, inAfter, isOperation⟩
    rcases paid.operations.added operation inAfter with old | ⟨otherId, other, _, isFor, _⟩
    · have isOld := formed.orders operation old
      rcases formed.devices operation old with ⟨recorded, isFor, _⟩
      have ids := isFor.operationId.symm.trans isOperation
      rw [RenewalOperationId.mk.injEq] at ids
      rw [ids.1] at isOld
      exact absurd isOld paid.unsettled
    · have ids := isFor.operationId.symm.trans isOperation
      rw [RenewalOperationId.mk.injEq] at ids
      rcases ids with ⟨_, rfl, rfl⟩
      rcases continues.forward operation inAfter with ⟨later, inFinal, progressed⟩
      refine ⟨later, ⟨inFinal, progressed.isFor isFor⟩, ?_⟩
      rintro another ⟨anotherMember, isAnother⟩
      apply renewalOperation_of_id anotherMember inFinal
      rw [isAnother.operationId, (progressed.isFor isFor).operationId]
  only operation member isOrder := by
    have isSettled : operation.metadata.orderId ∈ after.settled := by
      rw [isOrder, paid.settled]
      exact List.mem_cons_self
    rcases continues.backward operation member isSettled with ⟨earlier, inAfter, progressed⟩
    rcases paid.operations.added earlier inAfter with old | ⟨licenseId, device, wanted, isFor, _⟩
    · have isOld := formed.orders earlier old
      rw [← progressed.metadata, isOrder] at isOld
      exact absurd isOld paid.unsettled
    · exact ⟨licenseId, device, wanted, progressed.isFor isFor⟩

/-! ## What is asked for -/

theorem named_agrees {store : RenewalStore} {request : RenewalLeaseRequest} (named : Named store request) :
    Exists fun operation => operation ∈ store.licensing.leaseOperations ∧
      operation.operationId = request.operationId ∧
      paymentIssue host store request = recoveryIssue host (recoveryCandidate store operation) := by
  rcases named with ⟨operation, member, isOperation, isLicense, isDevice⟩
  refine ⟨operation, member, isOperation, ?_⟩
  simp only [paymentIssue, recoveryIssue, recoveryCandidate, isOperation, isLicense, isDevice]

theorem mem_leaseHistory {licenseId : Id} {leases : Table LicenseLeaseRecord} {lease : LicenseLeaseRecord}
    (member : lease ∈ leases) (isLicense : lease.licenseId = licenseId) (isActive : lease.status = "ACTIVE") :
    (⟨lease.installationId, lease.deviceId, lease.version⟩ : LeaseBinding) ∈ leaseHistory licenseId leases := by
  apply List.mem_map.mpr
  refine ⟨lease, List.mem_reverse.mpr (leases.mem_select.mpr ⟨member, ?_⟩), rfl⟩
  simp only [isLicense, isActive, decide_true, Bool.and_self]

/-- An operation whose device is active and bound has its lease asked for. -/
theorem accepted_of_bound {store : RenewalStore} {operation : CommercialLeaseOperation} (formed : Formed store)
    (member : operation ∈ store.licensing.leaseOperations) (bound : StillBound host store operation) :
    Exists fun issue => IssueOf host operation issue ∧
      recoveryIssue host (recoveryCandidate store operation) = some issue := by
  rcases formed.licenses operation member with ⟨license, inLicenses, isLicense⟩
  have found : store.licensing.licenses.lookup (.id operation.licenseId) = some license := by
    apply store.licensing.licenses.lookup_of_mem inLicenses
    rw [← isLicense]
    exact List.mem_cons_self
  rcases Option.ne_none_iff_exists'.mp (formed.keys license inLicenses) with ⟨keyCiphertext, hasKey⟩
  have activation : (activeDeviceHashes store.licensing operation.licenseId).find?
      (fun candidate => candidate = recordedDeviceHash operation) = some (recordedDeviceHash operation) := by
    cases isFound : (activeDeviceHashes store.licensing operation.licenseId).find?
        (fun candidate => candidate = recordedDeviceHash operation) with
    | none => exact absurd (decide_eq_true rfl) (List.find?_eq_none.mp isFound _ bound.active)
    | some candidate =>
      have isCandidate : candidate = recordedDeviceHash operation := by
        simpa using List.find?_some isFound
      rw [isCandidate]
  rcases bound.bound with ⟨lease, inLeases, ofLicense, isActive, isDevice⟩
  cases isBinding : (leaseHistory operation.licenseId store.leases).find?
      (fun candidate => host.sha256 candidate.deviceId = recordedDeviceHash operation) with
  | none =>
    have unbound := List.find?_eq_none.mp isBinding _ (mem_leaseHistory inLeases ofLicense isActive)
    exact absurd (decide_eq_true isDevice) unbound
  | some binding =>
    have binds : host.sha256 binding.deviceId = recordedDeviceHash operation := by
      simpa using List.find?_some isBinding
    refine ⟨⟨host.decryptLicenseKey keyCiphertext, binding.installationId, binding.deviceId,
      operation.operationId, binding.version⟩, ⟨rfl, binds⟩, ?_⟩
    simp only [recoveryIssue, recoveryCandidate, readLicense, found, Option.map_some, Option.bind_some,
      renewalIssue, activation, isBinding, hasKey]

/-! ## The turns of a recovery -/

theorem advance_recovering {candidate : RecoveryCandidate} {rest : List RecoveryCandidate}
    (here : crowd.processes process = some (.recovering (candidate :: rest))) (draw : RenewalDraw) :
    ((renewalProtocol host).machine.attempt crowd (.advance process draw)).processes process =
      some (.recovering rest) := by
  have turned : (renewalStep host crowd.store draw (.recovering (candidate :: rest))).2 =
      some (.recovering rest) := by
    simp only [renewalStep]
    split
    · rfl
    · split
      · rfl
      · rfl
  have stepped : renewalStep host crowd.store draw (.recovering (candidate :: rest)) =
      ((renewalStep host crowd.store draw (.recovering (candidate :: rest))).1, some (.recovering rest)) :=
    Prod.ext rfl turned
  rw [Protocol.attempt_advance here (congrArg Except.ok stepped)]
  exact Function.update_self process _ crowd.processes

/-- A recovery that is not stopped has its turns one after another. -/
theorem recovering_run {candidates : List RecoveryCandidate} (moves : List RenewalMove)
    (here : crowd.processes process = some (.recovering candidates))
    (going : forall move, move ∈ moves -> move ≠ .stop process)
    (within : advances process moves ≤ candidates.length) :
    ((renewalProtocol host).machine.run crowd moves).processes process =
      some (.recovering (candidates.drop (advances process moves))) := by
  induction moves generalizing crowd candidates with
  | nil => exact here
  | cons move rest inductionHypothesis =>
    have goingOn : forall other, other ∈ rest -> other ≠ .stop process :=
      fun other member => going other (List.mem_cons_of_mem move member)
    have waits : advances process (move :: rest) = advances process rest ->
        (forall draw, move ≠ .advance process draw) ->
        ((renewalProtocol host).machine.run crowd (move :: rest)).processes process =
          some (.recovering (candidates.drop (advances process (move :: rest)))) := by
      intro same notAdvanced
      have stays : ((renewalProtocol host).machine.attempt crowd move).processes process =
          some (.recovering candidates) :=
        Protocol.attempt_elsewhere here notAdvanced (going move List.mem_cons_self)
      rw [same] at within ⊢
      exact inductionHypothesis stays goingOn within
    cases move with
    | start other call => exact waits rfl (by rintro _ ⟨⟩)
    | stop other => exact waits rfl (by rintro _ ⟨⟩)
    | ambient event => exact waits rfl (by rintro _ ⟨⟩)
    | advance other draw =>
      by_cases isOther : other = process
      · subst isOther
        have more : advances other (.advance other draw :: rest) = advances other rest + 1 := by
          simp only [advances, List.countP_cons, decide_true, if_true]
        cases candidates with
        | nil =>
          rw [more] at within
          cases within
        | cons candidate tail =>
          rw [more] at within ⊢
          have turned : ((renewalProtocol host).machine.attempt crowd (.advance other draw)).processes other =
              some (.recovering tail) := advance_recovering here draw
          exact inductionHypothesis turned goingOn (Nat.le_of_succ_le_succ within)
      · apply waits
        · simp only [advances, List.countP_cons, isOther, decide_false, Bool.false_eq_true, if_false,
            Nat.add_zero]
        · rintro _ ⟨⟩
          exact isOther rfl

/-! ## Whole runs -/

section Runs

variable (host) (start) (lawful : host.package.Lawful) (issues : IssuesRenewals host.issuer)
variable (encrypts : forall key, host.environment.encryptLicenseKey key ≠ "") (formed : Formed start)

include lawful issues encrypts

theorem renewalRun_move (past : List RenewalMove) (move : RenewalMove) :
    Quiet (renewalRun host start past).store (renewalRun host start (past ++ [move])).store ∨
      Exists fun process => Exists fun draw => Exists fun order => Exists fun evidence =>
        move = .advance process draw ∧
        (renewalRun host start past).processes process = some (.paying order.id evidence) ∧
        Paid host order (renewalRun host start past).store (renewalRun host start (past ++ [move])).store := by
  have isNext : renewalRun host start (past ++ [move]) =
      (renewalProtocol host).machine.attempt (renewalRun host start past) move :=
    (renewalProtocol host).machine.run_concat (Crowd.opening start) past move
  rw [isNext]
  apply Machine.attempt_elim (motive := fun next : Crowd RenewalStore RenewalPoint =>
    Quiet (renewalRun host start past).store next.store ∨
      Exists fun process => Exists fun draw => Exists fun order => Exists fun evidence =>
        move = .advance process draw ∧
        (renewalRun host start past).processes process = some (.paying order.id evidence) ∧
        Paid host order (renewalRun host start past).store next.store)
  · exact Or.inl (quiet_refl _)
  · intro next accepted
    exact renewal_move lawful issues encrypts accepted

theorem renewalRun_continues (past rest : List RenewalMove) :
    Continues (renewalRun host start past).store (renewalRun host start (past ++ rest)).store := by
  have isRun : renewalRun host start (past ++ rest) =
      (renewalProtocol host).machine.run (renewalRun host start past) rest :=
    (renewalProtocol host).machine.run_append (Crowd.opening start) past rest
  rw [isRun]
  exact continues_run lawful issues encrypts _ rest

include formed

theorem renewalRun_holds (moves : List RenewalMove) :
    Protocol.Holds Formed (fun store _ point => Pending store point) (renewalRun host start moves) :=
  (renewals_outlined lawful issues encrypts).run (Protocol.holds_opening formed)
    (Machine.admits_all (fun _ _ => trivial) _ _)

theorem recovered_of_reaches {past between : List RenewalMove} {selection draw : RenewalDraw}
    {operation : CommercialLeaseOperation}
    (reaches : Reaches host start past between process selection draw operation)
    (bound : StillBound host (renewalRun host start past).store operation) :
    Exists fun issue => IssueOf host operation issue ∧
      (renewalRun host start (past ++ .advance process selection :: between ++ [.advance process draw])).store =
        (host.issuer.issue issue draw.drawn
          (renewalRun host start (past ++ .advance process selection :: between)).store).1 := by
  let selected := renewalRun host start past
  have member : operation ∈ selected.store.licensing.leaseOperations :=
    (selected.store.licensing.leaseOperations.mem_select.mp (List.mem_of_getElem? reaches.operation)).1
  rcases accepted_of_bound (renewalRun_holds host start lawful issues encrypts formed past).store member bound with
    ⟨issue, isIssue, asked⟩
  refine ⟨issue, isIssue, ?_⟩
  have asks : recoveryIssue host (recoveryCandidate selected.store operation) = some issue := asked
  have candidate : (recoveryCandidates selected.store)[advances process between]? =
      some (recoveryCandidate selected.store operation) := by
    rw [recoveryCandidates, List.getElem?_map, List.getElem?_take_of_lt reaches.window, reaches.operation]
    rfl
  rcases List.getElem?_eq_some_iff.mp candidate with ⟨inRange, isCandidate⟩
  have opened : ((renewalProtocol host).machine.attempt selected (.advance process selection)).processes process =
      some (.recovering (recoveryCandidates selected.store)) := by
    have stepped : renewalStep host selected.store selection (.selecting false) =
        (selected.store, some (.recovering (recoveryCandidates selected.store))) := by
      simp only [renewalStep, reaches.selected, Bool.or_self, Bool.false_eq_true, if_false]
    rw [Protocol.attempt_advance reaches.selecting (congrArg Except.ok stepped)]
    exact Function.update_self process _ selected.processes
  have isCrowd : renewalRun host start (past ++ .advance process selection :: between) =
      (renewalProtocol host).machine.run
        ((renewalProtocol host).machine.attempt selected (.advance process selection)) between :=
    (renewalProtocol host).machine.run_append (Crowd.opening start) past _
  have here : (renewalRun host start (past ++ .advance process selection :: between)).processes process =
      some (.recovering ((recoveryCandidates selected.store).drop (advances process between))) := by
    rw [isCrowd]
    exact recovering_run between opened reaches.going (Nat.le_of_lt inRange)
  rw [List.drop_eq_getElem_cons inRange, isCandidate] at here
  have issued : renewalStep host (renewalRun host start (past ++ .advance process selection :: between)).store draw
      (.recovering (recoveryCandidate selected.store operation ::
        (recoveryCandidates selected.store).drop (advances process between + 1))) =
      ((host.issuer.issue issue draw.drawn
        (renewalRun host start (past ++ .advance process selection :: between)).store).1,
        some (.recovering ((recoveryCandidates selected.store).drop (advances process between + 1)))) := by
    simp only [renewalStep, asks, reaches.goes, Bool.false_eq_true, if_false]
  have isNext : renewalRun host start (past ++ .advance process selection :: between ++ [.advance process draw]) =
      (renewalProtocol host).machine.attempt
        (renewalRun host start (past ++ .advance process selection :: between)) (.advance process draw) :=
    (renewalProtocol host).machine.run_concat (Crowd.opening start) _ _
  rw [isNext, Protocol.attempt_advance here (congrArg Except.ok issued)]
  rfl

end Runs

/-! ## A renewal that is recovered -/

namespace RenewingIssuer

def successorLease (request : RenewalIssue) (licenseId leaseId : String) (named : leaseId ≠ "")
    (issuedBefore : Nat) : LicenseLeaseRecord :=
  { licenseId
    leaseId
    generation := issuedBefore + 1
    serverRevision := issuedBefore + 1
    installationId := request.installationId
    deviceId := request.deviceId
    version := request.productVersion
    status := "ACTIVE"
    action := "RENEWAL"
    operationId := none
    named }

/-- The successor of the leases of the installation, and its operation. -/
def recordLease (request : RenewalIssue) (leaseId : String) (licenseId : Id) (store : RenewalStore) :
    Option RenewalStore :=
  if named : leaseId ≠ "" then
    let leases := store.leases.update
      (fun lease => lease.licenseId = licenseId && lease.installationId = request.installationId)
      fun lease => { lease with status := "SUPERSEDED" }
    let issuedBefore := (store.leases.select fun lease => lease.licenseId = licenseId).length
    (leases.insert (successorLease request licenseId leaseId named issuedBefore)).map fun leases =>
      { store with
        leases
        licensing := { store.licensing with
          leaseOperations := store.licensing.leaseOperations.update
            (fun operation => operation.operationId = request.operationId)
            fun operation => { operation with status := .completed, completedAt := some 0 } } }
  else none

def issue (request : RenewalIssue) (leaseId : String) (store : RenewalStore) : RenewalStore × Bool :=
  match store.licensing.leaseOperations.lookup (.operationId request.operationId) with
  | none => (store, true)
  | some operation =>
    if operation.status = .completed then (store, false)
    else
      match recordLease request leaseId operation.licenseId store with
      | none => (store, true)
      | some after => (after, false)

def issuer : RenewalIssuer := ⟨issue⟩

/-- A lease is recorded, or nothing changes. -/
theorem issue_write (request : RenewalIssue) (leaseId : String) (store : RenewalStore) :
    (issue request leaseId store).1 = store ∨
      Exists fun licenseId => recordLease request leaseId licenseId store =
        some (issue request leaseId store).1 := by
  unfold issue
  split
  · exact Or.inl rfl
  · rename_i operation _
    split
    · exact Or.inl rfl
    · split
      · exact Or.inl rfl
      · rename_i after recorded
        exact Or.inr ⟨operation.licenseId, recorded⟩

theorem recordLease_some {request : RenewalIssue} {leaseId : String} {licenseId : Id}
    (recorded : recordLease request leaseId licenseId before = some after) :
    after.licensing.leaseOperations.rows =
        before.licensing.leaseOperations.rows.map (completeOperation request.operationId 0) ∧
      after.licensing.licenses = before.licensing.licenses ∧
      after.licensing.subscriptions = before.licensing.subscriptions ∧ after.settled = before.settled := by
  unfold recordLease at recorded
  split at recorded
  · rcases Option.map_eq_some_iff.mp recorded with ⟨leases, _, rfl⟩
    exact ⟨before.licensing.leaseOperations.rows_update, rfl, rfl, rfl⟩
  · cases recorded

theorem issuesRenewals : IssuesRenewals issuer where
  idempotent request drawn store operation member isOperation completed := by
    have found : store.licensing.leaseOperations.lookup (.operationId request.operationId) = some operation := by
      apply Table.lookup_of_mem _ member
      rw [← isOperation]
      exact List.mem_singleton_self _
    simp only [issuer, issue, found, completed, if_true]
  operations request drawn store := by
    rcases issue_write request drawn store with same | ⟨licenseId, recorded⟩
    · exact Or.inl (congrArg (fun store : RenewalStore => store.licensing.leaseOperations) same)
    · exact Or.inr ⟨0, (recordLease_some recorded).1⟩
  frame request drawn store := by
    rcases issue_write request drawn store with same | ⟨licenseId, recorded⟩
    · have unchanged : (issuer.issue request drawn store).1 = store := same
      rw [unchanged]
      exact ⟨rfl, rfl, rfl⟩
    · exact (recordLease_some recorded).2

end RenewingIssuer

def renewalHost : RenewalHost where
  package := Reference.licensing
  environment := Reference.environment
  commerce := subscriptionShop
  sha256 text := "hash:" ++ text
  decryptLicenseKey text := text
  issuer := RenewingIssuer.issuer

def emptyRenewals : RenewalStore := ⟨⟨∅, ∅, ∅, ∅⟩, ∅, []⟩

theorem formed_emptyRenewals : Formed emptyRenewals where
  orders operation member := absurd member (Table.not_mem_empty operation)
  devices operation member := absurd member (Table.not_mem_empty operation)
  licenses operation member := absurd member (Table.not_mem_empty operation)
  keys license member := absurd member (Table.not_mem_empty license)

theorem environment_encrypts (key : String) : Reference.environment.encryptLicenseKey key ≠ "" := by
  intro empty
  have lengths := congrArg String.length empty
  simp [Reference.environment] at lengths

theorem renewedLaptop_named : "lease" ≠ "" := by decide

def renewedLaptop : LicenseLeaseRecord :=
  { licenseId := "license:item:s"
    leaseId := "lease"
    generation := 1
    serverRevision := 1
    installationId := "installation"
    deviceId := "laptop"
    version := "1.0.0"
    status := "ACTIVE"
    action := "ACTIVATION"
    operationId := none
    named := renewedLaptop_named }

def laptopDevices : Table DeviceActivation :=
  ⟨[⟨"activation", "license:item:s", "hash:laptop", true, none⟩], List.pairwise_singleton _ _⟩

def laptopLeases : Table LicenseLeaseRecord := ⟨[renewedLaptop], List.pairwise_singleton _ _⟩

def renewalDraw (now : Time) (drawn : String) : RenewalDraw := ⟨Reference.moment "renewal" now, drawn, false⟩

/-- A renewal whose process is stopped after the payment, a recovery, and the
payment again. -/
def stoppedAndRecovered : List RenewalMove :=
  [.start 0 (.payment "order:s" ⟨none, none⟩), .advance 0 (renewalDraw 0 ""), .advance 0 (renewalDraw 0 ""),
    .ambient (.devices laptopDevices), .ambient (.leases laptopLeases),
    .start 0 (.payment "order:r" ⟨none, none⟩), .advance 0 (renewalDraw 1 ""), .stop 0,
    .start 1 (.recovery false), .advance 1 (renewalDraw 2 ""), .advance 1 (renewalDraw 2 "renewed"),
    .start 2 (.payment "order:r" ⟨none, none⟩), .advance 2 (renewalDraw 3 ""), .advance 2 (renewalDraw 3 "")]

end Storefront
end DigitalSolutions

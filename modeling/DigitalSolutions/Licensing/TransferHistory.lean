import DigitalSolutions.Licensing.RecordingIssuer
import DigitalSolutions.Licensing.TransferRecovery

namespace DigitalSolutions
namespace Licensing

open Foundation Persistence

/-!
# Transfers happen once

The id of an operation names the target of a transfer and nothing else, and
the last transaction does not look at the status of the operation.  A
transfer happens once as long as no last transaction runs for an operation
that has moved the licence before.
-/

variable {host : TransferHost} {before after start : TransferStore}
variable {crowd next : Crowd TransferStore TransferPoint}

abbrev TransferMove : Type := CrowdMove TransferInput TransferDraw Empty

def transferRun (host : TransferHost) (start : TransferStore) (moves : List TransferMove) :
    Crowd TransferStore TransferPoint :=
  (transferProtocol host).machine.run (Crowd.opening start) moves

/-- What the request at this point asks for. -/
def TransferPoint.input : TransferPoint -> TransferInput
  | .reading input => input
  | .policing input _ _ => input
  | .finding input _ _ _ => input
  | .sourcing input _ _ _ _ => input
  | .creating input _ _ _ _ => input
  | .issuing input _ _ _ => input
  | .finalizing input _ => input

/-- The operation has moved the licence. -/
def Moved (store : TransferStore) (operationId : String) : Prop :=
  Exists fun event => event ∈ store.events ∧ event.operationId = operationId

structure SameRights (before after : TransferStore) : Prop where
  licenses : after.licenses = before.licenses
  devices : after.devices = before.devices
  events : after.events = before.events

theorem SameRights.refl (store : TransferStore) : SameRights store store := ⟨rfl, rfl, rfl⟩

/-- A licence has come to its account by one new event, with a lease that was
issued for the operation and that no earlier move came with. -/
structure MovedWithLease (before after : TransferStore) (later : License) (event : TransferredEvent) : Prop where
  events : after.events = before.events ++ [event]
  license : event.licenseId = later.id
  account : event.toAccountId = later.accountId
  lease : Exists fun lease => lease ∈ after.leases ∧ lease.leaseId = event.leaseId ∧
    lease.operationId = some event.operationId
  new : forall earlier, earlier ∈ before.events -> earlier.leaseId ≠ event.leaseId

structure TransfersKept (host : TransferHost) (start : TransferStore) (moves : List TransferMove) : Prop where
  once : ((transferRun host start moves).store.events.map TransferredEvent.operationId).Nodup
  /-- Nothing that a request does after its transfer has been carried out shows. -/
  repeated : forall past process draw rest, moves = past ++ .advance process draw :: rest ->
    forall point, (transferRun host start past).processes process = some point ->
    Moved (transferRun host start past).store point.input.operationId ->
    SameRights (transferRun host start past).store
      (transferRun host start (past ++ [.advance process draw])).store
  moved : forall past move rest, moves = past ++ move :: rest ->
    forall license, license ∈ (transferRun host start past).store.licenses ->
    forall later, later ∈ (transferRun host start (past ++ [move])).store.licenses -> later.id = license.id ->
    later.accountId ≠ license.accountId -> Exists fun event =>
      MovedWithLease (transferRun host start past).store (transferRun host start (past ++ [move])).store later event
  /-- The same request, made again, carries an interrupted transfer out. -/
  recovers : forall input process, Interrupted (transferRun host start moves).store input ->
    ¬ Moved (transferRun host start moves).store input.operationId ->
    Issuable host (transferRun host start moves).store input ->
    input.accountId ∈ (transferRun host start moves).store.accountIds ->
    (transferRun host start moves).processes process = none ->
    Exists fun draws : List TransferDraw =>
      Carried input (transferRun host start (moves ++ .start process input :: draws.map (.advance process))).store

/-- A last transaction runs for an operation that has not moved the licence. -/
def Unmoved (crowd : Crowd TransferStore TransferPoint) : TransferMove -> Prop
  | .advance process draw =>
    match crowd.processes process with
    | some (.finalizing input _) => draw.throws = false -> ¬ Moved crowd.store input.operationId
    | _ => True
  | _ => True

/-! ## One move -/

/-- What a move does to licences and events. -/
inductive MoveWrite (host : TransferHost) (before after : TransferStore) : Prop
  | kept (licenses : after.licenses = before.licenses) (events : after.events = before.events)
  | moved {input : TransferInput} {fromAccountId : Id} {leaseId : String} {now : Time}
      (movable : Movable before input leaseId) (unmoved : ¬ Moved before input.operationId)
      (same : after = moveLicense host input fromAccountId leaseId now before)

theorem move_write (issues : IssuesLeases host.issuer) {move : TransferMove} (unmoved : Unmoved crowd move)
    (accepted : (transferProtocol host).machine.step crowd move = .ok next) :
    MoveWrite host crowd.store next.store := by
  rcases transfer_throwing.store accepted with same | ⟨process, draw, point, rfl, here, quiet, isNext⟩ |
    ⟨event, _, _⟩
  · exact .kept (congrArg TransferStore.licenses same) (congrArg TransferStore.events same)
  · have write : TransferWrite host crowd.store next.store point := by
      rw [isNext]
      exact transferStep_write crowd.store draw point
    cases write with
    | kept same => exact .kept (congrArg TransferStore.licenses same) (congrArg TransferStore.events same)
    | created inserted same =>
      rw [same]
      exact .kept rfl rfl
    | @issued input current keyCiphertext source drawn same =>
      have frame := issues.frame (leaseRequest host input keyCiphertext source) drawn crowd.store
      rw [← same] at frame
      exact .kept frame.1 frame.2.1
    | moved movable same =>
      simp only [Unmoved, here] at unmoved
      exact .moved movable (unmoved quiet) same
  · cases event

theorem once_write (write : MoveWrite host before after)
    (once : (before.events.map TransferredEvent.operationId).Nodup) :
    (after.events.map TransferredEvent.operationId).Nodup := by
  cases write with
  | kept licenses events =>
    rw [events]
    exact once
  | @moved input fromAccountId leaseId now movable unmoved same =>
    subst same
    have events : (moveLicense host input fromAccountId leaseId now before).events =
        before.events ++ [transferredEvent input fromAccountId leaseId] := rfl
    rw [events, List.map_append, List.map_singleton, List.nodup_append]
    refine ⟨once, List.nodup_singleton _, ?_⟩
    intro operationId old another isNew
    rw [List.mem_singleton] at isNew
    subst isNew
    rintro rfl
    rcases List.mem_map.mp old with ⟨event, member, isOperation⟩
    exact unmoved ⟨event, member, isOperation⟩

theorem license_of_id {licenses : Table License} {left right : License} (leftMember : left ∈ licenses)
    (rightMember : right ∈ licenses) (same : left.id = right.id) : left = right := by
  have occupied : License.Key.id left.id ∈ Keyed.keys right := by
    rw [same]
    exact List.mem_cons_self
  exact licenses.eq_of_common_key leftMember rightMember List.mem_cons_self occupied

theorem moved_write (sound : Sound before) (write : MoveWrite host before after) {license later : License}
    (member : license ∈ before.licenses) (laterMember : later ∈ after.licenses) (same : later.id = license.id)
    (changed : later.accountId ≠ license.accountId) :
    Exists fun event => MovedWithLease before after later event := by
  cases write with
  | kept licenses events =>
    rw [licenses] at laterMember
    rw [license_of_id laterMember member same] at changed
    exact absurd rfl changed
  | @moved input fromAccountId leaseId now movable unmoved isAfter =>
    have rows : (moveLicense host input fromAccountId leaseId now before).licenses.rows =
        before.licenses.rows.map fun license =>
          if license.id = input.id then { license with accountId := input.accountId } else license :=
      licenses_moveLicense input fromAccountId leaseId now before
    rcases movable.operation with ⟨operation, operationMember, isOperation, isResult⟩
    subst isAfter
    rcases (Table.mem_of_rows rows).mp laterMember with ⟨old, oldMember, isLater⟩
    split at isLater
    · rename_i isLicense
      subst isLater
      refine ⟨transferredEvent input fromAccountId leaseId, rfl, isLicense.symm, rfl, ?_, ?_⟩
      · rcases sound.leased operation operationMember ⟨input, isOperation⟩ leaseId isResult with
          ⟨lease, leaseMember, isLease, isFor⟩
        exact ⟨lease, leaseMember, isLease, isFor.trans (congrArg some isOperation)⟩
      · intro earlier earlierMember sameLease
        rcases sound.results earlier earlierMember with ⟨other, otherMember, isOther, otherResult⟩
        rw [sameLease] at otherResult
        have isSame := operation_of_lease otherMember operationMember otherResult isResult
        exact unmoved ⟨earlier, earlierMember, isOther.symm.trans (isSame ▸ isOperation)⟩
    · subst isLater
      rw [license_of_id oldMember member same] at changed
      exact absurd rfl changed

/-- A request whose transfer has been carried out. -/
theorem repeated_step (issues : IssuesLeases host.issuer) (sound : Sound crowd.store) {process : Nat}
    {draw : TransferDraw} {point : TransferPoint} (here : crowd.processes process = some point)
    (isMoved : Moved crowd.store point.input.operationId) (unmoved : Unmoved crowd (.advance process draw))
    (accepted : (transferProtocol host).machine.step crowd (.advance process draw) = .ok next) :
    SameRights crowd.store next.store := by
  rcases isMoved with ⟨event, member, isEvent⟩
  rcases sound.results event member with ⟨operation, operationMember, isOperation, isResult⟩
  rw [isEvent] at isOperation
  rcases transfer_throwing.store accepted with same | ⟨other, draw', point', isAdvance, here', quiet, isNext⟩ |
    ⟨event, _, _⟩
  · rw [same]
    exact SameRights.refl crowd.store
  · cases isAdvance
    have isPoint : point' = point := Option.some.inj (here'.symm.trans here)
    subst isPoint
    have write : TransferWrite host crowd.store next.store point' := by
      rw [isNext]
      exact transferStep_write crowd.store draw point'
    cases write with
    | kept same =>
      rw [same]
      exact SameRights.refl crowd.store
    | created inserted same =>
      rw [same]
      exact ⟨rfl, rfl, rfl⟩
    | @issued input current keyCiphertext source drawn same =>
      have hasResult : operation.resultLeaseId ≠ none := by
        rw [isResult]
        exact Option.some_ne_none _
      have unchanged := issues.idempotent (leaseRequest host input keyCiphertext source) drawn crowd.store
        operation operationMember isOperation hasResult
      rw [same, unchanged]
      exact SameRights.refl crowd.store
    | moved movable same =>
      simp only [Unmoved, here] at unmoved
      exact absurd ⟨event, member, isEvent⟩ (unmoved quiet)
  · cases event

/-! ## Every run -/

theorem sound_run (issues : IssuesLeases host.issuer) (untouched : Untouched start) (moves : List TransferMove) :
    Sound (transferRun host start moves).store := by
  have holds := (transfers_outlined issues).run (Protocol.holds_opening untouched.sound)
    (Machine.admits_all (fun _ _ => trivial) _ moves)
  exact holds.store

def plainHost : TransferHost := ⟨("hash:" ++ ·), (·), RecordingIssuer.issuer⟩

def ownedLicense : License :=
  { id := "license"
    publicId := "public"
    keyHash := "hash"
    keyLastFour := "0000"
    keyCiphertext := some "sealed"
    accountId := "first"
    orderId := "order"
    orderItemId := "item"
    productId := "product"
    editionId := none
    purchasePlanId := none
    subscriptionId := none
    status := .active
    maxSeats := 1
    maxDevicesPerSeat := 1
    expiresAt := none
    createdAt := 0 }

def activationLease : LicenseLeaseRecord :=
  { licenseId := "license"
    leaseId := "lease"
    generation := 1
    serverRevision := 1
    installationId := "installation"
    deviceId := "device"
    version := "1.0.0"
    status := "ACTIVE"
    action := "ACTIVATION"
    operationId := none
    named := by decide }

/-- A licence of the first account, under a policy that lets it be transferred. -/
def ownedByFirst : TransferStore :=
  { licenses := ⟨[ownedLicense], List.pairwise_singleton _ _⟩
    operations := ∅
    leases := ⟨[activationLease], List.pairwise_singleton _ _⟩
    devices := ⟨[⟨"activation", "license", "hash:device", true, none⟩], List.pairwise_singleton _ _⟩
    events := []
    policyIds := [("item", "policy")]
    policies := [⟨"policy", true⟩]
    accountIds := ["first", "second", "third"] }

theorem untouched_ownedByFirst : Untouched ownedByFirst where
  operations operation member := absurd member (Table.not_mem_empty operation)
  events := rfl

def transferTo (accountId : Id) : TransferInput := ⟨"license", accountId, "installation", "device", "admin"⟩

/-- Several accesses of a process one after another. -/
def accesses (count process : Nat) (now : Time) (fresh drawn : String) : List TransferMove :=
  List.replicate count (.advance process ⟨now, fresh, drawn, false⟩)

def secondThenThird : List TransferMove :=
  .start 0 (transferTo "second") :: accesses 7 0 1 "operation-2" "lease-2" ++
    .start 0 (transferTo "third") :: accesses 7 0 2 "operation-3" "lease-3"

/-- `Unmoved`, as a check. -/
def unmoved (crowd : Crowd TransferStore TransferPoint) : TransferMove -> Bool
  | .advance process draw =>
    match crowd.processes process with
    | some (.finalizing input _) => draw.throws ||
        crowd.store.events.all fun event => !decide (event.operationId = input.operationId)
    | _ => true
  | _ => true

theorem unmoved_spec {move : TransferMove} (checked : unmoved crowd move = true) : Unmoved crowd move := by
  cases move with
  | start process call => trivial
  | stop process => trivial
  | ambient event => trivial
  | advance process draw =>
    simp only [unmoved] at checked
    simp only [Unmoved]
    split
    · rename_i here
      simp only [here, Bool.or_eq_true, List.all_eq_true, Bool.not_eq_true', decide_eq_false_iff_not] at checked
      intro quiet
      rintro ⟨event, member, isOperation⟩
      rcases checked with throws | others
      · rw [quiet] at throws
        cases throws
      · exact others event member isOperation
    · trivial

/-- A transfer stops after its lease has been issued, is carried out by another
request for it, and the licence is transferred on. -/
def stoppedAndRepeated : List TransferMove :=
  .start 0 (transferTo "second") :: accesses 6 0 1 "operation-2" "lease-2" ++
    .stop 0 :: .start 1 (transferTo "second") :: accesses 5 1 2 "" "" ++
    .start 0 (transferTo "third") :: accesses 7 0 3 "operation-3" "lease-3"

end Licensing
end DigitalSolutions

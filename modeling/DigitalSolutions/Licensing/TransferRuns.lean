import DigitalSolutions.Licensing.TransferEffects

namespace DigitalSolutions
namespace Licensing

open Foundation Persistence

/-!
# What holds of transfers throughout

An operation names a transfer that the route has found permissible, its lease
was issued for it, and each move has its operation.
-/

variable {host : TransferHost} {before after store : TransferStore}
variable {point : TransferPoint}

/-! ## What the route has found -/

/-- The licence is active and has a key. -/
def Owned (store : TransferStore) (licenseId orderItemId : Id) : Prop :=
  Exists fun license => license ∈ store.licenses ∧ license.id = licenseId ∧ license.status = .active ∧
    present license.keyCiphertext ≠ none ∧ license.orderItemId = orderItemId

def Permitted (store : TransferStore) (orderItemId policyId : Id) : Prop :=
  (Exists fun entry => store.policyIds.find? (fun entry => entry.1 = orderItemId) = some entry ∧
    entry.2 = policyId) ∧
  Exists fun policy => store.policies.find? (fun policy => policy.id = policyId) = some policy ∧
    policy.transferable = true

def HasSource (store : TransferStore) (source : LicenseLeaseRecord) : Prop :=
  source.version ≠ "" ∧ Exists fun lease => lease ∈ store.leases ∧ SameLease source lease

/-- The operation of a transfer as the route prepares it. -/
def Prepared (store : TransferStore) (operation : LeaseOperationRow) : Prop :=
  Exists fun input => Exists fun current => Exists fun policyId => Exists fun source =>
    operation.operationId = input.operationId ∧ operation.licenseId = some input.id ∧
    operation.metadata = transferMetadata input current policyId source none ∧
    Owned store input.id current.orderItemId ∧ Permitted store current.orderItemId policyId ∧
    HasSource store source

theorem Owned.develops {licenseId orderItemId : Id} (owned : Owned before licenseId orderItemId)
    (develops : Develops before after) : Owned after licenseId orderItemId := by
  rcases owned with ⟨license, member, isLicense, isActive, hasKey, isItem⟩
  rcases develops.licenses license member with ⟨later, laterMember, same⟩
  refine ⟨later, laterMember, same.id.trans isLicense, same.status.trans isActive, ?_,
    same.orderItemId.trans isItem⟩
  rw [same.keyCiphertext]
  exact hasKey

theorem Permitted.develops {orderItemId policyId : Id} (permitted : Permitted before orderItemId policyId)
    (develops : Develops before after) : Permitted after orderItemId policyId := by
  rw [Permitted, develops.policyIds, develops.policies]
  exact permitted

theorem HasSource.develops {source : LicenseLeaseRecord} (hasSource : HasSource before source)
    (develops : Develops before after) : HasSource after source := by
  rcases hasSource with ⟨version, lease, member, same⟩
  rcases develops.leases lease member with ⟨later, laterMember, toLater⟩
  exact ⟨version, later, laterMember, toLater.1.trans same.1, toLater.2.1.trans same.2.1,
    toLater.2.2.1.trans same.2.2.1, toLater.2.2.2.1.trans same.2.2.2.1,
    toLater.2.2.2.2.1.trans same.2.2.2.2.1, toLater.2.2.2.2.2.trans same.2.2.2.2.2⟩

theorem Prepared.develops {old new : LeaseOperationRow} (prepared : Prepared before old)
    (same : SameOperation old new) (develops : Develops before after) : Prepared after new := by
  rcases prepared with ⟨input, current, policyId, source, isOperation, isLicense, metadata, owned, permitted,
    hasSource⟩
  exact ⟨input, current, policyId, source, same.2.1.trans isOperation, same.2.2.1.trans isLicense,
    same.2.2.2.2.trans metadata, owned.develops develops, permitted.develops develops,
    hasSource.develops develops⟩

/-- What a request has found so far. -/
def Placed (store : TransferStore) : TransferPoint -> Prop
  | .policing input current _ => Owned store input.id current.orderItemId
  | .finding input current _ policyId =>
    Owned store input.id current.orderItemId ∧ Permitted store current.orderItemId policyId
  | .sourcing input current _ policyId _ =>
    Owned store input.id current.orderItemId ∧ Permitted store current.orderItemId policyId
  | .creating input current _ metadata source => Exists fun policyId =>
    Owned store input.id current.orderItemId ∧ Permitted store current.orderItemId policyId ∧
      HasSource store source ∧ metadata = transferMetadata input current policyId source none
  | _ => True

theorem Placed.develops (placed : Placed before point) (develops : Develops before after) :
    Placed after point := by
  cases point with
  | policing input current keyCiphertext => exact Owned.develops placed develops
  | finding input current keyCiphertext policyId =>
    exact ⟨placed.1.develops develops, placed.2.develops develops⟩
  | sourcing input current keyCiphertext policyId existing =>
    exact ⟨placed.1.develops develops, placed.2.develops develops⟩
  | creating input current keyCiphertext metadata source =>
    rcases placed with ⟨policyId, owned, permitted, hasSource, isMetadata⟩
    exact ⟨policyId, owned.develops develops, permitted.develops develops, hasSource.develops develops, isMetadata⟩
  | _ => trivial

theorem currentLease_mem {licenseId : Id} {lease : LicenseLeaseRecord}
    (isCurrent : currentLease licenseId store = some lease) : lease ∈ store.leases := by
  have inSorted := List.mem_of_mem_head? isCurrent
  rw [List.mem_mergeSort] at inSorted
  exact (store.leases.mem_select.mp inSorted).1

theorem sourceLease_some {licenseId : Id} {existing : Option LeaseOperationRow} {source : LicenseLeaseRecord}
    (isSource : sourceLease licenseId existing store = some source) : HasSource store source := by
  unfold sourceLease at isSource
  rcases Option.filter_eq_some_iff.mp isSource with ⟨found, version⟩
  refine ⟨of_decide_eq_true version, source, ?_, sameLease_refl source⟩
  cases existing with
  | none => exact currentLease_mem found
  | some operation =>
    rcases Option.bind_eq_some_iff.mp found with ⟨leaseId, _, isLease⟩
    exact store.leases.lookup_mem isLease

/-- Where an access that is no write takes a request. -/
theorem placed_next {draw : TransferDraw} {next : TransferPoint} (placed : Placed store point)
    (isNext : (transferStep host store draw point).2 = some next) :
    Placed (transferStep host store draw point).1 next := by
  have prepared : forall (input : TransferInput) current keyCiphertext source status (any : TransferStore),
      Placed any (preparedPoint input current keyCiphertext source status) := by
    intro input current keyCiphertext source status any
    unfold preparedPoint
    split
    · trivial
    · trivial
  cases point with
  | reading input =>
    simp only [transferStep] at isNext ⊢
    split at isNext
    · cases isNext
    · rename_i current found
      split at isNext
      · rename_i keyCiphertext isActive hasKey
        cases isNext
        have occupied := store.licenses.lookup_key found
        simp only [Keyed.keys, List.mem_cons, List.not_mem_nil, or_false, reduceCtorEq,
          License.Key.id.injEq] at occupied
        refine ⟨current, store.licenses.lookup_mem found, occupied.symm, isActive, ?_, rfl⟩
        rw [hasKey]
        exact Option.some_ne_none keyCiphertext
      · cases isNext
  | policing input current keyCiphertext =>
    simp only [transferStep] at isNext ⊢
    split at isNext
    · cases isNext
    · rename_i orderItemId policyId foundItem
      split at isNext
      · cases isNext
      · rename_i policy foundPolicy
        split at isNext
        · rename_i transferable
          cases isNext
          exact ⟨placed, ⟨_, foundItem, rfl⟩, policy, foundPolicy, transferable⟩
        · cases isNext
  | finding input current keyCiphertext policyId =>
    cases isNext
    exact placed
  | sourcing input current keyCiphertext policyId existing =>
    simp only [transferStep] at isNext ⊢
    split at isNext
    · cases isNext
    · rename_i source isSource
      cases existing with
      | none =>
        cases isNext
        exact ⟨policyId, placed.1, placed.2, sourceLease_some isSource, rfl⟩
      | some operation =>
        simp only at isNext ⊢
        split at isNext
        · cases isNext
        · cases isNext
          exact prepared _ _ _ _ _ _
  | creating input current keyCiphertext metadata source =>
    simp only [transferStep] at isNext ⊢
    split at isNext
    · cases isNext
    · cases isNext
      exact prepared _ _ _ _ _ _
  | issuing input current keyCiphertext source =>
    simp only [transferStep] at isNext ⊢
    split at isNext
    · cases isNext
    · cases isNext
      trivial
  | finalizing input current =>
    simp only [transferStep] at isNext
    split at isNext
    · cases isNext
    · cases isNext

/-! ## What the tables hold -/

/-- The operation of a transfer. -/
def IsTransfer (operation : LeaseOperationRow) : Prop :=
  Exists fun input : TransferInput => operation.operationId = input.operationId

structure Sound (store : TransferStore) : Prop where
  prepared : forall operation, operation ∈ store.operations -> IsTransfer operation -> Prepared store operation
  leased : forall operation, operation ∈ store.operations -> IsTransfer operation -> forall leaseId,
    operation.resultLeaseId = some leaseId -> Exists fun lease => lease ∈ store.leases ∧
      lease.leaseId = leaseId ∧ lease.operationId = some operation.operationId
  completed : forall operation, operation ∈ store.operations -> IsTransfer operation ->
    operation.status = "COMPLETED" -> operation.resultLeaseId ≠ none
  /-- Each move has its operation, and the operation's lease. -/
  results : forall event, event ∈ store.events -> Exists fun operation => operation ∈ store.operations ∧
    operation.operationId = event.operationId ∧ operation.resultLeaseId = some event.leaseId

/-- Tables in which nothing has been transferred. -/
structure Untouched (store : TransferStore) : Prop where
  operations : forall operation, operation ∈ store.operations -> ¬ IsTransfer operation
  events : store.events = []

theorem Untouched.sound (untouched : Untouched store) : Sound store where
  prepared operation member isTransfer := absurd isTransfer (untouched.operations operation member)
  leased operation member isTransfer := absurd isTransfer (untouched.operations operation member)
  completed operation member isTransfer := absurd isTransfer (untouched.operations operation member)
  results event member := by
    rw [untouched.events] at member
    cases member

theorem leased_develops {operation : LeaseOperationRow} {leaseId : String}
    (leased : Exists fun lease => lease ∈ before.leases ∧ lease.leaseId = leaseId ∧
      lease.operationId = some operation.operationId)
    (develops : Develops before after) : Exists fun lease => lease ∈ after.leases ∧ lease.leaseId = leaseId ∧
      lease.operationId = some operation.operationId := by
  rcases leased with ⟨lease, member, isLease, isOperation⟩
  rcases develops.leases lease member with ⟨later, laterMember, same⟩
  exact ⟨later, laterMember, same.2.1.trans isLease, same.2.2.2.2.2.trans isOperation⟩

theorem results_develops {event : TransferredEvent}
    (result : Exists fun operation => operation ∈ before.operations ∧
      operation.operationId = event.operationId ∧ operation.resultLeaseId = some event.leaseId)
    (develops : Develops before after) : Exists fun operation => operation ∈ after.operations ∧
      operation.operationId = event.operationId ∧ operation.resultLeaseId = some event.leaseId := by
  rcases result with ⟨operation, member, isOperation, isLease⟩
  rcases develops.operations operation member with ⟨later, laterMember, same, keeps⟩
  refine ⟨later, laterMember, same.2.1.trans isOperation, ?_⟩
  have hasResult : operation.resultLeaseId ≠ none := by
    rw [isLease]
    exact Option.some_ne_none _
  exact (keeps hasResult).trans isLease

theorem TransferWrite.sound (issues : IssuesLeases host.issuer)
    (write : TransferWrite host before after point) (placed : Placed before point) (sound : Sound before) :
    Sound after := by
  have develops := write.develops issues
  cases write with
  | kept same =>
    rw [same]
    exact sound
  | @created input current keyCiphertext metadata source now id operations inserted same =>
    subst same
    refine ⟨?_, ?_, ?_, ?_⟩
    · intro operation member isTransfer
      rcases (Table.mem_insert inserted).mp member with old | rfl
      · exact (sound.prepared operation old isTransfer).develops (sameOperation_refl operation) develops
      · rcases placed with ⟨policyId, owned, permitted, hasSource, isMetadata⟩
        exact ⟨input, current, policyId, source, rfl, rfl, isMetadata, owned.develops develops,
          permitted.develops develops, hasSource.develops develops⟩
    · intro operation member isTransfer leaseId isLease
      rcases (Table.mem_insert inserted).mp member with old | rfl
      · exact leased_develops (sound.leased operation old isTransfer leaseId isLease) develops
      · cases isLease
    · intro operation member isTransfer isCompleted
      rcases (Table.mem_insert inserted).mp member with old | rfl
      · exact sound.completed operation old isTransfer isCompleted
      · exact absurd isCompleted (by decide : "PREPARED" ≠ "COMPLETED")
    · intro event member
      exact results_develops (sound.results event member) develops
  | @issued input current keyCiphertext source drawn same =>
    subst same
    refine ⟨?_, ?_, ?_, ?_⟩
    · intro operation member isTransfer
      rcases issues.noneAdded _ drawn before operation member with ⟨old, oldMember, sameOperation⟩
      rcases isTransfer with ⟨named, isNamed⟩
      have wasTransfer : IsTransfer old := ⟨named, sameOperation.2.1.symm.trans isNamed⟩
      exact (sound.prepared old oldMember wasTransfer).develops sameOperation develops
    · intro operation member isTransfer leaseId isLease
      rcases issues.issued _ drawn before operation member leaseId isLease with old | ⟨isRequest, lease,
        leaseMember, isLeaseId, isOperation⟩
      · exact leased_develops (sound.leased operation old isTransfer leaseId isLease) develops
      · exact ⟨lease, leaseMember, isLeaseId, isOperation.trans (congrArg some isRequest.symm)⟩
    · intro operation member isTransfer isCompleted
      rcases issues.completed _ drawn before operation member isCompleted with old | hasResult
      · exact sound.completed operation old isTransfer isCompleted
      · exact hasResult
    · intro event member
      rw [(issues.frame _ drawn before).2.1] at member
      exact results_develops (sound.results event member) develops
  | @moved input current leaseId now movable same =>
    subst same
    rcases movable.operation with ⟨moved, movedMember, isMoved, isResult⟩
    have rows : (moveLicense host input current.accountId leaseId now before).operations.rows =
        before.operations.rows.map fun operation => if operation.operationId = input.operationId then
          { operation with status := "COMPLETED", completedAt := some now } else operation :=
      operations_moveLicense input current.accountId leaseId now before
    refine ⟨?_, ?_, ?_, ?_⟩
    · intro operation member isTransfer
      rcases (Table.mem_of_rows rows).mp member with ⟨old, oldMember, isOld⟩
      split at isOld
      · subst isOld
        exact (sound.prepared old oldMember isTransfer).develops ⟨rfl, rfl, rfl, rfl, rfl⟩ develops
      · subst isOld
        exact (sound.prepared old oldMember isTransfer).develops (sameOperation_refl old) develops
    · intro operation member isTransfer leaseId' isLease
      rcases (Table.mem_of_rows rows).mp member with ⟨old, oldMember, isOld⟩
      split at isOld
      · subst isOld
        exact sound.leased old oldMember isTransfer leaseId' isLease
      · subst isOld
        exact sound.leased old oldMember isTransfer leaseId' isLease
    · intro operation member isTransfer isCompleted
      rcases (Table.mem_of_rows rows).mp member with ⟨old, oldMember, isOld⟩
      split at isOld
      · rename_i named
        subst isOld
        have isSame := operation_of_id oldMember movedMember (named.trans isMoved.symm)
        subst isSame
        rw [isResult]
        exact Option.some_ne_none leaseId
      · subst isOld
        exact sound.completed old oldMember isTransfer isCompleted
    · intro event member
      rcases List.mem_append.mp member with old | new
      · exact results_develops (sound.results event old) develops
      · rw [List.mem_singleton] at new
        subst new
        exact results_develops ⟨moved, movedMember, isMoved, isResult⟩ develops

/-! ## Every run -/

theorem transfer_throwing : (transferProtocol host).Throwing TransferDraw.throws (transferStep host) :=
  fun _ _ _ => rfl

def AllMoves (_ : Crowd TransferStore TransferPoint) (_ : CrowdMove TransferInput TransferDraw Empty) : Prop :=
  True

theorem transfers_outlined (issues : IssuesLeases host.issuer) :
    (transferProtocol host).Outlined AllMoves Sound fun store _ point => Placed store point where
  enters crowd process call holds allows := trivial
  advances crowd process point draw after later holds allows here advanced := by
    rw [transfer_throwing] at advanced
    cases thrown : draw.throws with
    | true =>
      simp only [thrown, if_true, Except.ok.injEq, Prod.mk.injEq] at advanced
      rcases advanced with ⟨rfl, rfl⟩
      refine ⟨holds.store, ?_⟩
      intro next isNext
      cases isNext
    | false =>
      simp only [thrown, Bool.false_eq_true, if_false, Except.ok.injEq] at advanced
      have placed := holds.points process point here
      have write : TransferWrite host crowd.store (transferStep host crowd.store draw point).1 point :=
        transferStep_write crowd.store draw point
      have isAfter : after = (transferStep host crowd.store draw point).1 := by rw [advanced]
      have isLater : later = (transferStep host crowd.store draw point).2 := by rw [advanced]
      subst isAfter isLater
      exact ⟨write.sound issues placed holds.store, fun next isNext => placed_next placed isNext⟩
  spares crowd process point draw after later holds allows here advanced other bystander different stands := by
    have placed := holds.points other bystander stands
    rw [transfer_throwing] at advanced
    cases thrown : draw.throws with
    | true =>
      simp only [thrown, if_true, Except.ok.injEq, Prod.mk.injEq] at advanced
      rw [← advanced.1]
      exact placed
    | false =>
      simp only [thrown, Bool.false_eq_true, if_false, Except.ok.injEq] at advanced
      have write : TransferWrite host crowd.store (transferStep host crowd.store draw point).1 point :=
        transferStep_write crowd.store draw point
      rw [advanced] at write
      exact placed.develops (write.develops issues)
  ambient crowd event := nomatch event

end Licensing
end DigitalSolutions

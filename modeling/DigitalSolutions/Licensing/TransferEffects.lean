import DigitalSolutions.Licensing.LicenseTransfers

namespace DigitalSolutions
namespace Licensing

open Foundation Persistence

/-!
# What a transfer does to the tables

A store only develops: licences keep all but their account, leases what they
were issued for, and an operation the lease that it has been given.
-/

variable {host : TransferHost} {before after : TransferStore}

/-- The columns of a licence that a transfer keeps. -/
structure SameLicense (old new : License) : Prop where
  id : new.id = old.id
  status : new.status = old.status
  keyCiphertext : new.keyCiphertext = old.keyCiphertext
  orderItemId : new.orderItemId = old.orderItemId

theorem SameLicense.refl (license : License) : SameLicense license license := ⟨rfl, rfl, rfl, rfl⟩

theorem sameOperation_refl (operation : LeaseOperationRow) : SameOperation operation operation :=
  ⟨rfl, rfl, rfl, rfl, rfl⟩

theorem sameLease_refl (lease : LicenseLeaseRecord) : SameLease lease lease := ⟨rfl, rfl, rfl, rfl, rfl, rfl⟩

structure Develops (before after : TransferStore) : Prop where
  licenses : forall license, license ∈ before.licenses ->
    Exists fun later => later ∈ after.licenses ∧ SameLicense license later
  operations : forall operation, operation ∈ before.operations ->
    Exists fun later => later ∈ after.operations ∧ SameOperation operation later ∧
      (operation.resultLeaseId ≠ none -> later.resultLeaseId = operation.resultLeaseId)
  leases : forall lease, lease ∈ before.leases ->
    Exists fun later => later ∈ after.leases ∧ SameLease lease later
  policyIds : after.policyIds = before.policyIds
  policies : after.policies = before.policies
  accountIds : after.accountIds = before.accountIds

theorem Develops.refl (store : TransferStore) : Develops store store where
  licenses license member := ⟨license, member, SameLicense.refl license⟩
  operations operation member := ⟨operation, member, sameOperation_refl operation, fun _ => rfl⟩
  leases lease member := ⟨lease, member, sameLease_refl lease⟩
  policyIds := rfl
  policies := rfl
  accountIds := rfl

theorem operation_of_id {operations : Table LeaseOperationRow} {left right : LeaseOperationRow}
    (leftMember : left ∈ operations) (rightMember : right ∈ operations)
    (same : left.operationId = right.operationId) : left = right := by
  have occupied : LeaseOperationRow.Key.operationId left.operationId ∈ Keyed.keys right := by
    rw [same]
    exact right.operationId_key
  exact operations.eq_of_common_key leftMember rightMember left.operationId_key occupied

theorem operation_of_lease {operations : Table LeaseOperationRow} {left right : LeaseOperationRow}
    (leftMember : left ∈ operations) (rightMember : right ∈ operations) {leaseId : String}
    (leftLease : left.resultLeaseId = some leaseId) (rightLease : right.resultLeaseId = some leaseId) :
    left = right := by
  have occupied : forall row : LeaseOperationRow, row.resultLeaseId = some leaseId ->
      LeaseOperationRow.Key.resultLeaseId leaseId ∈ Keyed.keys row := by
    intro row isLease
    apply List.mem_append_right
    simp only [isLease]
    exact List.mem_cons_self
  exact operations.eq_of_common_key leftMember rightMember (occupied left leftLease) (occupied right rightLease)

/-! ## What an access writes -/

/-- An operation's lease, and where its last transaction finds it. -/
structure Movable (store : TransferStore) (input : TransferInput) (leaseId : String) : Prop where
  operation : Exists fun operation => operation ∈ store.operations ∧
    operation.operationId = input.operationId ∧ operation.resultLeaseId = some leaseId
  license : Exists fun license => license ∈ store.licenses ∧ license.id = input.id

inductive TransferWrite (host : TransferHost) (before after : TransferStore) : TransferPoint -> Prop
  | kept {point : TransferPoint} (same : after = before) : TransferWrite host before after point
  | created {input : TransferInput} {current : License} {keyCiphertext : String} {metadata : Json}
      {source : LicenseLeaseRecord} {now : Time} {id : Id} {operations : Table LeaseOperationRow}
      (inserted : before.operations.insert (newOperation input metadata now id) = some operations)
      (same : after = { before with operations }) :
      TransferWrite host before after (.creating input current keyCiphertext metadata source)
  | issued {input : TransferInput} {current : License} {keyCiphertext : String}
      {source : LicenseLeaseRecord} (drawn : String)
      (same : after =
        (host.issuer.issue (leaseRequest host input keyCiphertext source) drawn before).1) :
      TransferWrite host before after (.issuing input current keyCiphertext source)
  | moved {input : TransferInput} {current : License} {leaseId : String} {now : Time}
      (movable : Movable before input leaseId)
      (same : after = moveLicense host input current.accountId leaseId now before) :
      TransferWrite host before after (.finalizing input current)

theorem finalize_some {input : TransferInput} {fromAccountId : Id} {now : Time}
    (finalized : finalize host input fromAccountId now before = some after) :
    Exists fun leaseId => Movable before input leaseId ∧
      after = moveLicense host input fromAccountId leaseId now before := by
  unfold finalize at finalized
  split at finalized
  · cases finalized
  · rename_i operation found
    split at finalized
    · cases finalized
    · rename_i leaseId isLease
      split at finalized
      · split at finalized
        · cases finalized
        · rename_i license foundLicense
          cases finalized
          have operationId := LeaseOperationRow.operationId_of_key (before.operations.lookup_key found)
          have licenseKey := before.licenses.lookup_key foundLicense
          simp only [Keyed.keys, List.mem_cons, List.not_mem_nil, or_false, reduceCtorEq,
            License.Key.id.injEq] at licenseKey
          exact ⟨leaseId, ⟨⟨operation, before.operations.lookup_mem found, operationId,
            (present_eq_some.mp isLease).1⟩, license, before.licenses.lookup_mem foundLicense,
            licenseKey.symm⟩, rfl⟩
      · cases finalized

theorem transferStep_write (store : TransferStore) (draw : TransferDraw) (point : TransferPoint) :
    TransferWrite host store (transferStep host store draw point).1 point := by
  cases point with
  | reading input =>
    simp only [transferStep]
    split
    · exact .kept rfl
    · split
      · exact .kept rfl
      · exact .kept rfl
  | policing input current keyCiphertext =>
    simp only [transferStep]
    split
    · exact .kept rfl
    · split
      · exact .kept rfl
      · exact .kept rfl
  | finding input current keyCiphertext policyId => exact .kept rfl
  | sourcing input current keyCiphertext policyId existing =>
    simp only [transferStep]
    split
    · exact .kept rfl
    · split
      · exact .kept rfl
      · split
        · exact .kept rfl
        · exact .kept rfl
  | creating input current keyCiphertext metadata source =>
    simp only [transferStep]
    split
    · exact .kept rfl
    · rename_i operations inserted
      exact .created inserted rfl
  | issuing input current keyCiphertext source => exact .issued draw.drawn rfl
  | finalizing input current =>
    simp only [transferStep]
    split
    · exact .kept rfl
    · rename_i after finalized
      rcases finalize_some finalized with ⟨leaseId, movable, same⟩
      exact .moved movable same

/-! ## The last transaction -/

theorem licenses_moveLicense (input : TransferInput) (fromAccountId : Id) (leaseId : String) (now : Time)
    (store : TransferStore) :
    (moveLicense host input fromAccountId leaseId now store).licenses.rows =
      store.licenses.rows.map fun license =>
        if license.id = input.id then { license with accountId := input.accountId } else license :=
  store.licenses.rows_update

theorem operations_moveLicense (input : TransferInput) (fromAccountId : Id) (leaseId : String) (now : Time)
    (store : TransferStore) :
    (moveLicense host input fromAccountId leaseId now store).operations.rows =
      store.operations.rows.map fun operation =>
        if operation.operationId = input.operationId then
          { operation with status := "COMPLETED", completedAt := some now }
        else operation :=
  store.operations.rows_update

theorem develops_moveLicense (input : TransferInput) (fromAccountId : Id) (leaseId : String) (now : Time)
    (store : TransferStore) : Develops store (moveLicense host input fromAccountId leaseId now store) where
  licenses license member := by
    refine ⟨_, (Table.mem_of_rows (licenses_moveLicense input fromAccountId leaseId now store)).mpr
      ⟨license, member, rfl⟩, ?_⟩
    split
    · exact ⟨rfl, rfl, rfl, rfl⟩
    · exact SameLicense.refl license
  operations operation member := by
    refine ⟨_, (Table.mem_of_rows (operations_moveLicense input fromAccountId leaseId now store)).mpr
      ⟨operation, member, rfl⟩, ?_⟩
    split
    · exact ⟨⟨rfl, rfl, rfl, rfl, rfl⟩, fun _ => rfl⟩
    · exact ⟨sameOperation_refl operation, fun _ => rfl⟩
  leases lease member := ⟨lease, member, sameLease_refl lease⟩
  policyIds := rfl
  policies := rfl
  accountIds := rfl

/-! ## An issuance -/

/-- An issuance keeps the lease that an operation has. -/
theorem result_of_issue (issues : IssuesLeases host.issuer) (request : TransferLeaseRequest) (drawn : String)
    {store : TransferStore} {operation : LeaseOperationRow} (member : operation ∈ store.operations)
    (hasResult : operation.resultLeaseId ≠ none) :
    operation ∈ (host.issuer.issue request drawn store).1.operations := by
  by_cases same : operation.operationId = request.operationId
  · rw [issues.idempotent request drawn store operation member same hasResult]
    exact member
  · rcases issues.operations request drawn store operation member with ⟨later, laterMember, _, unchanged⟩
    rw [unchanged same] at laterMember
    exact laterMember

theorem develops_issue (issues : IssuesLeases host.issuer) (request : TransferLeaseRequest) (drawn : String)
    (store : TransferStore) : Develops store (host.issuer.issue request drawn store).1 where
  licenses license member := by
    refine ⟨license, ?_, SameLicense.refl license⟩
    rw [(issues.frame request drawn store).1]
    exact member
  operations operation member := by
    by_cases hasResult : operation.resultLeaseId = none
    · rcases issues.operations request drawn store operation member with ⟨later, laterMember, same, _⟩
      exact ⟨later, laterMember, same, fun result => absurd hasResult result⟩
    · exact ⟨operation, result_of_issue issues request drawn member hasResult, sameOperation_refl operation,
        fun _ => rfl⟩
  leases := issues.leases request drawn store
  policyIds := (issues.frame request drawn store).2.2.1
  policies := (issues.frame request drawn store).2.2.2.1
  accountIds := (issues.frame request drawn store).2.2.2.2

theorem TransferWrite.develops {point : TransferPoint} (issues : IssuesLeases host.issuer)
    (write : TransferWrite host before after point) : Develops before after := by
  cases write with
  | kept same =>
    rw [same]
    exact Develops.refl before
  | created inserted same =>
    subst same
    refine ⟨fun license member => ⟨license, member, SameLicense.refl license⟩, ?_,
      fun lease member => ⟨lease, member, sameLease_refl lease⟩, rfl, rfl, rfl⟩
    intro operation member
    exact ⟨operation, (Table.mem_insert inserted).mpr (Or.inl member), sameOperation_refl operation, fun _ => rfl⟩
  | issued drawn same =>
    rw [same]
    exact develops_issue issues _ drawn before
  | moved movable same =>
    rw [same]
    exact develops_moveLicense _ _ _ _ before

end Licensing
end DigitalSolutions

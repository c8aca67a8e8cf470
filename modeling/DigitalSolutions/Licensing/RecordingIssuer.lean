import DigitalSolutions.Licensing.TransferRuns

namespace DigitalSolutions
namespace Licensing

open Foundation Persistence

/-!
# A package that issues leases

A plain lease package.  It shows that what the route relies on can be kept,
and it is what concrete transfers run on.
-/

namespace RecordingIssuer

variable {request : TransferLeaseRequest} {drawn : String} {before after : TransferStore}

def successorLease (request : TransferLeaseRequest) (licenseId leaseId : String) (named : leaseId ≠ "")
    (issuedBefore : Nat) : LicenseLeaseRecord :=
  { licenseId
    leaseId
    generation := issuedBefore + 1
    serverRevision := issuedBefore + 1
    installationId := request.installationId
    deviceId := request.deviceId
    version := request.productVersion
    status := "ACTIVE"
    action := "TRANSFER"
    operationId := some request.operationId
    named }

def superseded (predecessorLeaseId : String) (leases : Table LicenseLeaseRecord) : Table LicenseLeaseRecord :=
  leases.update (fun lease => lease.leaseId = predecessorLeaseId) fun lease => { lease with status := "SUPERSEDED" }

/-- The successor of the predecessor lease, and its operation. -/
def recordLease (request : TransferLeaseRequest) (leaseId : String) (operation : LeaseOperationRow)
    (store : TransferStore) : Option TransferStore :=
  if named : leaseId ≠ "" then
    let licenseId := operation.licenseId.getD ""
    let issuedBefore := (store.leases.select fun lease => lease.licenseId = licenseId).length
    match (superseded request.predecessorLeaseId store.leases).insert
        (successorLease request licenseId leaseId named issuedBefore),
      store.operations.amend (fun row => row.operationId = request.operationId)
        fun row => { row with resultLeaseId := some leaseId, status := "COMPLETED" } with
    | some leases, some operations => some { store with leases, operations }
    | _, _ => none
  else none

def issue (request : TransferLeaseRequest) (leaseId : String) (store : TransferStore) : TransferStore × Bool :=
  match store.operations.lookup (.operationId request.operationId) with
  | none => (store, true)
  | some operation =>
    match operation.resultLeaseId with
    | some resultLeaseId => (store, (store.leases.lookup (.leaseId resultLeaseId)).isNone)
    | none =>
      match recordLease request leaseId operation store with
      | none => (store, true)
      | some after => (after, false)

def issuer : LeaseIssuer := ⟨issue⟩

/-! ## What it writes -/

/-- A lease is issued, and recorded on its operation. -/
structure Recorded (request : TransferLeaseRequest) (leaseId : String) (before after : TransferStore) : Prop where
  operation : Exists fun operation => operation ∈ before.operations ∧
    operation.operationId = request.operationId ∧ operation.resultLeaseId = none
  lease : Exists fun lease => lease.leaseId = leaseId ∧ lease.operationId = some request.operationId ∧
    (superseded request.predecessorLeaseId before.leases).insert lease = some after.leases
  operations : before.operations.amend (fun row => row.operationId = request.operationId)
    (fun row => { row with resultLeaseId := some leaseId, status := "COMPLETED" }) = some after.operations
  rest : after = { before with leases := after.leases, operations := after.operations }

theorem recordLease_some {operation : LeaseOperationRow} {leaseId : String}
    (found : before.operations.lookup (.operationId request.operationId) = some operation)
    (without : operation.resultLeaseId = none) (recorded : recordLease request leaseId operation before = some after) :
    Recorded request leaseId before after := by
  unfold recordLease at recorded
  split at recorded
  · simp only at recorded
    split at recorded
    · rename_i leases operations inserted amended
      cases recorded
      have isOperation := LeaseOperationRow.operationId_of_key (before.operations.lookup_key found)
      exact ⟨⟨operation, before.operations.lookup_mem found, isOperation, without⟩, ⟨_, rfl, rfl, inserted⟩,
        amended, rfl⟩
    · cases recorded
  · cases recorded

theorem leaseId_of_key {lease : LicenseLeaseRecord} {leaseId : String}
    (occupied : LicenseLeaseRecord.Key.leaseId leaseId ∈ Keyed.keys lease) : lease.leaseId = leaseId := by
  rcases List.mem_cons.mp occupied with same | inRest
  · exact (LicenseLeaseRecord.Key.leaseId.inj same).symm
  · split at inRest
    · rw [List.mem_singleton] at inRest
      cases inRest
    · cases inRest

/-- An issuance records a lease, or changes nothing. -/
theorem issue_write (request : TransferLeaseRequest) (leaseId : String) (store : TransferStore) :
    Recorded request leaseId store (issue request leaseId store).1 ∨
      ((issue request leaseId store).1 = store ∧ ((issue request leaseId store).2 = false ->
        Exists fun operation => operation ∈ store.operations ∧ operation.operationId = request.operationId ∧
          Exists fun resultLeaseId => operation.resultLeaseId = some resultLeaseId ∧ resultLeaseId ≠ "")) := by
  unfold issue
  split
  · refine Or.inr ⟨rfl, ?_⟩
    intro quiet
    cases quiet
  · rename_i operation found
    have isOperation := LeaseOperationRow.operationId_of_key (store.operations.lookup_key found)
    split
    · rename_i resultLeaseId isResult
      refine Or.inr ⟨rfl, ?_⟩
      intro quiet
      rcases Option.isSome_iff_exists.mp (Option.isNone_eq_false_iff.mp quiet) with ⟨lease, isLease⟩
      have isId := leaseId_of_key (store.leases.lookup_key isLease)
      exact ⟨operation, store.operations.lookup_mem found, isOperation, resultLeaseId, isResult,
        isId ▸ lease.named⟩
    · rename_i without
      split
      · refine Or.inr ⟨rfl, ?_⟩
        intro quiet
        cases quiet
      · rename_i after recorded
        exact Or.inl (recordLease_some found without recorded)

section Recorded

variable (recorded : Recorded request drawn before after)

include recorded

theorem Recorded.mem_operations {row : LeaseOperationRow} :
    row ∈ after.operations ↔ Exists fun old => old ∈ before.operations ∧
      (if old.operationId = request.operationId then
        { old with resultLeaseId := some drawn, status := "COMPLETED" } else old) = row := by
  rw [before.operations.mem_amend recorded.operations]
  simp only [decide_eq_true_eq]

theorem Recorded.sameOperation {row : LeaseOperationRow}
    (member : row ∈ after.operations) : Exists fun old => old ∈ before.operations ∧ SameOperation old row ∧
      (old.operationId ≠ request.operationId -> row = old) ∧
      (old.operationId = request.operationId -> row.resultLeaseId = some drawn) := by
  rcases recorded.mem_operations.mp member with ⟨old, oldMember, isRow⟩
  split at isRow
  · rename_i named
    subst isRow
    exact ⟨old, oldMember, ⟨rfl, rfl, rfl, rfl, rfl⟩, fun other => absurd named other, fun _ => rfl⟩
  · rename_i other
    subst isRow
    exact ⟨old, oldMember, sameOperation_refl old, fun _ => rfl, fun named => absurd named other⟩

theorem Recorded.mem_leases {lease : LicenseLeaseRecord}
    (member : lease ∈ before.leases) : Exists fun later => later ∈ after.leases ∧ SameLease lease later := by
  rcases recorded.lease with ⟨added, _, _, inserted⟩
  refine ⟨_, (Table.mem_insert inserted).mpr (Or.inl (before.leases.mem_update.mpr ⟨lease, member, rfl⟩)), ?_⟩
  split
  · exact ⟨rfl, rfl, rfl, rfl, rfl, rfl⟩
  · exact sameLease_refl lease

theorem Recorded.named : drawn ≠ "" := by
  rcases recorded.lease with ⟨added, isLease, _, _⟩
  rw [← isLease]
  exact added.named

end Recorded

theorem issuesLeases : IssuesLeases issuer where
  idempotent request drawn store operation member isOperation hasResult := by
    rcases issue_write request drawn store with recorded | ⟨same, _⟩
    · rcases recorded.operation with ⟨other, otherMember, isOther, without⟩
      rw [operation_of_id member otherMember (isOperation.trans isOther.symm)] at hasResult
      exact absurd without hasResult
    · exact same
  records request drawn store quiet operation member isOperation := by
    rcases issue_write request drawn store with recorded | ⟨same, records⟩
    · rcases recorded.sameOperation member with ⟨old, _, sameOperation, _, result⟩
      exact ⟨drawn, result (sameOperation.2.1.symm.trans isOperation), recorded.named⟩
    · rcases records quiet with ⟨other, otherMember, isOther, hasResult⟩
      have unchanged : operation ∈ store.operations := same ▸ member
      rw [operation_of_id unchanged otherMember (isOperation.trans isOther.symm)]
      exact hasResult
  issued request drawn store operation member leaseId isLease := by
    rcases issue_write request drawn store with recorded | ⟨same, _⟩
    · rcases recorded.sameOperation member with ⟨old, oldMember, sameOperation, unchanged, result⟩
      by_cases named : old.operationId = request.operationId
      · rcases recorded.lease with ⟨lease, isAdded, isRequest, inserted⟩
        have isDrawn : drawn = leaseId := Option.some.inj ((result named).symm.trans isLease)
        exact Or.inr ⟨sameOperation.2.1.trans named, lease, (Table.mem_insert inserted).mpr (Or.inr rfl),
          isAdded.trans isDrawn, isRequest⟩
      · rw [unchanged named]
        exact Or.inl oldMember
    · exact Or.inl (same ▸ member)
  completed request drawn store operation member isCompleted := by
    rcases issue_write request drawn store with recorded | ⟨same, _⟩
    · rcases recorded.sameOperation member with ⟨old, oldMember, _, unchanged, result⟩
      by_cases named : old.operationId = request.operationId
      · refine Or.inr ?_
        rw [result named]
        exact Option.some_ne_none drawn
      · rw [unchanged named]
        exact Or.inl oldMember
    · exact Or.inl (same ▸ member)
  operations request drawn store operation member := by
    rcases issue_write request drawn store with recorded | ⟨same, _⟩
    · refine ⟨_, recorded.mem_operations.mpr ⟨operation, member, rfl⟩, ?_⟩
      split
      · rename_i named
        exact ⟨⟨rfl, rfl, rfl, rfl, rfl⟩, fun other => absurd named other⟩
      · exact ⟨sameOperation_refl operation, fun _ => rfl⟩
    · exact ⟨operation, same.symm ▸ member, sameOperation_refl operation, fun _ => rfl⟩
  noneAdded request drawn store later member := by
    rcases issue_write request drawn store with recorded | ⟨same, _⟩
    · rcases recorded.sameOperation member with ⟨old, oldMember, sameOperation, _, _⟩
      exact ⟨old, oldMember, sameOperation⟩
    · exact ⟨later, same ▸ member, sameOperation_refl later⟩
  leases request drawn store lease member := by
    rcases issue_write request drawn store with recorded | ⟨same, _⟩
    · exact recorded.mem_leases member
    · exact ⟨lease, same.symm ▸ member, sameLease_refl lease⟩
  frame request drawn store := by
    rcases issue_write request drawn store with recorded | ⟨same, _⟩
    · have rest : (issuer.issue request drawn store).1 = _ := recorded.rest
      rw [rest]
      exact ⟨rfl, rfl, rfl, rfl, rfl⟩
    · have same' : (issuer.issue request drawn store).1 = store := same
      rw [same']
      exact ⟨rfl, rfl, rfl, rfl, rfl⟩

end RecordingIssuer
end Licensing
end DigitalSolutions

import DigitalSolutions.Licensing.TransferRuns

namespace DigitalSolutions
namespace Licensing

open Foundation Persistence

/-!
# Interrupted transfers

From whatever point a transfer has been interrupted at, the same request can
go through to the end.
-/

variable {host : TransferHost} {store : TransferStore}
variable {input : TransferInput} {operation : LeaseOperationRow} {source : LicenseLeaseRecord}
variable {keyCiphertext : String} {current : License}

/-- The package can issue a lease for the transfer. -/
def Issuable (host : TransferHost) (store : TransferStore) (input : TransferInput) : Prop :=
  forall request operations, request.operationId = input.operationId ->
    Exists fun drawn => (host.issuer.issue request drawn { store with operations }).2 = false

/-- The operation was prepared for this request, whoever made it. -/
def AskedBy (input : TransferInput) (operation : LeaseOperationRow) : Prop :=
  operation.operationId = input.operationId ∧ operation.licenseId = some input.id ∧
    Exists fun actorId => Exists fun current => Exists fun policyId => Exists fun source =>
      operation.metadata = transferMetadata { input with actorId } current policyId source none

/-- Nothing is recorded of the transfer, and the route would accept it. -/
structure Acceptable (store : TransferStore) (input : TransferInput) : Prop where
  unrecorded : store.operations.lookup (.operationId input.operationId) = none
  permitted : Exists fun orderItemId => Exists fun policyId =>
    Owned store input.id orderItemId ∧ Permitted store orderItemId policyId
  source : Exists fun source => currentLease input.id store = some source ∧ source.version ≠ ""

/-- The licence has been moved to the account of the request. -/
structure Carried (input : TransferInput) (store : TransferStore) : Prop where
  event : Exists fun event => event ∈ store.events ∧ event.operationId = input.operationId ∧
    event.licenseId = input.id ∧ event.toAccountId = input.accountId
  license : Exists fun license => license ∈ store.licenses ∧ license.id = input.id ∧
    license.accountId = input.accountId

def Completes (host : TransferHost) (store : TransferStore) (point : TransferPoint) (input : TransferInput) :
    Prop :=
  Exists fun after => (transferProtocol host).Finishes store point after ∧ Carried input after

/-- An access that does not throw, at any time. -/
def quietDraw (fresh : Id) (drawn : String) : TransferDraw := ⟨0, fresh, drawn, false⟩

theorem Completes.step {middle : TransferStore} {point next : TransferPoint} {fresh : Id} {drawn : String}
    (moved : transferStep host store (quietDraw fresh drawn) point = (middle, some next))
    (completes : Completes host middle next input) : Completes host store point input := by
  rcases completes with ⟨after, finishes, carried⟩
  refine ⟨after, .next (quietDraw fresh drawn) ?_ finishes, carried⟩
  rw [transfer_throwing, ← moved]
  rfl

theorem carried_moveLicense {fromAccountId : Id} {leaseId : String} {now : Time} {license : License}
    (member : license ∈ store.licenses) (isLicense : license.id = input.id) :
    Carried input (moveLicense host input fromAccountId leaseId now store) where
  event := ⟨transferredEvent input fromAccountId leaseId, List.mem_append_right _ (List.mem_singleton_self _),
    rfl, rfl, rfl⟩
  license := by
    refine ⟨_, (Table.mem_of_rows (licenses_moveLicense input fromAccountId leaseId now store)).mpr
      ⟨license, member, rfl⟩, ?_⟩
    rw [if_pos isLicense]
    exact ⟨isLicense, rfl⟩

theorem lookup_license {license : License} (member : license ∈ store.licenses) :
    store.licenses.lookup (.id license.id) = some license :=
  store.licenses.lookup_of_mem member List.mem_cons_self

/-! ## From the end of the route to its beginning -/

/-- What the last accesses rely on: the licence, and the account it goes to. -/
structure Awaited (store : TransferStore) (input : TransferInput) : Prop where
  license : Exists fun license => license ∈ store.licenses ∧ license.id = input.id
  account : input.accountId ∈ store.accountIds

theorem completes_finalizing {leaseId : String} (awaited : Awaited store input)
    (member : operation ∈ store.operations) (isOperation : operation.operationId = input.operationId)
    (isResult : operation.resultLeaseId = some leaseId) (isNamed : leaseId ≠ "") :
    Completes host store (.finalizing input current) input := by
  rcases awaited.license with ⟨license, licenseMember, isLicense⟩
  have found : store.operations.lookup (.operationId input.operationId) = some operation := by
    rw [← isOperation]
    exact lookup_operation member
  have hasLease : present operation.resultLeaseId = some leaseId := present_eq_some.mpr ⟨isResult, isNamed⟩
  have foundLicense : store.licenses.lookup (.id input.id) = some license := by
    rw [← isLicense]
    exact lookup_license licenseMember
  have account : store.accountIds.contains input.accountId = true := List.contains_iff_mem.mpr awaited.account
  have finalized : finalize host input current.accountId 0 store =
      some (moveLicense host input current.accountId leaseId 0 store) := by
    simp only [finalize, found, hasLease, account, foundLicense, if_true]
  refine ⟨moveLicense host input current.accountId leaseId 0 store, .last (quietDraw "" "") ?_,
    carried_moveLicense licenseMember isLicense⟩
  rw [transfer_throwing]
  simp only [quietDraw, Bool.false_eq_true, if_false, transferStep, finalized]

theorem completes_issuing (issues : IssuesLeases host.issuer) (issuable : Issuable host store input)
    (awaited : Awaited store input) (member : operation ∈ store.operations)
    (isOperation : operation.operationId = input.operationId) :
    Completes host store (.issuing input current keyCiphertext source) input := by
  rcases issuable (leaseRequest host input keyCiphertext source) store.operations rfl with ⟨drawn, issued⟩
  let middle := (host.issuer.issue (leaseRequest host input keyCiphertext source) drawn store).1
  have frame := issues.frame (leaseRequest host input keyCiphertext source) drawn store
  have moved : transferStep host store (quietDraw "" drawn) (.issuing input current keyCiphertext source) =
      (middle, some (.finalizing input current)) := by
    have issued' : (host.issuer.issue (leaseRequest host input keyCiphertext source)
        (quietDraw "" drawn).drawn store).2 = false := issued
    simp only [transferStep, issued', Bool.false_eq_true, if_false]
    rfl
  rcases issues.operations (leaseRequest host input keyCiphertext source) drawn store operation member with
    ⟨later, laterMember, same, _⟩
  have isLater : later.operationId = input.operationId := same.2.1.trans isOperation
  rcases issues.records _ drawn store issued later laterMember isLater with ⟨leaseId, isResult, isNamed⟩
  have still : Awaited middle input := by
    refine ⟨?_, ?_⟩
    · rw [frame.1]
      exact awaited.license
    · rw [frame.2.2.2.2]
      exact awaited.account
  exact Completes.step moved (completes_finalizing still laterMember isLater isResult isNamed)

theorem completes_prepared (issues : IssuesLeases host.issuer) (sound : Sound store)
    (issuable : Issuable host store input) (awaited : Awaited store input)
    (member : operation ∈ store.operations) (isOperation : operation.operationId = input.operationId) :
    Completes host store (preparedPoint input current keyCiphertext source operation.status) input := by
  unfold preparedPoint
  split
  · rename_i isCompleted
    have isTransfer : IsTransfer operation := ⟨input, isOperation⟩
    have hasResult := sound.completed operation member isTransfer isCompleted
    rcases Option.ne_none_iff_exists'.mp hasResult with ⟨leaseId, isResult⟩
    rcases sound.leased operation member isTransfer leaseId isResult with ⟨lease, _, isLease, _⟩
    exact completes_finalizing awaited member isOperation isResult (isLease ▸ lease.named)
  · exact completes_issuing issues issuable awaited member isOperation

/-- An id that no operation has. -/
theorem exists_fresh_id (operations : Table LeaseOperationRow) :
    Exists fun id => forall operation, operation ∈ operations -> operation.id ≠ id := by
  rcases Infinite.exists_notMem_finset (operations.rows.map LeaseOperationRow.id).toFinset with ⟨id, unused⟩
  refine ⟨id, ?_⟩
  intro operation member same
  apply unused
  rw [List.mem_toFinset, ← same]
  exact List.mem_map_of_mem member

theorem completes_creating {metadata : Json} (issues : IssuesLeases host.issuer)
    (issuable : Issuable host store input) (awaited : Awaited store input)
    (unrecorded : store.operations.lookup (.operationId input.operationId) = none) :
    Completes host store (.creating input current keyCiphertext metadata source) input := by
  rcases exists_fresh_id store.operations with ⟨fresh, unused⟩
  have free : forall key, key ∈ Keyed.keys (newOperation input metadata 0 fresh) ->
      store.operations.lookup key = none := by
    intro key isKey
    have cases' : key = .id fresh ∨ key = .operationId input.operationId := by
      simpa [Keyed.keys, newOperation] using isKey
    rcases cases' with rfl | rfl
    · rw [Table.lookup_eq_none]
      intro operation member isId
      apply unused operation member
      unfold Keyed.keys instKeyedLeaseOperationRowKey at isId
      cases isResult : operation.resultLeaseId with
      | none => simpa [isResult, eq_comm] using isId
      | some leaseId => simpa [isResult, eq_comm] using isId
    · exact unrecorded
  rcases Table.insert_of_free free with ⟨operations, inserted⟩
  have moved : transferStep host store (quietDraw fresh "") (.creating input current keyCiphertext metadata source) =
      ({ store with operations }, some (.issuing input current keyCiphertext source)) := by
    simp only [transferStep, quietDraw, inserted]
    rfl
  have issuable' : Issuable host { store with operations } input := issuable
  have awaited' : Awaited { store with operations } input := ⟨awaited.license, awaited.account⟩
  have member : newOperation input metadata 0 fresh ∈ operations := (Table.mem_insert inserted).mpr (Or.inr rfl)
  exact Completes.step moved (completes_issuing issues issuable' awaited' member rfl)

/-- The request that an operation was prepared for does not fail the check. -/
theorem replayMismatch_same {asked : TransferInput} {prior : License} {policyId : Id}
    {lease : LicenseLeaseRecord}
    (metadata : operation.metadata = transferMetadata asked prior policyId source none)
    (account : asked.accountId = input.accountId)
    (installation : asked.installationId = input.installationId)
    (device : asked.deviceId = input.deviceId) (isLease : lease.leaseId = source.leaseId) :
    replayMismatch (transferMetadata input current policyId lease (some operation)) operation.metadata = false := by
  have stored : property operation.metadata "sourceAccountId" = some (.string prior.accountId) := by
    rw [metadata]
    rfl
  simp only [replayMismatch, comparedKeys, transferMetadata, Option.bind_some, stored]
  rw [metadata]
  simp [transferMetadata, property, account, installation, device, isLease]

theorem completes_sourcing {policyId : Id} (issues : IssuesLeases host.issuer) (sound : Sound store)
    (issuable : Issuable host store input) (awaited : Awaited store input)
    (member : operation ∈ store.operations) (isOperation : operation.operationId = input.operationId)
    {asked : TransferInput} {prior : License}
    (metadata : operation.metadata = transferMetadata asked prior policyId source none)
    (account : asked.accountId = input.accountId)
    (installation : asked.installationId = input.installationId)
    (device : asked.deviceId = input.deviceId) (hasSource : HasSource store source) :
    Completes host store (.sourcing input current keyCiphertext policyId (some operation)) input := by
  rcases hasSource with ⟨version, lease, leaseMember, same⟩
  have isPredecessor : truthyText (property operation.metadata "predecessorLeaseId") = some source.leaseId := by
    rw [metadata]
    simp [transferMetadata, property, truthyText, source.named]
  have found : store.leases.lookup (.leaseId source.leaseId) = some lease := by
    apply store.leases.lookup_of_mem leaseMember
    rw [← same.2.1]
    exact List.mem_cons_self
  have isSource : sourceLease input.id (some operation) store = some lease := by
    simp only [sourceLease, isPredecessor, Option.bind_some, found]
    rw [Option.filter_some, if_pos]
    rw [decide_eq_true_eq, same.2.2.1]
    exact version
  have matches' : replayMismatch (transferMetadata input current policyId lease (some operation))
      operation.metadata = false :=
    replayMismatch_same metadata account installation device same.2.1
  have moved : transferStep host store (quietDraw "" "")
      (.sourcing input current keyCiphertext policyId (some operation)) =
      (store, some (preparedPoint input current keyCiphertext lease operation.status)) := by
    simp only [transferStep, isSource, matches', Bool.false_eq_true, if_false]
  exact Completes.step moved (completes_prepared issues sound issuable awaited member isOperation)

/-- The reads of the route go through. -/
theorem completes_reading {license : License} {policyId : Id} (member : license ∈ store.licenses)
    (isLicense : license.id = input.id) (isActive : license.status = .active)
    (permitted : Permitted store license.orderItemId policyId)
    (hasKey : present license.keyCiphertext = some keyCiphertext)
    (completes : Completes host store (.sourcing input license keyCiphertext policyId
      (store.operations.lookup (.operationId input.operationId))) input) :
    Completes host store (.reading input) input := by
  rcases permitted with ⟨⟨⟨itemId, itemPolicyId⟩, isEntry, rfl⟩, policy, isPolicy, transferable⟩
  have found : store.licenses.lookup (.id input.id) = some license := by
    rw [← isLicense]
    exact lookup_license member
  have read : transferStep host store (quietDraw "" "") (.reading input) =
      (store, some (.policing input license keyCiphertext)) := by
    simp only [transferStep, found, isActive, hasKey]
  have policed : transferStep host store (quietDraw "" "") (.policing input license keyCiphertext) =
      (store, some (.finding input license keyCiphertext itemPolicyId)) := by
    simp only [transferStep, isEntry, isPolicy, transferable, if_true]
  have looked : transferStep host store (quietDraw "" "") (.finding input license keyCiphertext itemPolicyId) =
      (store, some (.sourcing input license keyCiphertext itemPolicyId
        (store.operations.lookup (.operationId input.operationId)))) := rfl
  exact Completes.step read (Completes.step policed (Completes.step looked completes))

/-! ## A repeated request -/

/-- A transfer of which the operation, or nothing, has been recorded. -/
def Interrupted (store : TransferStore) (input : TransferInput) : Prop :=
  (Exists fun operation => operation ∈ store.operations ∧ AskedBy input operation) ∨ Acceptable store input

theorem completes_asked (issues : IssuesLeases host.issuer) (sound : Sound store)
    (issuable : Issuable host store input) (account : input.accountId ∈ store.accountIds)
    (member : operation ∈ store.operations) (asked : AskedBy input operation) :
    Completes host store (.reading input) input := by
  rcases asked with ⟨isOperation, isLicense, actorId, current, policyId, source, metadata⟩
  rcases sound.prepared operation member ⟨input, isOperation⟩ with ⟨other, prior, policyId', source', _, isOther,
    metadata', ⟨license, licenseMember, isId, isActive, hasKey, isItem⟩, permitted, hasSource⟩
  have sameId : other.id = input.id := Option.some.inj (isOther.symm.trans isLicense)
  have same := metadata'.symm.trans metadata
  simp only [transferMetadata, Option.bind_none, Json.object.injEq, List.cons.injEq, Prod.mk.injEq,
    Json.string.injEq, true_and, and_true] at same
  rcases Option.ne_none_iff_exists'.mp hasKey with ⟨keyCiphertext, isKey⟩
  have awaited : Awaited store input := ⟨⟨license, licenseMember, isId.trans sameId⟩, account⟩
  rw [← isItem] at permitted
  have found : store.operations.lookup (.operationId input.operationId) = some operation := by
    rw [← isOperation]
    exact lookup_operation member
  apply completes_reading licenseMember (isId.trans sameId) isActive permitted isKey
  rw [found]
  exact completes_sourcing issues sound issuable awaited member isOperation metadata' same.2.1 same.2.2.1
    same.2.2.2.1 hasSource

theorem completes_acceptable (issues : IssuesLeases host.issuer) (issuable : Issuable host store input)
    (account : input.accountId ∈ store.accountIds) (acceptable : Acceptable store input) :
    Completes host store (.reading input) input := by
  rcases acceptable.permitted with ⟨orderItemId, policyId, ⟨license, member, isId, isActive, hasKey, isItem⟩,
    permitted⟩
  rcases acceptable.source with ⟨source, isCurrent, version⟩
  rcases Option.ne_none_iff_exists'.mp hasKey with ⟨keyCiphertext, isKey⟩
  rw [← isItem] at permitted
  have isSource : sourceLease input.id none store = some source := by
    simp only [sourceLease, isCurrent]
    rw [Option.filter_some, if_pos]
    exact decide_eq_true version
  apply completes_reading member isId isActive permitted isKey
  rw [acceptable.unrecorded]
  have moved : transferStep host store (quietDraw "" "") (.sourcing input license keyCiphertext policyId none) =
      (store, some (.creating input license keyCiphertext (transferMetadata input license policyId source none)
        source)) := by
    simp only [transferStep, isSource]
  exact Completes.step moved
    (completes_creating issues issuable ⟨⟨license, member, isId⟩, account⟩ acceptable.unrecorded)

theorem Interrupted.completes (interrupted : Interrupted store input) (issues : IssuesLeases host.issuer)
    (sound : Sound store) (issuable : Issuable host store input)
    (account : input.accountId ∈ store.accountIds) : Completes host store (.reading input) input := by
  rcases interrupted with ⟨operation, member, asked⟩ | acceptable
  · exact completes_asked issues sound issuable account member asked
  · exact completes_acceptable issues issuable account acceptable

end Licensing
end DigitalSolutions

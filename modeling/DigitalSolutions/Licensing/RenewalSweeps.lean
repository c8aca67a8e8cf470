import DigitalSolutions.Foundation.Sweeps
import DigitalSolutions.Licensing.RenewalRuns

namespace DigitalSolutions
namespace Licensing

open Foundation Persistence

/-!
# The recovery as a sweep

A run of the recovery takes the oldest prepared operations and has each of
them issued, or leaves it.  What it leaves is as old as before.
-/

variable {host : RenewalHost} {store before after : RenewalStore}

/-- What happens before a run of the recovery and to its candidates. -/
structure RecoveryTurn where
  changes : List RenewalAmbient
  draws : RenewalOperationId -> RenewalDraw

/-- The loop of `preparedRenewalRecovery`. -/
def recoverAll (host : RenewalHost) (draws : RenewalOperationId -> RenewalDraw) :
    List RecoveryCandidate -> RenewalStore -> RenewalStore
  | [], store => store
  | candidate :: rest, store =>
    recoverAll host draws rest
      (renewalStep host store (draws candidate.operationId) (.recovering (candidate :: rest))).1

def recoveryRun (host : RenewalHost) (turn : RecoveryTurn) (store : RenewalStore) : RenewalStore :=
  let changed := turn.changes.foldl RenewalAmbient.change store
  recoverAll host turn.draws (recoveryCandidates changed) changed

def preparedRenewalRecovery (host : RenewalHost) : Job RenewalStore RecoveryTurn RenewalOperationId where
  limit := 20
  backlog store := (preparedOperations store).map CommercialLeaseOperation.operationId
  run := recoveryRun host

theorem attempts_recovery (store : RenewalStore) :
    (preparedRenewalRecovery host).attempts store = (recoveryCandidates store).map RecoveryCandidate.operationId := by
  have sameNames : RecoveryCandidate.operationId ∘ recoveryCandidate store = CommercialLeaseOperation.operationId := by
    funext operation
    rfl
  rw [recoveryCandidates, List.map_map, sameNames, List.map_take]
  rfl

/-- Operations without a device to issue for are left as they are. -/
theorem recoverAll_unbound (draws : RenewalOperationId -> RenewalDraw) {candidates : List RecoveryCandidate}
    (unbound : forall candidate, candidate ∈ candidates -> recoveryIssue host candidate = none)
    (store : RenewalStore) : recoverAll host draws candidates store = store := by
  induction candidates with
  | nil => rfl
  | cons candidate rest inductionHypothesis =>
    have left : renewalStep host store (draws candidate.operationId) (.recovering (candidate :: rest)) =
        (store, some (.recovering rest)) := by
      simp only [renewalStep, unbound candidate List.mem_cons_self]
    rw [recoverAll, left]
    exact inductionHypothesis fun other member => unbound other (List.mem_cons_of_mem candidate member)

/-! ## What a run changes -/

/-- Operations are completed in their places, and only named ones. -/
def CompletesOnly (names : List RenewalOperationId) (before after : RenewalStore) : Prop :=
  Exists fun change : CommercialLeaseOperation -> CommercialLeaseOperation =>
    (forall operation, Progressed operation (change operation)) ∧
    (forall operation, operation.operationId ∉ names -> change operation = operation) ∧
    after.licensing.leaseOperations.rows = before.licensing.leaseOperations.rows.map change

theorem CompletesOnly.same {names : List RenewalOperationId}
    (same : after.licensing.leaseOperations = before.licensing.leaseOperations) : CompletesOnly names before after := by
  refine ⟨fun operation => operation, Progressed.refl, fun _ _ => rfl, ?_⟩
  rw [same]
  exact (List.map_id _).symm

theorem CompletesOnly.trans {first second : List RenewalOperationId} {middle : RenewalStore}
    (left : CompletesOnly first before middle) (right : CompletesOnly second middle after) :
    CompletesOnly (first ++ second) before after := by
  rcases left with ⟨earlier, earlierProgressed, earlierOnly, middleRows⟩
  rcases right with ⟨later, laterProgressed, laterOnly, afterRows⟩
  refine ⟨later ∘ earlier, ?_, ?_, ?_⟩
  · intro operation
    exact (earlierProgressed operation).trans (laterProgressed (earlier operation))
  · intro operation other
    rw [List.mem_append, not_or] at other
    rw [Function.comp_apply, earlierOnly operation other.1, laterOnly operation other.2]
  · rw [afterRows, middleRows, List.map_map]

theorem operationId_of_recoveryIssue {candidate : RecoveryCandidate} {request : RenewalIssue}
    (asked : recoveryIssue host candidate = some request) : request.operationId = candidate.operationId := by
  rcases Option.bind_eq_some_iff.mp asked with ⟨license, _, asked⟩
  unfold renewalIssue at asked
  split at asked
  · cases asked
  · split at asked
    · cases asked
      rfl
    · cases asked

theorem completesOnly_issue (issues : IssuesRenewals host.issuer) (request : RenewalIssue) (drawn : String)
    (store : RenewalStore) :
    CompletesOnly [request.operationId] store (host.issuer.issue request drawn store).1 := by
  rcases issues.operations request drawn store with same | ⟨completedAt, rows⟩
  · exact CompletesOnly.same same
  · refine ⟨_, progressed_completeOperation request.operationId completedAt, ?_, rows⟩
    intro operation other
    rw [List.mem_singleton] at other
    exact if_neg other

theorem completesOnly_turn (issues : IssuesRenewals host.issuer) (draw : RenewalDraw)
    (candidate : RecoveryCandidate) (rest : List RecoveryCandidate) (store : RenewalStore) :
    CompletesOnly [candidate.operationId] store
      (renewalStep host store draw (.recovering (candidate :: rest))).1 := by
  simp only [renewalStep]
  split
  · exact CompletesOnly.same rfl
  · rename_i request asked
    split
    · exact CompletesOnly.same rfl
    · rw [← operationId_of_recoveryIssue asked]
      exact completesOnly_issue issues request draw.drawn store

theorem completesOnly_recoverAll (issues : IssuesRenewals host.issuer) (draws : RenewalOperationId -> RenewalDraw)
    (candidates : List RecoveryCandidate) (store : RenewalStore) :
    CompletesOnly (candidates.map RecoveryCandidate.operationId) store (recoverAll host draws candidates store) := by
  induction candidates generalizing store with
  | nil => exact CompletesOnly.same rfl
  | cons candidate rest inductionHypothesis =>
    exact (completesOnly_turn issues (draws candidate.operationId) candidate rest store).trans (inductionHypothesis _)

theorem operations_changes (changes : List RenewalAmbient) (store : RenewalStore) :
    (changes.foldl RenewalAmbient.change store).licensing.leaseOperations = store.licensing.leaseOperations := by
  induction changes generalizing store with
  | nil => rfl
  | cons event rest inductionHypothesis =>
    rw [List.foldl_cons, inductionHypothesis]
    cases event with
    | devices deviceActivations => rfl
    | leases leases => rfl

theorem completesOnly_recoveryRun (issues : IssuesRenewals host.issuer) (turn : RecoveryTurn) (store : RenewalStore) :
    CompletesOnly ((preparedRenewalRecovery host).attempts store) store (recoveryRun host turn store) := by
  have changed := operations_changes turn.changes store
  have sameAttempts : (preparedRenewalRecovery host).attempts store =
      (recoveryCandidates (turn.changes.foldl RenewalAmbient.change store)).map RecoveryCandidate.operationId := by
    rw [← @attempts_recovery host]
    simp only [Job.attempts, preparedRenewalRecovery, preparedOperations, changed]
  rw [sameAttempts]
  have unchanged : CompletesOnly [] store (turn.changes.foldl RenewalAmbient.change store) := CompletesOnly.same changed
  exact unchanged.trans (completesOnly_recoverAll issues turn.draws _ _)

/-! ## The backlog -/

def waits (operation : CommercialLeaseOperation) : Bool := operation.status = .prepared

theorem query_inserted : Sweep.QueryOrder fun operations : List CommercialLeaseOperation => operations :=
  ⟨fun operations => List.Perm.refl operations, fun _ _ => rfl⟩

theorem nodup_operationIds (table : Table CommercialLeaseOperation) :
    (table.rows.map CommercialLeaseOperation.operationId).Nodup := by
  have unique : forall operation : CommercialLeaseOperation,
      CommercialLeaseOperation.Key.operationId operation.operationId ∈ Keyed.keys operation :=
    fun operation => List.mem_singleton_self _
  exact table.nodup_column unique

theorem preparedRenewalRecovery_sweeps (issues : IssuesRenewals host.issuer) :
    (preparedRenewalRecovery host).Sweeps fun _ => True where
  kept turn store _ := trivial
  distinct store _ := Sweep.nodup_waiting query_inserted (nodup_operationIds store.licensing.leaseOperations)
  leaves turn store _ := by
    rcases completesOnly_recoveryRun issues turn store with ⟨change, progressed, only, rows⟩
    have arrives : forall operation, operation ∈ store.licensing.leaseOperations.rows ->
        waits (change operation) = true -> waits operation = true :=
      fun operation _ waiting => decide_eq_true ((progressed operation).prepared (of_decide_eq_true waiting))
    have changed := Sweep.waiting_of_change 20 query_inserted (fun _ _ => rfl)
      (nodup_operationIds store.licensing.leaseOperations)
      (fun operation _ => (progressed operation).operationId) arrives (fun operation _ => only operation)
    rw [← rows] at changed
    exact changed

end Licensing
end DigitalSolutions

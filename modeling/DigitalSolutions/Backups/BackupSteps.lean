import DigitalSolutions.Backups.BackupProtocol

namespace DigitalSolutions
namespace Backups

open Foundation Persistence

/-!
# What an access does

Every access of a process is one of a few writes, or leaves the store as it is.
-/

variable {environment : BackupEnvironment} {before after : BackupStore} {draw : BackupDraw}
variable {next : Option BackupPoint} {point : BackupPoint}

/-- The store and the point after an access. -/
inductive Access (environment : BackupEnvironment) (before : BackupStore) (draw : BackupDraw) :
    BackupPoint -> BackupStore -> Option BackupPoint -> Prop
  /-- A retention run gives up between its two commits only where one throws. -/
  | ended {point : BackupPoint}
      (gaveUp : forall backupId expired, point = .queueing backupId expired -> draw.throws = true) :
      Access environment before draw point before none
  | claimed {workerId : String} {after : BackupStore} {operation : BackupOperation}
      (done : claimBackupOperation workerId draw before = .ok (after, operation)) :
      Access environment before draw (.claiming workerId) after (some (.executing operation .loading))
  | worked {operation : BackupOperation} {point : TaskPoint} {after : BackupStore} {result : TaskResult}
      (done : workStep environment.platform operation before draw point = (after, result)) :
      Access environment before draw (.executing operation point) after (some (afterTask operation result))
  | threw {operation : BackupOperation} {point : TaskPoint} :
      Access environment before draw (.executing operation point) before (some (.failing operation driverFault))
  | succeeded {operation : BackupOperation} :
      Access environment before draw (.succeeding operation) (succeedOperation operation draw.now before)
        (some (.auditing operation))
  | unrecorded {operation : BackupOperation} (throws : draw.throws = true) :
      Access environment before draw (.succeeding operation) before (some (.failing operation driverFault))
  | unaudited {operation : BackupOperation} (throws : draw.throws = true) :
      Access environment before draw (.auditing operation) before (some (.failing operation driverFault))
  | failed {operation : BackupOperation} {code : String} (steady : draw.throws = false) :
      Access environment before draw (.failing operation code) (failOperation operation code draw.now before)
        (some (.failingArchive operation code))
  | archiveFailed {operation : BackupOperation} {code : String} :
      Access environment before draw (.failingArchive operation code) (failArchive operation code before) none
  | found :
      Access environment before draw .finding before
        (some (.releasing draw.now (before.operations.select (isAbandoned draw.now))))
  | released {now : Time} {operation : BackupOperation} {abandoned : List BackupOperation}
      (steady : draw.throws = false) :
      Access environment before draw (.releasing now (operation :: abandoned))
        (releaseOperation operation now before) (some (.releasing now abandoned))
  | requested {dryRun : Bool} {idempotencyKey : String} {expiresAt : Option Time} {after : BackupStore}
      (done : createBackup environment dryRun idempotencyKey expiresAt draw before = .ok after) :
      Access environment before draw (.requesting dryRun idempotencyKey expiresAt) after none
  | operationRequested {backupId : Id} {type : BackupOperationType} {confirmation : String} {dryRun : Bool}
      {after : BackupStore} (notCreate : type ≠ .create)
      (done : createOperation backupId type dryRun draw before = .ok after) :
      Access environment before draw (.requestingOperation backupId type confirmation dryRun) after none
  | retained :
      Access environment before draw (.retaining false) before
        (some (.expiring ((before.archives.select (isRetained draw.now)).map BackupArchive.id)))
  | expired {backupId : Id} {expired : List Id} :
      Access environment before draw (.expiring (backupId :: expired)) (expireArchive backupId before)
        (some (.queueing backupId expired))
  | queued {backupId : Id} {expired : List Id} {after : BackupStore}
      (done : createOperation backupId .deleteExpired false draw before = .ok after) :
      Access environment before draw (.queueing backupId expired) after (some (.auditingRequest expired))
  | resumed {expired : List Id} :
      Access environment before draw (.auditingRequest expired) before (some (.expiring expired))

theorem map_ok {Value Result : Type} {outcome : Except BackupRefusal Value} {use : Value -> Result}
    {result : Result} (done : outcome.map use = .ok result) :
    Exists fun value => outcome = .ok value ∧ use value = result := by
  cases outcome with
  | error refusal => cases done
  | ok value => exact ⟨value, rfl, Except.ok.inj done⟩

theorem requestStep_access (advanced : requestStep environment before draw point = .ok (after, next)) :
    Access environment before draw point after next := by
  cases point with
  | requesting dryRun idempotencyKey expiresAt =>
    simp only [requestStep] at advanced
    split at advanced
    · cases advanced
      exact .ended (by rintro _ _ ⟨⟩)
    · split at advanced
      · cases advanced
        exact .ended (by rintro _ _ ⟨⟩)
      · rcases map_ok advanced with ⟨created, done, same⟩
        cases same
        exact .requested done
  | requestingOperation backupId type confirmation dryRun =>
    simp only [requestStep] at advanced
    split at advanced
    · cases advanced
      exact .ended (by rintro _ _ ⟨⟩)
    · rename_i allowed
      split at advanced
      · cases advanced
        exact .ended (by rintro _ _ ⟨⟩)
      · rcases map_ok advanced with ⟨created, done, same⟩
        cases same
        exact .operationRequested (fun isCreate => allowed (Or.inl isCreate)) done
  | retaining dryRun =>
    simp only [requestStep] at advanced
    split at advanced
    · cases advanced
      exact .ended (by rintro _ _ ⟨⟩)
    · rename_i notDry
      cases advanced
      rw [Bool.not_eq_true] at notDry
      subst notDry
      exact .retained
  | expiring expired =>
    cases expired with
    | nil =>
      cases advanced
      exact .ended (by rintro _ _ ⟨⟩)
    | cons backupId expired =>
      cases advanced
      exact .expired
  | queueing backupId expired =>
    rcases map_ok advanced with ⟨created, done, same⟩
    cases same
    exact .queued done
  | auditingRequest expired =>
    cases advanced
    exact .resumed
  | claiming workerId =>
    cases advanced
    exact .ended (by rintro _ _ ⟨⟩)
  | executing operation point =>
    cases advanced
    exact .ended (by rintro _ _ ⟨⟩)
  | succeeding operation =>
    cases advanced
    exact .ended (by rintro _ _ ⟨⟩)
  | auditing operation =>
    cases advanced
    exact .ended (by rintro _ _ ⟨⟩)
  | failing operation code =>
    cases advanced
    exact .ended (by rintro _ _ ⟨⟩)
  | failingArchive operation code =>
    cases advanced
    exact .ended (by rintro _ _ ⟨⟩)
  | finding =>
    cases advanced
    exact .ended (by rintro _ _ ⟨⟩)
  | releasing now abandoned =>
    cases advanced
    exact .ended (by rintro _ _ ⟨⟩)

theorem workerStep_access (advanced : workerStep environment before draw point = .ok (after, next)) :
    Access environment before draw point after next := by
  have unrequested : (if draw.throws then .ok (before, none) else requestStep environment before draw point) =
      .ok (after, next) -> Access environment before draw point after next := by
    intro advanced
    split at advanced
    · rename_i throws
      cases advanced
      exact .ended fun _ _ _ => throws
    · exact requestStep_access advanced
  cases point with
  | claiming workerId =>
    rcases map_ok advanced with ⟨⟨claimed, operation⟩, done, same⟩
    cases same
    exact .claimed done
  | executing operation point =>
    simp only [workerStep, taskStep] at advanced
    split at advanced
    · cases advanced
      exact .threw
    · cases advanced
      exact .worked rfl
  | succeeding operation =>
    simp only [workerStep] at advanced
    split at advanced
    · rename_i throws
      cases advanced
      exact .unrecorded throws
    · cases advanced
      exact .succeeded
  | auditing operation =>
    simp only [workerStep] at advanced
    split at advanced
    · rename_i throws
      cases advanced
      exact .unaudited throws
    · cases advanced
      exact .ended (by rintro _ _ ⟨⟩)
  | failing operation code =>
    simp only [workerStep] at advanced
    split at advanced
    · cases advanced
      exact .ended (by rintro _ _ ⟨⟩)
    · rename_i steady
      cases advanced
      exact .failed (Bool.not_eq_true _ ▸ steady)
  | failingArchive operation code =>
    simp only [workerStep] at advanced
    split at advanced
    · cases advanced
      exact .ended (by rintro _ _ ⟨⟩)
    · cases advanced
      exact .archiveFailed
  | finding =>
    simp only [workerStep] at advanced
    split at advanced
    · cases advanced
      exact .ended (by rintro _ _ ⟨⟩)
    · cases advanced
      exact .found
  | releasing now abandoned =>
    cases abandoned with
    | nil =>
      cases advanced
      exact .ended (by rintro _ _ ⟨⟩)
    | cons operation abandoned =>
      simp only [workerStep] at advanced
      split at advanced
      · cases advanced
        exact .ended (by rintro _ _ ⟨⟩)
      · rename_i steady
        cases advanced
        exact .released (Bool.not_eq_true _ ▸ steady)
  | requesting dryRun idempotencyKey expiresAt => exact unrequested advanced
  | requestingOperation backupId type confirmation dryRun => exact unrequested advanced
  | retaining dryRun => exact unrequested advanced
  | expiring expired => exact unrequested advanced
  | queueing backupId expired => exact unrequested advanced
  | auditingRequest expired => exact unrequested advanced

/-! ## Frames -/

/-- Work on an archive changes neither the live system nor the operations. -/
theorem workStep_frame (platform : BackupPlatform) (operation : BackupOperation) (store : BackupStore)
    (draw : BackupDraw) (point : TaskPoint) :
    (workStep platform operation store draw point).1.live = store.live ∧
      (workStep platform operation store draw point).1.source = store.source ∧
      (workStep platform operation store draw point).1.operations = store.operations := by
  fun_cases workStep platform operation store draw point <;> exact ⟨rfl, rfl, rfl⟩

/-- The archive whose row an access of the work writes. -/
def TaskPoint.marks : TaskPoint -> Option Id
  | .starting backupId _ | .marking backupId | .markingDeleted backupId => some backupId
  | .recording draft => some draft.backupId
  | _ => none

theorem workStep_unmarked {platform : BackupPlatform} {operation : BackupOperation} {point : TaskPoint}
    (unmarked : point.marks = none) :
    (workStep platform operation before draw point).1.archives = before.archives := by
  fun_cases workStep platform operation before draw point <;> first | rfl | cases unmarked

theorem createBackup_ok {dryRun : Bool} {idempotencyKey : String} {expiresAt : Option Time}
    (done : createBackup environment dryRun idempotencyKey expiresAt draw before = .ok after) :
    before.archives.insert (newArchive environment (draw.fresh 0) expiresAt) = some after.archives ∧
      before.operations.insert
        (newOperation (draw.fresh 1) (draw.fresh 0) .create dryRun idempotencyKey draw.now) =
          some after.operations ∧
      after.live = before.live ∧ after.source = before.source ∧ after.backups = before.backups := by
  unfold createBackup at done
  split at done
  · cases done
  · rename_i archives inserted
    split at done
    · cases done
    · rename_i operations operationsInserted
      cases done
      exact ⟨inserted, operationsInserted, rfl, rfl, rfl⟩

theorem createOperation_ok {backupId : Id} {type : BackupOperationType} {dryRun : Bool}
    (done : createOperation backupId type dryRun draw before = .ok after) :
    before.operations.insert (newOperation (draw.fresh 0) backupId type dryRun (draw.fresh 1) draw.now) =
        some after.operations ∧ after.archives = before.archives ∧
      after.live = before.live ∧ after.source = before.source ∧ after.backups = before.backups := by
  unfold createOperation at done
  split at done
  · cases done
  · rename_i operations inserted
    cases done
    exact ⟨inserted, rfl, rfl, rfl, rfl⟩

/-- A claimed operation was there, could be claimed, and is held as it is stored. -/
theorem claimBackupOperation_ok {workerId : String} {operation : BackupOperation}
    (done : claimBackupOperation workerId draw before = .ok (after, operation)) :
    Exists fun row => row ∈ before.operations ∧ isClaimable draw.now row = true ∧
      operation = { row with
        status := .processing
        claimedBy := some workerId
        startedAt := some draw.now
        attempts := row.attempts + 1
        errorCode := none } ∧
      after.operations.rows = before.operations.rows.map (fun other =>
        if other.id = row.id then { other with
          status := .processing
          claimedBy := some workerId
          startedAt := some draw.now
          attempts := other.attempts + 1
          errorCode := none } else other) ∧
      after.archives = before.archives ∧ after.live = before.live ∧ after.source = before.source ∧
      after.backups = before.backups := by
  unfold claimBackupOperation at done
  split at done
  · cases done
  · rename_i row found
    split at done
    · rename_i claimable
      cases done
      exact ⟨row, before.operations.lookup_mem found, claimable, rfl,
        before.operations.rows_update, rfl, rfl, rfl, rfl⟩
    · cases done

theorem failArchive_frame (operation : BackupOperation) (code : String) (store : BackupStore) :
    (failArchive operation code store).live = store.live ∧
      (failArchive operation code store).source = store.source ∧
      (failArchive operation code store).operations = store.operations ∧
      (failArchive operation code store).backups = store.backups := by
  unfold failArchive
  split
  · exact ⟨rfl, rfl, rfl, rfl⟩
  · exact ⟨rfl, rfl, rfl, rfl⟩

/-- What a process does leaves the live system as it is. -/
theorem access_live (access : Access environment before draw point after next) :
    after.live = before.live ∧ after.source = before.source := by
  cases access with
  | claimed done =>
    rcases claimBackupOperation_ok done with ⟨_, _, _, _, _, _, live, source, _⟩
    exact ⟨live, source⟩
  | @worked operation point _ result done =>
    have frame := workStep_frame environment.platform operation before draw point
    rw [done] at frame
    exact ⟨frame.1, frame.2.1⟩
  | @archiveFailed operation code =>
    have frame := failArchive_frame operation code before
    exact ⟨frame.1, frame.2.1⟩
  | requested done =>
    have created := createBackup_ok done
    exact ⟨created.2.2.1, created.2.2.2.1⟩
  | operationRequested _ done =>
    have created := createOperation_ok done
    exact ⟨created.2.2.1, created.2.2.2.1⟩
  | queued done =>
    have created := createOperation_ok done
    exact ⟨created.2.2.1, created.2.2.2.1⟩
  | ended _ => exact ⟨rfl, rfl⟩
  | threw => exact ⟨rfl, rfl⟩
  | succeeded => exact ⟨rfl, rfl⟩
  | unrecorded _ => exact ⟨rfl, rfl⟩
  | unaudited _ => exact ⟨rfl, rfl⟩
  | failed _ => exact ⟨rfl, rfl⟩
  | found => exact ⟨rfl, rfl⟩
  | released _ => exact ⟨rfl, rfl⟩
  | retained => exact ⟨rfl, rfl⟩
  | expired => exact ⟨rfl, rfl⟩
  | resumed => exact ⟨rfl, rfl⟩

end Backups
end DigitalSolutions

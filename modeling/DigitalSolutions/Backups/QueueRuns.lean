import DigitalSolutions.Backups.OperationQueue

namespace DigitalSolutions
namespace Backups

open Foundation Persistence

/-!
# Runs of the operation queue

An operation is given up to another worker, or recorded a second time, only
where a worker is taken for dead that is not, where the audit of a success
throws, or where a deletion is never queued or has failed for good.
-/

variable {environment : BackupEnvironment} {before after : BackupStore} {draw : BackupDraw}
variable {crowd next : Crowd BackupStore BackupPoint}
variable {operation : BackupOperation} {move : BackupMove} {backupId : Id}
variable {platform : BackupPlatform}

abbrev BackupMove := CrowdMove BackupCall BackupDraw LiveEvent

/-! ## Deletions of expired archives -/

/-- A deletion of the archive that is waiting, running or to be retried. -/
structure Deletion (table : Table BackupOperation) (operation : BackupOperation) (backupId : Id) : Prop where
  member : operation ∈ table
  type : operation.type = .deleteExpired
  backupId : operation.backupId = some backupId
  live : operation.status = .pending ∨ operation.status = .processing ∨ operation.status = .retrying

/-- No worker has come to the end of the operation without having recorded it. -/
def Unfinished (crowd : Crowd BackupStore BackupPoint) (id : Id) : Prop :=
  forall process operation, crowd.processes process = some (.succeeding operation) -> operation.id ≠ id

/-- Another deletion of the archive will still be worked on, or be queued. -/
def DeletedOtherwise (crowd : Crowd BackupStore BackupPoint) (id backupId : Id) : Prop :=
  (Exists fun operation => operation.id ≠ id ∧ Deletion crowd.store.operations operation backupId ∧
    Unfinished crowd operation.id) ∨
  Exists fun process => Exists fun expired => crowd.processes process = some (.queueing backupId expired)

/-- The operation may fail for good: it is not the only deletion of an expired
archive. -/
def Dispensable (crowd : Crowd BackupStore BackupPoint) (operation : BackupOperation) : Prop :=
  operation.type = .deleteExpired -> forall archive, archive ∈ crowd.store.archives ->
    operation.backupId = some archive.id -> archive.status = .expired ->
    DeletedOtherwise crowd operation.id archive.id

/-! ## Undisputed moves -/

/-- An operation is released as it was found, and when no worker holds it. -/
structure Abandoned (crowd : Crowd BackupStore BackupPoint) (operation : BackupOperation) : Prop where
  member : operation ∈ crowd.store.operations
  unheld : forall process point held, crowd.processes process = some point -> point.held = some held ->
    held.id ≠ operation.id
  exhausted : operation.maxAttempts ≤ operation.attempts -> Dispensable crowd operation

/-- The audit of a success does not throw, no worker is taken for dead that is
not, and no deletion is lost between the two commits of the retention job or by
failing for good. -/
def Undisputed (crowd : Crowd BackupStore BackupPoint) : BackupMove -> Prop
  | .advance process draw =>
    match crowd.processes process with
    | some (.auditing _) => draw.throws = false
    | some (.queueing _ _) => draw.throws = false
    | some (.releasing _ (operation :: _)) => draw.throws = false -> Abandoned crowd operation
    | some (.failing operation code) =>
      draw.throws = false -> isRetried operation code = false -> Dispensable crowd operation
    | _ => True
  | .stop process => forall backupId expired, crowd.processes process ≠ some (.queueing backupId expired)
  | _ => True

/-! ## The claims of a run -/

structure Exclusive (crowd : Crowd BackupStore BackupPoint) : Prop where
  claims : Claims crowd
  bounded : Bounded crowd.store.operations
  found : forall process now abandoned, crowd.processes process = some (.releasing now abandoned) ->
    forall operation, operation ∈ abandoned -> operation.status = .processing

theorem access_releasing {point : BackupPoint} {now : Time} {abandoned : List BackupOperation}
    (access : Access environment before draw point after (some (.releasing now abandoned))) :
    abandoned = before.operations.select (isAbandoned now) ∨
      Exists fun operation => point = .releasing now (operation :: abandoned) := by
  generalize isNext : some (BackupPoint.releasing now abandoned) = next at access
  cases access with
  | found =>
    cases isNext
    exact Or.inl rfl
  | released steady =>
    cases isNext
    exact Or.inr ⟨_, rfl⟩
  | @worked operation point _ result done =>
    cases result with
    | next point => cases isNext
    | done => cases isNext
    | thrown code => cases isNext
  | _ => cases isNext

theorem undisputed_audited {process : Nat} {point : BackupPoint} (here : crowd.processes process = some point)
    (undisputed : Undisputed crowd (.advance process draw)) :
    forall operation, point = .auditing operation -> draw.throws = false := by
  rintro operation rfl
  simp only [Undisputed, here] at undisputed
  exact undisputed

theorem undisputed_released {process : Nat} {point : BackupPoint} (here : crowd.processes process = some point)
    (undisputed : Undisputed crowd (.advance process draw)) :
    forall now operation abandoned, point = .releasing now (operation :: abandoned) ->
      draw.throws = false -> Abandoned crowd operation := by
  rintro now operation abandoned rfl
  simp only [Undisputed, here] at undisputed
  exact undisputed

/-- The turn of an undisputed move. -/
theorem Exclusive.turn {process : Nat} {point : BackupPoint} {later : Option BackupPoint}
    (exclusive : Exclusive crowd) (undisputed : Undisputed crowd (.advance process draw))
    (here : crowd.processes process = some point)
    (access : Access environment crowd.store draw point after later) :
    Turn draw crowd.store.operations after.operations point later := by
  apply access.turn
  · intro operation isHeld
    exact exclusive.claims.held process point operation here isHeld
  · exact undisputed_audited here undisputed
  · intro now operation abandoned isPoint steady
    exact (undisputed_released here undisputed now operation abandoned isPoint steady).member

theorem Exclusive.advance {process : Nat} {point : BackupPoint} {later : Option BackupPoint}
    (exclusive : Exclusive crowd) (undisputed : Undisputed crowd (.advance process draw))
    (here : crowd.processes process = some point)
    (access : Access environment crowd.store draw point after later) :
    Exclusive (crowd.place after process later) where
  claims := by
    apply (exclusive.turn undisputed here access).claims exclusive.claims here
    intro now operation abandoned isPoint steady
    exact (undisputed_released here undisputed now operation abandoned isPoint steady).unheld
  bounded := (exclusive.turn undisputed here access).bounded exclusive.bounded
  found other now abandoned stands operation member := by
    rcases eq_some_of_update rfl stands with ⟨rfl, rfl⟩ | ⟨_, already⟩
    · rcases access_releasing access with rfl | ⟨earlier, rfl⟩
      · have chosen := (Table.mem_select _).mp member
        rw [isAbandoned, Bool.and_eq_true, decide_eq_true_eq] at chosen
        exact chosen.2.1
      · exact exclusive.found other now _ here operation (List.mem_cons_of_mem earlier member)
    · exact exclusive.found other now abandoned already operation member

theorem enter_held (call : BackupCall) : ((backupProtocol environment).enter call).held = none := by
  cases call <;> rfl

theorem liveEvent_frame (store : BackupStore) (event : LiveEvent) :
    (liveEvent store event).archives = store.archives ∧
      (liveEvent store event).operations = store.operations ∧
      (liveEvent store event).backups = store.backups := by
  cases event <;> exact ⟨rfl, rfl, rfl⟩

theorem Exclusive.step (exclusive : Exclusive crowd) (undisputed : Undisputed crowd move)
    (accepted : (backupProtocol environment).machine.step crowd move = .ok next) : Exclusive next := by
  cases move with
  | start process call =>
    rcases Protocol.step_start accepted with ⟨idle, rfl⟩
    have isIdle : forall later operation, some ((backupProtocol environment).enter call) = some later ->
        later.held ≠ some operation := by
      rintro later operation ⟨⟩
      rw [enter_held]
      rintro ⟨⟩
    refine ⟨?_, exclusive.bounded, ?_⟩
    · apply exclusive.claims.place
      · intro row member _
        exact member
      · intro later operation isNext isHeld
        exact absurd isHeld (isIdle later operation isNext)
      · intro later operation isNext isHeld
        exact absurd isHeld (isIdle later operation isNext)
    · intro other now abandoned stands
      rcases eq_some_of_update rfl stands with ⟨_, isPoint⟩ | ⟨_, already⟩
      · cases call <;> cases isPoint
      · exact exclusive.found other now abandoned already
  | advance process draw =>
    rcases Protocol.step_advance accepted with ⟨point, store, later, here, advanced, rfl⟩
    exact exclusive.advance undisputed here (workerStep_access advanced)
  | stop process =>
    rw [Protocol.step_stop accepted]
    refine ⟨?_, exclusive.bounded, ?_⟩
    · apply exclusive.claims.place
      · intro row member _
        exact member
      · rintro later operation ⟨⟩
      · rintro later operation ⟨⟩
    · intro other now abandoned stands
      rcases eq_some_of_update rfl stands with ⟨_, isPoint⟩ | ⟨_, already⟩
      · cases isPoint
      · exact exclusive.found other now abandoned already
  | ambient event =>
    rcases Protocol.step_ambient accepted with ⟨changed, same⟩
    have kept : next.store.operations = crowd.store.operations := by
      rw [← Except.ok.inj changed]
      exact (liveEvent_frame crowd.store event).2.1
    refine ⟨⟨?_, ?_⟩, ?_, ?_⟩
    · rw [same, kept]
      exact exclusive.claims.held
    · rw [same]
      exact exclusive.claims.unique
    · rw [kept]
      exact exclusive.bounded
    · rw [same]
      exact exclusive.found

/-! ## Expired archives -/

/-- What the work on the deletion of an archive is about. -/
def DeletionTask (operation : BackupOperation) : TaskPoint -> Prop
  | .loading => True
  | .listingObjects backupId _ | .deleting backupId _ | .markingDeleted backupId =>
    operation.backupId = some backupId
  | _ => False

theorem archive_id_of_lookup {store : BackupStore} {archive : BackupArchive}
    (found : store.archives.lookup (.id backupId) = some archive) : archive.id = backupId := by
  have occupied := store.archives.lookup_key found
  simp only [Keyed.keys, List.mem_cons, BackupArchive.Key.id.injEq, reduceCtorEq, List.not_mem_nil,
    or_false] at occupied
  exact occupied.symm

theorem DeletionTask.moved {point later : TaskPoint} (task : DeletionTask operation point)
    (isDeletion : operation.type = .deleteExpired)
    (moved : (workStep platform operation before draw point).2 = .next later) :
    DeletionTask operation later := by
  cases point with
  | loading =>
    simp only [workStep] at moved
    split at moved
    · cases moved
    · rename_i backupId isBackup
      split at moved
      · cases moved
      · rename_i archive found
        simp only [loaded, isDeletion] at moved
        split at moved
        · cases moved
        · cases moved
          rw [DeletionTask, isBackup, archive_id_of_lookup found]
  | listingObjects backupId storagePrefix =>
    cases moved
    exact task
  | deleting backupId keys =>
    cases keys with
    | nil =>
      cases moved
      exact task
    | cons key keys =>
      cases moved
      exact task
  | markingDeleted backupId => cases moved
  | _ => exact task.elim

/-- A deletion is done when its archive is marked as deleted. -/
theorem DeletionTask.ended {point : TaskPoint} (task : DeletionTask operation point)
    (isDeletion : operation.type = .deleteExpired)
    (ended : (workStep platform operation before draw point).2 = .done) :
    Exists fun backupId => point = .markingDeleted backupId ∧ operation.backupId = some backupId := by
  cases point with
  | loading =>
    simp only [workStep] at ended
    split at ended
    · cases ended
    · split at ended
      · cases ended
      · simp only [loaded, isDeletion] at ended
        split at ended
        · cases ended
        · cases ended
  | listingObjects backupId storagePrefix => cases ended
  | deleting backupId keys => cases keys <;> cases ended
  | markingDeleted backupId => exact ⟨backupId, rfl, task⟩
  | _ => exact task.elim

/-- An archive that is expired after others have been marked otherwise. -/
theorem expired_of_rows {earlier later : Table BackupArchive} {archive : BackupArchive}
    {set : BackupArchive -> BackupArchive}
    (rows : later.rows = earlier.rows.map fun row => if row.id = backupId then set row else row)
    (otherwise : forall row, (set row).status ≠ .expired) (member : archive ∈ later)
    (expired : archive.status = .expired) : archive ∈ earlier ∧ archive.id ≠ backupId := by
  rcases (Table.mem_of_rows rows).mp member with ⟨old, oldMember, rfl⟩
  by_cases same : old.id = backupId
  · rw [if_pos same] at expired
    exact absurd expired (otherwise old)
  · rw [if_neg same]
    exact ⟨oldMember, same⟩

theorem workStep_expired {point : TaskPoint} {archive : BackupArchive}
    (member : archive ∈ (workStep platform operation before draw point).1.archives)
    (expired : archive.status = .expired) :
    archive ∈ before.archives ∧ forall backupId, point.marks = some backupId -> archive.id ≠ backupId := by
  cases isMarked : point.marks with
  | none =>
    rw [workStep_unmarked isMarked] at member
    refine ⟨member, ?_⟩
    rintro _ ⟨⟩
  | some marked =>
    have kept : archive ∈ before.archives ∧ archive.id ≠ marked := by
      cases point with
      | starting backupId storagePrefix =>
        cases isMarked
        exact expired_of_rows before.archives.rows_update (by rintro row ⟨⟩) member expired
      | recording draft =>
        cases isMarked
        refine expired_of_rows before.archives.rows_update ?_ member expired
        intro row isExpired
        simp only at isExpired
        split at isExpired
        · cases isExpired
        · cases isExpired
      | marking backupId =>
        cases isMarked
        exact expired_of_rows before.archives.rows_update (by rintro row ⟨⟩) member expired
      | markingDeleted backupId =>
        cases isMarked
        exact expired_of_rows before.archives.rows_update (by rintro row ⟨⟩) member expired
      | _ => cases isMarked
    refine ⟨kept.1, ?_⟩
    rintro backupId ⟨⟩
    exact kept.2

theorem access_succeeding {point : BackupPoint}
    (access : Access environment before draw point after (some (.succeeding operation))) :
    Exists fun task => point = .executing operation task ∧
      workStep environment.platform operation before draw task = (after, .done) := by
  generalize isNext : some (BackupPoint.succeeding operation) = next at access
  cases access with
  | @worked worked task _ result done =>
    cases result with
    | next task => cases isNext
    | done =>
      cases isNext
      exact ⟨task, rfl, done⟩
    | thrown code => cases isNext
  | _ => cases isNext

theorem access_executing {point : BackupPoint} {later : TaskPoint}
    (access : Access environment before draw point after (some (.executing operation later))) :
    later = .loading ∨ Exists fun task => point = .executing operation task ∧
      workStep environment.platform operation before draw task = (after, .next later) := by
  generalize isNext : some (BackupPoint.executing operation later) = next at access
  cases access with
  | claimed done =>
    cases isNext
    exact Or.inl rfl
  | @worked worked task _ result done =>
    cases result with
    | next next =>
      cases isNext
      exact Or.inr ⟨task, rfl, done⟩
    | done => cases isNext
    | thrown code => cases isNext
  | _ => cases isNext

theorem failedStatus_ne {code : String} {status : BackupArchiveStatus}
    (failed : failedStatus operation code = some status) : status ≠ .expired := by
  rintro rfl
  unfold failedStatus at failed
  split at failed
  · split at failed <;> cases failed
  · split at failed <;> cases failed

/-- An archive becomes expired only by a retention run, which queues its deletion
next. -/
theorem access_expired {point : BackupPoint} {next : Option BackupPoint} {archive : BackupArchive}
    (access : Access environment before draw point after next) (member : archive ∈ after.archives)
    (expired : archive.status = .expired) :
    (Exists fun others => next = some (.queueing archive.id others)) ∨ archive ∈ before.archives := by
  cases access with
  | claimed done =>
    rcases claimBackupOperation_ok done with ⟨_, _, _, _, _, same, _⟩
    rw [same] at member
    exact Or.inr member
  | @worked operation task _ result done =>
    have isAfter : (workStep environment.platform operation before draw task).1 = after :=
      congrArg Prod.fst done
    rw [← isAfter] at member
    exact Or.inr (workStep_expired member expired).1
  | @archiveFailed operation code =>
    unfold failArchive at member
    split at member
    · rename_i backupId status _ failed
      exact Or.inr (expired_of_rows before.archives.rows_update (fun _ => failedStatus_ne failed) member expired).1
    · exact Or.inr member
  | requested done =>
    rcases (Table.mem_insert (createBackup_ok done).1).mp member with old | rfl
    · exact Or.inr old
    · cases expired
  | operationRequested _ done =>
    rw [(createOperation_ok done).2.1] at member
    exact Or.inr member
  | @expired backupId others =>
    rcases (Table.mem_of_rows before.archives.rows_update).mp member with ⟨old, oldMember, isOld⟩
    by_cases same : old.id = backupId
    · rw [if_pos same] at isOld
      rw [← isOld]
      exact Or.inl ⟨others, by rw [same]⟩
    · rw [if_neg same] at isOld
      exact Or.inr (isOld ▸ oldMember)
  | queued done =>
    rw [(createOperation_ok done).2.1] at member
    exact Or.inr member
  | _ => exact Or.inr member

/-! ## Every expired archive has its deletion -/

def Covered (crowd : Crowd BackupStore BackupPoint) (backupId : Id) : Prop :=
  (Exists fun operation => Deletion crowd.store.operations operation backupId ∧
    Unfinished crowd operation.id) ∨
  Exists fun process => Exists fun expired => crowd.processes process = some (.queueing backupId expired)

/-- A deletion is still one after another operation, or its own, has been
rewritten. -/
theorem Deletion.rewritten {before after : Table BackupOperation} {target later : BackupOperation}
    (deletion : Deletion before operation backupId) (rewritten : Rewritten before after target later)
    (live : operation.id = target.id ->
      later.status = .pending ∨ later.status = .processing ∨ later.status = .retrying) :
    Exists fun kept => kept.id = operation.id ∧ Deletion after kept backupId := by
  by_cases same : operation.id = target.id
  · have isTarget := operation_eq deletion.member rewritten.member same
    refine ⟨later, rewritten.id.trans same.symm, rewritten.later_mem, ?_, ?_, live same⟩
    · rw [rewritten.type, ← isTarget]
      exact deletion.type
    · rw [rewritten.backupId, ← isTarget]
      exact deletion.backupId
  · exact ⟨operation, rfl, rewritten.keeps deletion.member same, deletion.type, deletion.backupId, deletion.live⟩

theorem Unfinished.place {process : Nat} {later : Option BackupPoint} {id : Id}
    (unfinished : Unfinished crowd id)
    (finishing : forall operation, later = some (.succeeding operation) -> operation.id ≠ id) :
    Unfinished (crowd.place after process later) id := by
  intro other operation stands
  rcases eq_some_of_update rfl stands with ⟨_, isLater⟩ | ⟨_, already⟩
  · exact finishing operation isLater
  · exact unfinished other operation already

/-- What a deletion and a retention run elsewhere are after a process has moved. -/
theorem Covered.of_kept {process : Nat} {later : Option BackupPoint} {kept : BackupOperation}
    (sameId : kept.id = operation.id) (deletion : Deletion after.operations kept backupId)
    (unfinished : Unfinished crowd operation.id)
    (finishing : forall held, later = some (.succeeding held) -> held.id ≠ operation.id) :
    Covered (crowd.place after process later) backupId := by
  refine Or.inl ⟨kept, deletion, ?_⟩
  rw [sameId]
  exact unfinished.place finishing

theorem Covered.of_queueing {process other : Nat} {later : Option BackupPoint} {expired : List Id}
    (stands : crowd.processes other = some (.queueing backupId expired)) (different : other ≠ process) :
    Covered (crowd.place after process later) backupId := by
  refine Or.inr ⟨other, expired, ?_⟩
  rw [← stands]
  exact Function.update_of_ne different _ _

/-- The deletion that fails for good was not the only one. -/
theorem DeletedOtherwise.covered {process : Nat} {point : BackupPoint} {later : Option BackupPoint}
    {target failed : BackupOperation} {id : Id} (otherwise : DeletedOtherwise crowd id backupId)
    (isTarget : target.id = id)
    (rewritten : Rewritten crowd.store.operations after.operations target failed)
    (here : crowd.processes process = some point)
    (elsewhere : forall backupId expired, point ≠ .queueing backupId expired)
    (finishing : forall held, later ≠ some (.succeeding held)) :
    Covered (crowd.place after process later) backupId := by
  rcases otherwise with ⟨operation, different, deletion, unfinished⟩ | ⟨other, expired, stands⟩
  · rcases deletion.rewritten rewritten (fun same => absurd (same.trans isTarget) different) with
      ⟨kept, sameId, keptDeletion⟩
    exact .of_kept sameId keptDeletion unfinished fun held isLater => absurd isLater (finishing held)
  · apply Covered.of_queueing stands
    rintro rfl
    rw [stands] at here
    exact elsewhere backupId expired (Option.some.inj here).symm

structure Queued (crowd : Crowd BackupStore BackupPoint) : Prop where
  tasks : forall process operation task, crowd.processes process = some (.executing operation task) ->
    operation.type = .deleteExpired -> DeletionTask operation task
  covered : forall archive, archive ∈ crowd.store.archives -> archive.status = .expired ->
    Covered crowd archive.id

theorem undisputed_queueing {process : Nat} {point : BackupPoint} (here : crowd.processes process = some point)
    (undisputed : Undisputed crowd (.advance process draw)) :
    forall backupId expired, point = .queueing backupId expired -> draw.throws = false := by
  rintro backupId expired rfl
  simp only [Undisputed, here] at undisputed
  exact undisputed

theorem undisputed_failing {process : Nat} {point : BackupPoint} (here : crowd.processes process = some point)
    (undisputed : Undisputed crowd (.advance process draw)) :
    forall operation code, point = .failing operation code -> draw.throws = false ->
      isRetried operation code = false -> Dispensable crowd operation := by
  rintro operation code rfl
  simp only [Undisputed, here] at undisputed
  exact undisputed

section Advance

variable {process : Nat} {point : BackupPoint} {later : Option BackupPoint} {archive : BackupArchive}

/-- A worker that comes to the end of a deletion has marked its archive. -/
theorem Queued.finishing (queued : Queued crowd) (exclusive : Exclusive crowd)
    (here : crowd.processes process = some point)
    (access : Access environment crowd.store draw point after later) (member : archive ∈ after.archives)
    (expired : archive.status = .expired)
    (deletion : Deletion crowd.store.operations operation archive.id) :
    forall held, later = some (.succeeding held) -> held.id ≠ operation.id := by
  rintro held rfl same
  rcases access_succeeding access with ⟨task, rfl, worked⟩
  rcases exclusive.claims.held process _ held here rfl with ⟨row, rowMember, heldAs⟩
  have isRow := operation_eq rowMember deletion.member (heldAs.id.trans same)
  subst isRow
  have isDeletion : held.type = .deleteExpired := heldAs.type.symm.trans deletion.type
  have ended : (workStep environment.platform held crowd.store draw task).2 = .done :=
    congrArg Prod.snd worked
  rcases (queued.tasks process held task here isDeletion).ended isDeletion ended with
    ⟨backupId, rfl, isBackup⟩
  have isAfter : (workStep environment.platform held crowd.store draw (.markingDeleted backupId)).1 = after :=
    congrArg Prod.fst worked
  rw [← isAfter] at member
  apply (workStep_expired member expired).2 backupId rfl
  apply Option.some.inj
  rw [← deletion.backupId, ← isBackup]
  exact heldAs.backupId

/-- The deletion of an archive that stays expired is still one. -/
theorem Queued.deletion (queued : Queued crowd) (exclusive : Exclusive crowd)
    (undisputed : Undisputed crowd (.advance process draw)) (here : crowd.processes process = some point)
    (access : Access environment crowd.store draw point after later)
    (old : archive ∈ crowd.store.archives) (member : archive ∈ after.archives)
    (expired : archive.status = .expired)
    (deletion : Deletion crowd.store.operations operation archive.id)
    (unfinished : Unfinished crowd operation.id) :
    Covered (crowd.place after process later) archive.id := by
  have finishing := queued.finishing exclusive here access member expired deletion
  have turn := exclusive.turn undisputed here access
  cases turn with
  | kept same _ =>
    refine .of_kept rfl ⟨?_, deletion.type, deletion.backupId, deletion.live⟩ unfinished finishing
    rw [same]
    exact deletion.member
  | added inserted _ =>
    exact .of_kept rfl ⟨(Table.mem_insert inserted).mpr (Or.inl deletion.member), deletion.type,
      deletion.backupId, deletion.live⟩ unfinished finishing
  | claimed _ rewritten status _ =>
    rcases deletion.rewritten rewritten (fun _ => Or.inr (Or.inl status)) with ⟨kept, sameId, keptDeletion⟩
    exact .of_kept sameId keptDeletion unfinished finishing
  | @succeeded held row recorded heldAs rewritten status _ =>
    rcases deletion.rewritten rewritten
      (fun same => absurd (heldAs.id.symm.trans same.symm) (unfinished process held here)) with
      ⟨kept, sameId, keptDeletion⟩
    exact .of_kept sameId keptDeletion unfinished finishing
  | @failed held row recorded code steady heldAs rewritten status _ =>
    cases retried : isRetried held code with
    | true =>
      rw [retried, if_pos rfl] at status
      rcases deletion.rewritten rewritten (fun _ => Or.inr (Or.inr status)) with ⟨kept, sameId, keptDeletion⟩
      exact .of_kept sameId keptDeletion unfinished finishing
    | false =>
      by_cases same : operation.id = row.id
      · -- The deletion fails for good.
        have isRow := operation_eq deletion.member rewritten.member same
        subst isRow
        have dispensable := undisputed_failing here undisputed held code rfl steady retried
        have otherwise := dispensable (heldAs.type.symm.trans deletion.type) archive old
          (heldAs.backupId.symm.trans deletion.backupId) expired
        exact otherwise.covered heldAs.id rewritten here (by rintro _ _ ⟨⟩) (by rintro _ ⟨⟩)
      · rcases deletion.rewritten rewritten (fun isSame => absurd isSame same) with
          ⟨kept, sameId, keptDeletion⟩
        exact .of_kept sameId keptDeletion unfinished finishing
  | @released now found recorded abandoned steady rewritten status _ =>
    by_cases exhausted : found.maxAttempts ≤ found.attempts
    · by_cases same : operation.id = found.id
      · -- The deletion is given up with its last attempt.
        have isFound := operation_eq deletion.member rewritten.member same
        subst isFound
        have dispensable := (undisputed_released here undisputed now operation abandoned rfl steady).exhausted exhausted
        have otherwise := dispensable deletion.type archive old deletion.backupId expired
        exact otherwise.covered rfl rewritten here (by rintro _ _ ⟨⟩) (by rintro _ ⟨⟩)
      · rcases deletion.rewritten rewritten (fun isSame => absurd isSame same) with
          ⟨kept, sameId, keptDeletion⟩
        exact .of_kept sameId keptDeletion unfinished finishing
    · rw [if_neg exhausted] at status
      rcases deletion.rewritten rewritten (fun _ => Or.inr (Or.inr status)) with ⟨kept, sameId, keptDeletion⟩
      exact .of_kept sameId keptDeletion unfinished finishing

/-- A retention run queues the deletion of the archive that it has marked. -/
theorem Queued.queueing {others : List Id} (exclusive : Exclusive crowd)
    (undisputed : Undisputed crowd (.advance process draw))
    (here : crowd.processes process = some (.queueing backupId others))
    (access : Access environment crowd.store draw (.queueing backupId others) after later) :
    Covered (crowd.place after process later) backupId := by
  cases access with
  | ended gaveUp =>
    have throws := gaveUp backupId others rfl
    rw [undisputed_queueing here undisputed backupId others rfl] at throws
    cases throws
  | queued done =>
    have inserted := (createOperation_ok done).1
    refine Or.inl ⟨_, ⟨(Table.mem_insert inserted).mpr (Or.inr rfl), rfl, rfl, Or.inl rfl⟩, ?_⟩
    apply Unfinished.place
    · -- Nobody holds an operation that was not there before.
      intro other held stands same
      rcases exclusive.claims.held other _ held stands rfl with ⟨row, member, heldAs⟩
      have apart := Table.fits_of_insert inserted row member
      apply apart (.id row.id) List.mem_cons_self
      rw [heldAs.id, same]
      exact List.mem_cons_self
    · rintro held ⟨⟩

theorem Queued.advance (queued : Queued crowd) (exclusive : Exclusive crowd)
    (undisputed : Undisputed crowd (.advance process draw)) (here : crowd.processes process = some point)
    (access : Access environment crowd.store draw point after later) :
    Queued (crowd.place after process later) where
  tasks other operation task stands isDeletion := by
    rcases eq_some_of_update rfl stands with ⟨rfl, rfl⟩ | ⟨_, already⟩
    · rcases access_executing access with rfl | ⟨earlier, rfl, worked⟩
      · trivial
      · have moved : (workStep environment.platform operation crowd.store draw earlier).2 = .next task :=
          congrArg Prod.snd worked
        exact (queued.tasks other operation earlier here isDeletion).moved isDeletion moved
    · exact queued.tasks other operation task already isDeletion
  covered archive member expired := by
    rcases access_expired access member expired with ⟨others, rfl⟩ | old
    · exact Or.inr ⟨process, others, Function.update_self _ _ _⟩
    · rcases queued.covered archive old expired with ⟨operation, deletion, unfinished⟩ | ⟨other, others, stands⟩
      · exact queued.deletion exclusive undisputed here access old member expired deletion unfinished
      · by_cases same : other = process
        · subst same
          rw [stands] at here
          cases here
          exact Queued.queueing exclusive undisputed stands access
        · exact .of_queueing stands same

end Advance

/-- What the deletions rely on, while no process moves that works on one. -/
theorem Queued.place {process : Nat} {later : Option BackupPoint} (queued : Queued crowd)
    (here : forall backupId expired, crowd.processes process ≠ some (.queueing backupId expired))
    (idle : forall operation, later ≠ some (.succeeding operation))
    (loading : forall operation task, later ≠ some (.executing operation task)) :
    Queued (crowd.place crowd.store process later) where
  tasks other operation task stands isDeletion := by
    rcases eq_some_of_update rfl stands with ⟨_, isLater⟩ | ⟨_, already⟩
    · exact absurd isLater (loading operation task)
    · exact queued.tasks other operation task already isDeletion
  covered archive member expired := by
    rcases queued.covered archive member expired with ⟨operation, deletion, unfinished⟩ | ⟨other, others, stands⟩
    · exact .of_kept rfl deletion unfinished fun held isLater => absurd isLater (idle held)
    · apply Covered.of_queueing stands
      rintro rfl
      exact here archive.id others stands

theorem Queued.step (queued : Queued crowd) (exclusive : Exclusive crowd)
    (undisputed : Undisputed crowd move)
    (accepted : (backupProtocol environment).machine.step crowd move = .ok next) : Queued next := by
  cases move with
  | start process call =>
    rcases Protocol.step_start accepted with ⟨idle, rfl⟩
    apply queued.place
    · intro backupId expired
      rw [idle]
      rintro ⟨⟩
    · intro operation
      cases call <;> rintro ⟨⟩
    · intro operation task
      cases call <;> rintro ⟨⟩
  | advance process draw =>
    rcases Protocol.step_advance accepted with ⟨point, store, later, here, advanced, rfl⟩
    exact queued.advance exclusive undisputed here (workerStep_access advanced)
  | stop process =>
    rw [Protocol.step_stop accepted]
    apply queued.place undisputed
    · rintro operation ⟨⟩
    · rintro operation task ⟨⟩
  | ambient event =>
    rcases Protocol.step_ambient accepted with ⟨changed, same⟩
    rcases liveEvent_frame crowd.store event with ⟨archives, operations, _⟩
    rw [Except.ok.inj changed] at archives operations
    refine ⟨?_, ?_⟩
    · rw [same]
      exact queued.tasks
    · intro archive member expired
      rw [archives] at member
      unfold Covered Unfinished
      rw [same, operations]
      exact queued.covered archive member expired

/-! ## The queue -/

/-- An installation on which nothing has been backed up. -/
def freshStore (live : LiveDatabase) (source : InsertionMap String Bytes) : BackupStore :=
  ⟨live, source, ∅, ∅, InsertionMap.empty⟩

/-- Where a run of the service arrives. -/
def backupRun (environment : BackupEnvironment) (store : BackupStore) (moves : List BackupMove) :
    Crowd BackupStore BackupPoint :=
  (backupProtocol environment).machine.run (Crowd.opening store) moves

/-- How often an operation is claimed, and so executed. -/
def executions (environment : BackupEnvironment) (crowd : Crowd BackupStore BackupPoint)
    (moves : List BackupMove) (id : Id) : Nat :=
  (backupProtocol environment).machine.occurrences (claims id) crowd moves

/-- What is expected of the queue in a run. -/
structure QueueKept (environment : BackupEnvironment) (store : BackupStore) (moves : List BackupMove) :
    Prop where
  /-- Each operation is executed at most as often as it may be attempted. -/
  attempts : forall operation, operation ∈ (backupRun environment store moves).store.operations ->
    executions environment (Crowd.opening store) moves operation.id ≤ operation.maxAttempts
  /-- What is recorded as succeeded stays as it is, and is not executed again. -/
  succeeded : forall past rest, moves = past ++ rest -> forall row,
    row ∈ (backupRun environment store past).store.operations -> row.status = .succeeded ->
    row ∈ (backupRun environment store moves).store.operations ∧
      executions environment (backupRun environment store past) rest row.id = 0
  /-- A worker whose claim has been recovered writes nothing about the operation. -/
  recovered : forall past process draw rest, moves = past ++ .advance process draw :: rest ->
    forall point operation row, (backupRun environment store past).processes process = some point ->
    point.held = some operation -> row ∈ (backupRun environment store past).store.operations ->
    row.id = operation.id -> row.status ≠ .processing ∨ row.attempts ≠ operation.attempts ->
    row ∈ (backupRun environment store (past ++ [.advance process draw])).store.operations
  /-- An expired archive has a deletion, or the retention run that marked it is
  about to queue one. -/
  expired : forall archive, archive ∈ (backupRun environment store moves).store.archives ->
    archive.status = .expired ->
    (Exists fun operation =>
      Deletion (backupRun environment store moves).store.operations operation archive.id) ∨
    Exists fun process => Exists fun others =>
      (backupRun environment store moves).processes process = some (.queueing archive.id others)

/-! ## Undisputed runs -/

structure Standing (crowd : Crowd BackupStore BackupPoint) : Prop where
  exclusive : Exclusive crowd
  queued : Queued crowd

theorem standing_fresh (live : LiveDatabase) (source : InsertionMap String Bytes) :
    Standing (Crowd.opening (freshStore live source)) where
  exclusive := by
    refine ⟨⟨?_, ?_⟩, ?_, ?_⟩
    · rintro process point operation ⟨⟩
    · rintro left right leftPoint rightPoint leftOperation rightOperation ⟨⟩
    · intro row member
      exact absurd member (Table.not_mem_empty row)
    · rintro process now abandoned ⟨⟩
  queued := by
    refine ⟨?_, ?_⟩
    · rintro process operation task ⟨⟩
    · intro archive member
      exact absurd member (Table.not_mem_empty archive)

theorem Standing.step (standing : Standing crowd) (undisputed : Undisputed crowd move)
    (accepted : (backupProtocol environment).machine.step crowd move = .ok next) : Standing next :=
  ⟨standing.exclusive.step undisputed accepted, standing.queued.step standing.exclusive undisputed accepted⟩

/-- An operation that is recorded as succeeded is left as it is. -/
theorem Standing.settled {row : BackupOperation} (standing : Standing crowd)
    (undisputed : Undisputed crowd move)
    (accepted : (backupProtocol environment).machine.step crowd move = .ok next)
    (member : row ∈ crowd.store.operations) (succeeded : row.status = .succeeded) :
    row ∈ next.store.operations := by
  cases move with
  | start process call =>
    rcases Protocol.step_start accepted with ⟨_, rfl⟩
    exact member
  | advance process draw =>
    rcases Protocol.step_advance accepted with ⟨point, store, later, here, advanced, rfl⟩
    have turn := standing.exclusive.turn undisputed here (workerStep_access advanced)
    apply turn.settled member
    · intro operation isHeld same
      rcases standing.exclusive.claims.held process point operation here isHeld with ⟨held, heldMember, heldAs⟩
      rw [operation_eq member heldMember (same.symm.trans heldAs.id.symm)]
      exact heldAs.status
    · rintro now operation abandoned rfl
      exact standing.exclusive.found process now _ here operation List.mem_cons_self
    · rw [succeeded]
      decide
  | stop process =>
    rw [Protocol.step_stop accepted]
    exact member
  | ambient event =>
    have changed := (Protocol.step_ambient accepted).1
    rw [← Except.ok.inj changed, (liveEvent_frame crowd.store event).2.1]
    exact member

theorem claims_eq_true {id : Id} (isClaim : claims id crowd move = true) :
    Exists fun process => Exists fun draw => Exists fun workerId => Exists fun after =>
      Exists fun operation => move = .advance process draw ∧
        crowd.processes process = some (.claiming workerId) ∧
        claimBackupOperation workerId draw crowd.store = .ok (after, operation) ∧ operation.id = id := by
  unfold claims at isClaim
  split at isClaim
  · rename_i process draw
    split at isClaim
    · rename_i workerId here
      split at isClaim
      · rename_i after operation done
        exact ⟨process, draw, workerId, after, operation, rfl, here, done, of_decide_eq_true isClaim⟩
      · cases isClaim
    · cases isClaim
  · cases isClaim

/-- Each claim of an operation is counted in its row, and no count is lost. -/
theorem Standing.attempts_grow (standing : Standing crowd) (undisputed : Undisputed crowd move) (id : Id) :
    attemptsOf crowd.store.operations id + (if claims id crowd move then 1 else 0) ≤
      attemptsOf ((backupProtocol environment).machine.attempt crowd move).store.operations id := by
  cases isClaim : claims id crowd move with
  | true =>
    rcases claims_eq_true isClaim with ⟨process, draw, workerId, after, operation, rfl, here, done, rfl⟩
    rcases claimBackupOperation_ok done with ⟨row, member, _, isClaimed, rows, _⟩
    have rewritten := rewritten_of_rows member rfl rows rfl rfl rfl rfl
    rw [← isClaimed] at rewritten
    have accepted : (backupProtocol environment).machine.step crowd (.advance process draw) =
        .ok (crowd.place after process (some (.executing operation .loading))) := by
      simp only [Protocol.machine, Protocol.step, here, backupProtocol, workerStep, done, Except.map]
    rw [Machine.attempt_ok accepted, if_pos rfl]
    have counted : attemptsOf crowd.store.operations operation.id = row.attempts := by
      rw [rewritten.id]
      exact attemptsOf_mem member
    have later : attemptsOf after.operations operation.id = operation.attempts :=
      attemptsOf_mem rewritten.later_mem
    rw [counted, Crowd.place, later, isClaimed]
  | false =>
    apply Machine.attempt_elim (motive := fun state : Crowd BackupStore BackupPoint =>
      attemptsOf crowd.store.operations id ≤ attemptsOf state.store.operations id)
    · exact Nat.le_refl _
    · intro next accepted
      cases move with
      | start process call =>
        rcases Protocol.step_start accepted with ⟨_, rfl⟩
        exact Nat.le_refl _
      | advance process draw =>
        rcases Protocol.step_advance accepted with ⟨point, store, later, here, advanced, rfl⟩
        exact (standing.exclusive.turn undisputed here (workerStep_access advanced)).attempts_le id
      | stop process =>
        rw [Protocol.step_stop accepted]
        exact Nat.le_refl _
      | ambient event =>
        have changed := (Protocol.step_ambient accepted).1
        rw [← Except.ok.inj changed, (liveEvent_frame crowd.store event).2.1]

section Run

variable {moves : List BackupMove}

theorem Standing.run (standing : Standing crowd)
    (admitted : (backupProtocol environment).machine.Admits Undisputed crowd moves) :
    Standing ((backupProtocol environment).machine.run crowd moves) :=
  Machine.run_invariant_of_admits
    (fun _ _ _ standing undisputed accepted => standing.step undisputed accepted) standing admitted

theorem Standing.executions_le (standing : Standing crowd)
    (admitted : (backupProtocol environment).machine.Admits Undisputed crowd moves) (id : Id) :
    executions environment crowd moves id ≤
      attemptsOf ((backupProtocol environment).machine.run crowd moves).store.operations id := by
  have grows : forall (state : Crowd BackupStore BackupPoint) (move : BackupMove), Standing state ->
      Undisputed state move ->
      attemptsOf state.store.operations id + (if claims id state move then 1 else 0) ≤
        attemptsOf ((backupProtocol environment).machine.attempt state move).store.operations id := by
    intro state move standing undisputed
    exact standing.attempts_grow undisputed id
  have growth := Machine.occurrences_le_growth
    (fun _ _ _ standing undisputed accepted => Standing.step standing undisputed accepted) grows standing
    admitted
  unfold executions
  omega

theorem Standing.succeeded {row : BackupOperation} (standing : Standing crowd)
    (admitted : (backupProtocol environment).machine.Admits Undisputed crowd moves)
    (member : row ∈ crowd.store.operations) (succeeded : row.status = .succeeded) :
    row ∈ ((backupProtocol environment).machine.run crowd moves).store.operations ∧
      executions environment crowd moves row.id = 0 := by
  have preserved : forall (state : Crowd BackupStore BackupPoint) (move : BackupMove) next,
      (Standing state ∧ row ∈ state.store.operations) -> Undisputed state move ->
      (backupProtocol environment).machine.step state move = .ok next ->
      Standing next ∧ row ∈ next.store.operations := by
    rintro state move next ⟨standing, member⟩ undisputed accepted
    exact ⟨standing.step undisputed accepted, standing.settled undisputed accepted member succeeded⟩
  refine ⟨(Machine.run_invariant_of_admits preserved ⟨standing, member⟩ admitted).2, ?_⟩
  refine Machine.occurrences_eq_zero ?_ preserved ⟨standing, member⟩ admitted
  rintro state move ⟨_, member⟩ _
  rw [← Bool.not_eq_true]
  intro isClaim
  rcases claims_eq_true isClaim with ⟨_, _, _, _, operation, _, _, done, same⟩
  rcases claimBackupOperation_ok done with ⟨claimed, claimedMember, claimable, rfl, _⟩
  have isRow := operation_eq claimedMember member same
  rw [isRow] at claimable
  rcases isClaimable_status claimable with isPending | isRetrying
  · exact absurd (succeeded.symm.trans isPending) (by decide)
  · exact absurd (succeeded.symm.trans isRetrying) (by decide)

end Run

/-- In an undisputed run the queue is kept. -/
theorem queue_kept_of_undisputed (environment : BackupEnvironment) (live : LiveDatabase)
    (source : InsertionMap String Bytes) (moves : List BackupMove)
    (admitted : (backupProtocol environment).machine.Admits Undisputed
      (Crowd.opening (freshStore live source)) moves) :
    QueueKept environment (freshStore live source) moves where
  attempts operation member := by
    have standing := (standing_fresh live source).run admitted
    have counted := (standing_fresh live source).executions_le admitted operation.id
    apply Nat.le_trans counted
    rw [← backupRun, attemptsOf_mem member]
    exact (standing.exclusive.bounded operation member).1
  succeeded past rest split row member isSucceeded := by
    subst split
    have standing := (standing_fresh live source).run admitted.left
    rw [backupRun, Machine.run_append]
    exact standing.succeeded admitted.right member isSucceeded
  recovered past process draw rest split point operation row here isHeld member same disowned := by
    subst split
    have standing := (standing_fresh live source).run admitted.left
    rcases standing.exclusive.claims.held process point operation here isHeld with ⟨held, heldMember, heldAs⟩
    rw [operation_eq member heldMember (same.trans heldAs.id.symm)] at disowned
    rcases disowned with isLeft | isOther
    · exact absurd heldAs.status isLeft
    · exact absurd heldAs.attempts isOther
  expired archive member isExpired := by
    have standing := (standing_fresh live source).run admitted
    rcases standing.queued.covered archive member isExpired with ⟨operation, deletion, _⟩ | queueing
    · exact Or.inl ⟨operation, deletion⟩
    · exact Or.inr queueing

/-! ## An audit that throws, and a failure that does not matter -/

def emptyStore : BackupStore := freshStore ⟨[], [], []⟩ InsertionMap.empty

/-- A dry run, up to its recorded success. -/
def dryRun : List BackupMove :=
  [.start 0 (.requestBackup true "backup" none), .advance 0 plainDraw, .start 1 (.work "worker")] ++ accesses 4

/-- The audit throws, and the worker records a failure. -/
def throwingAudit : List BackupMove :=
  [.advance 1 { plainDraw with throws := true }, .advance 1 plainDraw]

/-- A success becomes an operation to be retried. -/
theorem queue_not_kept_when_audit_throws :
    ¬ QueueKept plainEnvironment emptyStore (dryRun ++ throwingAudit) := by
  intro kept
  have stays := fun row member succeeded => (kept.succeeded dryRun throwingAudit rfl row member succeeded).1
  have fails : ¬ forall row, row ∈ (backupRun plainEnvironment emptyStore dryRun).store.operations.rows ->
      row.status = .succeeded ->
      row ∈ (backupRun plainEnvironment emptyStore (dryRun ++ throwingAudit)).store.operations.rows := by
    decide +kernel
  exact fails stays

def laterDraw : BackupDraw :=
  { plainDraw with
    now := 100000
    chosen := "deletion"
    fresh := fun index => if index = 0 then "deletion" else "key" }

/-- A creation whose dump throws at first, its second attempt, and the deletion of
the archive when it has expired. -/
def expiredBackup : List BackupMove :=
  [.start 0 (.requestBackup false "backup" (some 50)), .advance 0 plainDraw, .start 1 (.work "worker")] ++
    accesses 3 ++ [.advance 1 { plainDraw with throws := true }] ++ accesses 2 ++ [.start 1 (.work "worker")] ++
    List.replicate 15 (.advance 1 { plainDraw with now := 40000 }) ++
    [.start 0 (.retain false)] ++ List.replicate 5 (.advance 0 laterDraw) ++
    [.start 1 (.work "worker")] ++ List.replicate 9 (.advance 1 laterDraw)

/-- `Undisputed`, where no worker is taken for dead and nothing fails for good. -/
def undisputed (crowd : Crowd BackupStore BackupPoint) : BackupMove -> Bool
  | .advance process draw =>
    match crowd.processes process with
    | some (.auditing _) | some (.queueing _ _) => !draw.throws
    | some (.releasing _ (_ :: _)) => draw.throws
    | some (.failing operation code) => isRetried operation code
    | _ => true
  | .stop process =>
    match crowd.processes process with
    | some (.queueing _ _) => false
    | _ => true
  | _ => true

theorem undisputed_spec (checked : undisputed crowd move = true) :
    Undisputed crowd move := by
  cases move with
  | start process call => trivial
  | ambient event => trivial
  | advance process draw =>
    simp only [undisputed] at checked
    simp only [Undisputed]
    split
    · rename_i here
      simp only [here, Bool.not_eq_true'] at checked
      exact checked
    · rename_i here
      simp only [here, Bool.not_eq_true'] at checked
      exact checked
    · rename_i here
      simp only [here] at checked
      intro steady
      rw [steady] at checked
      cases checked
    · rename_i here
      simp only [here] at checked
      intro _ forGood
      rw [forGood] at checked
      cases checked
    · trivial
  | stop process =>
    intro backupId expired here
    simp only [undisputed, here, Bool.false_eq_true] at checked

theorem queue_kept_of_undisputed_expired :
    (backupRun plainEnvironment emptyStore expiredBackup).store.operations.rows.map
      (fun operation => (operation.status, operation.attempts)) = [(.succeeded, 2), (.succeeded, 1)] ∧
    (backupRun plainEnvironment emptyStore expiredBackup).store.archives.rows.map BackupArchive.status =
      [.deleted] ∧
    QueueKept plainEnvironment emptyStore expiredBackup := by
  refine ⟨by decide +kernel, by decide +kernel, ?_⟩
  apply queue_kept_of_undisputed
  have checked : (backupProtocol plainEnvironment).machine.Admits
      (fun crowd move => undisputed crowd move = true) (Crowd.opening emptyStore) expiredBackup := by
    decide +kernel
  apply checked.mono
  intro crowd move
  exact undisputed_spec

end Backups
end DigitalSolutions

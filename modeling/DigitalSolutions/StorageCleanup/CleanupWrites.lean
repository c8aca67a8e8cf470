import DigitalSolutions.StorageCleanup.CleanupProcessor

namespace DigitalSolutions
namespace StorageCleanup

open Foundation Persistence

/-!
# What a worker writes

Every access writes the jobs that its point selects, and leaves the others as
they are.  Only an operator or a scheduler adds a job.
-/

variable {sha256 : String -> String}
variable {store after : CleanupStore} {point : CleanupPoint} {input : CleanupInput}
variable {row : StorageCleanupJob} {jobs : Table StorageCleanupJob}

/-- The rows that the access of a point writes. -/
def CleanupPoint.selects : CleanupPoint -> StorageCleanupJob -> Bool
  | .recovering now _, row => abandoned (now - STORAGE_CLEANUP_PROCESSING_TIMEOUT_MS) row
  | .claiming id batch, row => claimable id batch.now row
  | .completing _ job _, row => row.id = job.id
  | .failing _ job _ _, row => row.id = job.id
  | .requesting job _ _, row => row.id = job.id
  | _, _ => false

/-- What the access of a point writes to a row. -/
def CleanupPoint.written (now : Time) : CleanupPoint -> StorageCleanupJob -> StorageCleanupJob
  | .recovering retryAt _, row => recoveredJob retryAt "PROCESSING_TIMEOUT" row
  | .claiming _ batch, row => claimedJob batch.now row
  | .completing _ _ _, row => succeededJob now row
  | .failing _ job errorCode _, row =>
    if STORAGE_CLEANUP_MAX_ATTEMPTS ≤ job.attempts then failedJob now errorCode row
    else retryingJob (storageCleanupBackoffAt job.attempts now) errorCode row
  | .requesting _ _ retryAt, row => requestedJob retryAt row
  | _, row => row

theorem written_id {now : Time} : (point.written now row).id = row.id := by
  cases point with
  | failing claim job errorCode batch =>
    simp only [CleanupPoint.written]
    split
    · rfl
    · rfl
  | _ => rfl

theorem job_eq_of_id {left right : StorageCleanupJob} (leftMember : left ∈ jobs)
    (rightMember : right ∈ jobs) (same : left.id = right.id) :
    left = right := by
  have leftKey : StorageCleanupJob.Key.id left.id ∈ Keyed.keys left := List.mem_cons_self
  have rightKey : StorageCleanupJob.Key.id left.id ∈ Keyed.keys right := same ▸ List.mem_cons_self
  exact jobs.eq_of_common_key leftMember rightMember leftKey rightKey

theorem job_of_lookup {id : Id} (found : jobs.lookup (.id id) = some row) : row ∈ jobs ∧ row.id = id := by
  have listed := jobs.lookup_key found
  simp only [Keyed.keys, List.mem_cons, StorageCleanupJob.Key.id.injEq, reduceCtorEq,
    List.not_mem_nil, or_false] at listed
  exact ⟨jobs.lookup_mem found, listed.symm⟩

theorem lookup_of_id (member : row ∈ jobs) :
    jobs.lookup (.id row.id) = some row :=
  jobs.lookup_of_mem member List.mem_cons_self

/-- A row after the access of a point. -/
def CleanupPoint.rewritten (point : CleanupPoint) (now : Time) (row : StorageCleanupJob) :
    StorageCleanupJob :=
  if point.selects row then point.written now row else row

/-- What an access does to the jobs. -/
inductive JobsEffect (store : CleanupStore) (point : CleanupPoint) (after : CleanupStore) : Prop
  | queued (row : StorageCleanupJob) (pending : row.status = .pending) (unclaimed : row.attempts = 0)
      (inserted : store.jobs.insert row = some after.jobs)
      (called : Exists fun request => point = .called request)
  | wrote (jobs : forall row, row ∈ after.jobs ↔
      Exists fun old => old ∈ store.jobs ∧ point.rewritten store.now old = row)

theorem JobsEffect.still (unselected : forall row, row ∈ store.jobs -> point.selects row = false)
    (same : after.jobs = store.jobs) : JobsEffect store point after := by
  apply JobsEffect.wrote
  intro row
  rw [same]
  constructor
  · intro member
    refine ⟨row, member, ?_⟩
    simp only [CleanupPoint.rewritten, unselected row member, Bool.false_eq_true, if_false]
  · rintro ⟨old, member, isRow⟩
    simp only [CleanupPoint.rewritten, unselected old member, Bool.false_eq_true, if_false] at isRow
    exact isRow ▸ member

theorem JobsEffect.of_rows (wrote : after.jobs.rows = store.jobs.rows.map (point.rewritten store.now)) :
    JobsEffect store point after :=
  .wrote fun _ => Table.mem_of_rows wrote

theorem upsertQueued_effect {queued : QueueStorageCleanupInput} {id : Id} {correlationId : String}
    {request : CleanupRequest} : JobsEffect store (.called request)
      (upsertQueued (queuedJob sha256 queued id correlationId store.now) store) := by
  unfold upsertQueued
  cases inserted : store.jobs.insert (queuedJob sha256 queued id correlationId store.now) with
  | none =>
    apply JobsEffect.still
    · intro row _
      rfl
    · rfl
  | some jobs => exact .queued _ rfl rfl inserted ⟨request, rfl⟩

theorem recordFailure_rows {claim : CleanupClaim} {job : StorageCleanupJob} {errorCode : String}
    {batch : CleanupBatch} : (recordFailure job errorCode store).jobs.rows =
      store.jobs.rows.map ((CleanupPoint.failing claim job errorCode batch).rewritten store.now) := by
  unfold recordFailure
  split
  · rename_i exhausted
    apply List.map_congr_left
    intro row _
    simp only [CleanupPoint.rewritten, CleanupPoint.selects, CleanupPoint.written, exhausted, if_true]
  · rename_i left
    apply List.map_congr_left
    intro row _
    simp only [CleanupPoint.rewritten, CleanupPoint.selects, CleanupPoint.written, left, if_false]

theorem advance_jobs : JobsEffect store point (advanceCleanup sha256 store point input).1 := by
  have still : forall {other : CleanupStore}, (forall row, point.selects row = false) ->
      other.jobs = store.jobs -> JobsEffect store point other :=
    fun unselected same => .still (fun row _ => unselected row) same
  cases point with
  | called request =>
    cases request with
    | queue queued => exact upsertQueued_effect
    | retry id actorId =>
      simp only [advanceCleanup, callCleanup]
      split
      · exact still (fun _ => rfl) rfl
      · split
        · exact still (fun _ => rfl) rfl
        · exact still (fun _ => rfl) rfl
    | recoverAbandoned => exact still (fun _ => rfl) rfl
    | process id => exact still (fun _ => rfl) rfl
    | processReady limit => exact still (fun _ => rfl) rfl
  | recovering now limit => exact .of_rows rfl
  | claiming id batch =>
    simp only [advanceCleanup]
    split
    · rename_i unclaimed
      apply JobsEffect.still
      · intro row member
        by_contra selected
        rw [Bool.not_eq_false] at selected
        have isId := selected
        simp only [CleanupPoint.selects, claimable, Bool.and_eq_true, decide_eq_true_eq] at isId
        have found := lookup_of_id member
        rw [isId.1.1] at found
        rw [found, Option.filter_some] at unclaimed
        split at unclaimed
        · cases unclaimed
        · rename_i unselected
          exact unselected selected
      · rfl
    · exact .of_rows rfl
  | failing claim job errorCode batch => exact .of_rows recordFailure_rows
  | completing claim job batch => exact .of_rows rfl
  | requesting job actorId now => exact .of_rows rfl
  | listing now limit => exact still (fun _ => rfl) rfl
  | reading claim batch => exact still (fun _ => rfl) rfl
  | checking claim job batch =>
    apply still (fun _ => rfl)
    simp only [advanceCleanup]
    split
    · rfl
    · split
      · rfl
      · rfl
  | deleting claim job batch =>
    apply still (fun _ => rfl)
    simp only [advanceCleanup]
    split <;> rfl
  | announcing claim job batch =>
    apply still (fun _ => rfl)
    simp only [advanceCleanup]
    split <;> rfl
  | reporting event batch =>
    apply still (fun _ => rfl)
    simp only [advanceCleanup]
    split <;> rfl
  | requested event =>
    apply still (fun _ => rfl)
    simp only [advanceCleanup]
    split <;> rfl

namespace JobsEffect

/-- A row that the point does not select is still there. -/
theorem stays (effect : JobsEffect store point after) (member : row ∈ store.jobs)
    (unselected : point.selects row = false) : row ∈ after.jobs := by
  cases effect with
  | queued new pending unclaimed inserted called => exact (Table.mem_insert inserted).mpr (Or.inl member)
  | wrote jobs =>
    refine (jobs row).mpr ⟨row, member, ?_⟩
    simp only [CleanupPoint.rewritten, unselected, Bool.false_eq_true, if_false]

theorem written (effect : JobsEffect store point after) (member : row ∈ store.jobs)
    (selected : point.selects row = true) :
    point.written store.now row ∈ after.jobs := by
  cases effect with
  | queued new pending unclaimed inserted called =>
    rcases called with ⟨request, rfl⟩
    cases selected
  | wrote jobs =>
    refine (jobs _).mpr ⟨row, member, ?_⟩
    simp only [CleanupPoint.rewritten, selected, if_true]

/-- Where a row of the table comes from. -/
theorem origin (effect : JobsEffect store point after) (member : row ∈ after.jobs) :
    (row ∈ store.jobs ∧ point.selects row = false) ∨
    (Exists fun old => old ∈ store.jobs ∧ point.selects old = true ∧ row = point.written store.now old) ∨
    (row.status = .pending ∧ row.attempts = 0 ∧ forall old, old ∈ store.jobs -> old.id ≠ row.id) := by
  cases effect with
  | queued new pending unclaimed inserted called =>
    rcases (Table.mem_insert inserted).mp member with old | isNew
    · rcases called with ⟨request, rfl⟩
      exact Or.inl ⟨old, rfl⟩
    · subst isNew
      refine Or.inr (Or.inr ⟨pending, unclaimed, ?_⟩)
      intro old oldMember same
      have taken : StorageCleanupJob.Key.id old.id ∈ Keyed.keys row := same ▸ List.mem_cons_self
      exact Table.fits_of_insert inserted old oldMember _ List.mem_cons_self taken
  | wrote jobs =>
    rcases (jobs row).mp member with ⟨old, oldMember, isRow⟩
    unfold CleanupPoint.rewritten at isRow
    split at isRow
    · rename_i selected
      exact Or.inr (Or.inl ⟨old, oldMember, selected, isRow.symm⟩)
    · rename_i unselected
      subst isRow
      exact Or.inl ⟨oldMember, Bool.eq_false_iff.mpr unselected⟩

end JobsEffect

/-! ## The rest of the store -/

/-- The clock stands, and only a worker that deletes asks the object store,
under its claim. -/
structure LogsEffect (store : CleanupStore) (point : CleanupPoint) (after : CleanupStore) : Prop where
  now : after.now = store.now
  deletions : after.deletions = store.deletions ∨
    Exists fun claim => Exists fun job => Exists fun batch => point = .deleting claim job batch ∧
      after.deletions = claim :: store.deletions

theorem advance_logs : LogsEffect store point (advanceCleanup sha256 store point input).1 := by
  have still : forall {other : CleanupStore}, other.now = store.now -> other.deletions = store.deletions ->
      LogsEffect store point other :=
    fun clock deletions => ⟨clock, Or.inl deletions⟩
  cases point with
  | called request =>
    cases request with
    | retry id actorId =>
      simp only [advanceCleanup, callCleanup]
      split
      · exact still rfl rfl
      · split <;> exact still rfl rfl
    | _ => exact still rfl rfl
  | deleting claim job batch =>
    simp only [advanceCleanup]
    split <;> exact ⟨rfl, Or.inr ⟨claim, job, batch, rfl, rfl⟩⟩
  | failing claim job errorCode batch =>
    simp only [advanceCleanup, recordFailure]
    split <;> exact still rfl rfl
  | checking claim job batch =>
    simp only [advanceCleanup]
    split
    · exact still rfl rfl
    · split <;> exact still rfl rfl
  | claiming id batch =>
    simp only [advanceCleanup]
    split <;> exact still rfl rfl
  | announcing claim job batch =>
    simp only [advanceCleanup]
    split <;> exact still rfl rfl
  | reporting event batch =>
    simp only [advanceCleanup]
    split <;> exact still rfl rfl
  | requested event =>
    simp only [advanceCleanup]
    split <;> exact still rfl rfl
  | _ => exact still rfl rfl

/-- What the world around the workers leaves alone. -/
structure Passes (store after : CleanupStore) : Prop where
  jobs : after.jobs = store.jobs
  deletions : after.deletions = store.deletions
  forward : store.now ≤ after.now

theorem passes_of_passCleanup {event : CleanupEvent} (passed : passCleanup store event = .ok after) :
    Passes store after := by
  cases event with
  | tick later =>
    simp only [passCleanup] at passed
    split at passed
    · rename_i forward
      cases passed
      exact ⟨rfl, rfl, forward⟩
    · cases passed
  | catalogue activeArtifacts =>
    cases passed
    exact ⟨rfl, rfl, le_refl store.now⟩

/-! ## The next point -/

/-- Where an access leads, with what it has read. -/
inductive Follows (store : CleanupStore) (input : CleanupInput) : CleanupPoint -> CleanupPoint -> Prop
  | recovers (request : CleanupRequest) (limit : Option (Option Int)) :
      Follows store input (.called request) (.recovering store.now limit)
  | retries (request : CleanupRequest) (job : StorageCleanupJob) (actorId : Id) :
      Follows store input (.called request) (.requesting job actorId store.now)
  | lists (now : Time) (limit : Option Int) :
      Follows store input (.recovering now (some limit)) (.listing now limit)
  /-- The call of a worker for one job, or the next job of its batch. -/
  | turns (point : CleanupPoint) (id : Id) (batch : CleanupBatch) :
      Follows store input point (.claiming id batch)
  | claims (id : Id) (batch : CleanupBatch) (row : StorageCleanupJob) (member : row ∈ store.jobs)
      (waits : claimable id batch.now row = true) :
      Follows store input (.claiming id batch) (.reading (claimOf store batch.now row) batch)
  | reads (claim : CleanupClaim) (batch : CleanupBatch) (job : StorageCleanupJob)
      (member : job ∈ store.jobs) (isId : job.id = claim.id) :
      Follows store input (.reading claim batch) (.checking claim job batch)
  | allows (claim : CleanupClaim) (job : StorageCleanupJob) (batch : CleanupBatch) :
      Follows store input (.checking claim job batch) (.deleting claim job batch)
  | refuses (claim : CleanupClaim) (job : StorageCleanupJob) (errorCode : String) (batch : CleanupBatch) :
      Follows store input (.checking claim job batch) (.failing claim job errorCode batch)
  | deletes (claim : CleanupClaim) (job : StorageCleanupJob) (batch : CleanupBatch) :
      Follows store input (.deleting claim job batch) (.completing claim job batch)
  | throws (claim : CleanupClaim) (job : StorageCleanupJob) (errorCode : String) (batch : CleanupBatch) :
      Follows store input (.deleting claim job batch) (.failing claim job errorCode batch)
  | completes (claim : CleanupClaim) (job : StorageCleanupJob) (batch : CleanupBatch) :
      Follows store input (.completing claim job batch) (.announcing claim job batch)
  | mutes (claim : CleanupClaim) (job : StorageCleanupJob) (errorCode : String) (batch : CleanupBatch)
      (thrown : input.thrown ≠ none) :
      Follows store input (.announcing claim job batch) (.failing claim job errorCode batch)
  | fails (claim : CleanupClaim) (job : StorageCleanupJob) (errorCode : String) (batch : CleanupBatch)
      (event : StorageCleanupOperationalEvent) :
      Follows store input (.failing claim job errorCode batch) (.reporting event batch)
  | requests (job : StorageCleanupJob) (actorId : Id) (now : Time) (event : StorageCleanupOperationalEvent) :
      Follows store input (.requesting job actorId now) (.requested event)

theorem follows_of_next {batch : CleanupBatch} {next : CleanupPoint} (isNext : batch.next = some next) :
    Follows store input point next := by
  unfold CleanupBatch.next at isNext
  split at isNext
  · cases isNext
  · cases isNext
    exact .turns point _ _

theorem follows_of_advance {next : CleanupPoint}
    (advanced : (advanceCleanup sha256 store point input).2 = some next) :
    Follows store input point next := by
  cases point with
  | called request =>
    cases request with
    | queue queued => cases advanced
    | retry id actorId =>
      simp only [advanceCleanup, callCleanup] at advanced
      split at advanced
      · cases advanced
      · split at advanced
        · cases advanced
        · cases advanced
          exact .retries _ _ actorId
    | recoverAbandoned =>
      cases advanced
      exact .recovers _ none
    | process id =>
      cases advanced
      exact .turns _ id _
    | processReady limit =>
      cases advanced
      exact .recovers _ (some limit)
  | recovering now limit =>
    simp only [advanceCleanup, Option.map_eq_some_iff] at advanced
    rcases advanced with ⟨listed, rfl, rfl⟩
    exact .lists now listed
  | listing now limit => exact follows_of_next advanced
  | claiming id batch =>
    simp only [advanceCleanup] at advanced
    split at advanced
    · exact follows_of_next advanced
    · rename_i row found
      rw [Option.filter_eq_some_iff] at found
      cases advanced
      exact .claims id batch row (job_of_lookup found.1).1 found.2
  | reading claim batch =>
    simp only [advanceCleanup, Option.map_eq_some_iff] at advanced
    rcases advanced with ⟨job, found, rfl⟩
    exact .reads claim batch job (job_of_lookup found).1 (job_of_lookup found).2
  | checking claim job batch =>
    simp only [advanceCleanup] at advanced
    split at advanced
    · cases advanced
      exact .refuses claim job _ batch
    · split at advanced
      · cases advanced
        exact .allows claim job batch
      · cases advanced
        exact .refuses claim job _ batch
  | deleting claim job batch =>
    simp only [advanceCleanup] at advanced
    split at advanced
    · cases advanced
      exact .throws claim job _ batch
    · cases advanced
      exact .deletes claim job batch
  | completing claim job batch =>
    cases advanced
    exact .completes claim job batch
  | announcing claim job batch =>
    simp only [advanceCleanup] at advanced
    split at advanced
    · rename_i name thrown
      cases advanced
      apply Follows.mutes claim job _ batch
      rw [thrown]
      exact Option.some_ne_none name
    · exact follows_of_next advanced
  | failing claim job errorCode batch =>
    cases advanced
    exact .fails claim job errorCode batch _
  | reporting event batch =>
    simp only [advanceCleanup] at advanced
    split at advanced
    · cases advanced
    · exact follows_of_next advanced
  | requesting job actorId now =>
    cases advanced
    exact .requests job actorId now _
  | requested event =>
    simp only [advanceCleanup] at advanced
    split at advanced
    · cases advanced
    · cases advanced

/-! ## The same, of an access that has been made -/

theorem effect_of_advance {later : Option CleanupPoint}
    (advanced : advanceCleanup sha256 store point input = (after, later)) :
    JobsEffect store point after := by
  have isAfter : (advanceCleanup sha256 store point input).1 = after := congrArg Prod.fst advanced
  subst isAfter
  exact advance_jobs

theorem logs_of_advance {later : Option CleanupPoint}
    (advanced : advanceCleanup sha256 store point input = (after, later)) :
    LogsEffect store point after := by
  have isAfter : (advanceCleanup sha256 store point input).1 = after := congrArg Prod.fst advanced
  subst isAfter
  exact advance_logs

end StorageCleanup
end DigitalSolutions

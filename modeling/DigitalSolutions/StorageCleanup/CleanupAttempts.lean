import DigitalSolutions.StorageCleanup.CleanupClaims

namespace DigitalSolutions
namespace StorageCleanup

open Foundation Persistence Protocol

/-!
# Attempts of cleanup jobs

An attempt is counted when it is claimed, and the count is compared with the
limit when a failure is recorded.  The recovery of abandoned jobs does not
look at the count: it lets a job go on whose last worker is gone.  As long as
no worker dies at the last attempts, none is recovered that has used them up.
-/

variable {sha256 : String -> String} {store after : CleanupStore} {point : CleanupPoint}
variable {input : CleanupInput}
variable {crowd : CleanupCrowd} {claim : CleanupClaim} {row : StorageCleanupJob} {process : Nat}

/-- A worker acts under the last claim of the job. -/
def Attended (crowd : CleanupCrowd) (row : StorageCleanupJob) : Prop :=
  Exists fun process => Exists fun point => Exists fun claim =>
    crowd.processes process = some point ∧ point.claim = some claim ∧ claim.id = row.id ∧
      claim.attempt = row.attempts

/-- The object store is asked at most five times for a job, an operator's
retries apart; a job that has used its attempts rests, and one that has failed
is written by an operator only. -/
structure CleanupBounded (sha256 : String -> String) (crowd : CleanupCrowd) : Prop where
  bounded : forall id, (crowd.store.deletions.filter fun claim =>
    claim.id = id && claim.automatic).length ≤ STORAGE_CLEANUP_MAX_ATTEMPTS
  rests : forall row, row ∈ crowd.store.jobs -> STORAGE_CLEANUP_MAX_ATTEMPTS ≤ row.attempts ->
    row.status = .failed ∨ row.status = .succeeded ∨ row.requested = true ∨
      (row.status = .processing ∧ Attended crowd row)
  final : forall process point input row, crowd.processes process = some point ->
    (forall job actorId now, point ≠ .requesting job actorId now) -> row ∈ crowd.store.jobs ->
    row.status = .failed -> row ∈ (advanceCleanup sha256 crowd.store point input).1.jobs

/-- No recovery takes a job whose last claim a worker made less than the
abandonment age ago. -/
def RecoversAbandoned (crowd : CleanupCrowd) : Prop :=
  forall process now limit worker point claim row,
    crowd.processes process = some (.recovering now limit) -> crowd.processes worker = some point ->
    point.claim = some claim -> row ∈ crowd.store.jobs -> row.id = claim.id ->
    row.attempts = claim.attempt ->
    crowd.store.now < claim.claimedAt + STORAGE_CLEANUP_PROCESSING_TIMEOUT_MS ->
    (CleanupPoint.recovering now limit).selects row = false

/-! ## The conditions -/

/-- Orderly workers, none of which dies at an attempt from the fifth on. -/
def Diligent (crowd : CleanupCrowd) (move : CleanupMove) : Prop :=
  Orderly True crowd move ∧
    match move with
    | .stop process => forall point claim, crowd.processes process = some point ->
      point.claim = some claim -> Live crowd.store claim ->
      claim.attempt < STORAGE_CLEANUP_MAX_ATTEMPTS
    | _ => True

/-- A claim is stamped with the time at which it is made. -/
def Stamped (crowd : CleanupCrowd) : CleanupMove -> Prop
  | .advance process _ => forall id batch, crowd.processes process = some (.claiming id batch) ->
    batch.now = crowd.store.now
  | _ => True

/-! ## Rows and their counts -/

/-- A row is never claimed less often, and its start is that of its last claim. -/
theorem JobsEffect.counts (effect : JobsEffect store point after) (member : row ∈ store.jobs) :
    Exists fun later => later ∈ after.jobs ∧ later.id = row.id ∧
      row.attempts ≤ later.attempts ∧
      (later.attempts = row.attempts -> later.startedAt = row.startedAt) := by
  by_cases selected : point.selects row = true
  · refine ⟨_, effect.written member selected, written_id, ?_⟩
    cases point with
    | claiming id batch =>
      refine ⟨Nat.le_succ _, ?_⟩
      intro same
      exact absurd same (Nat.succ_ne_self _)
    | failing claim job errorCode batch =>
      simp only [CleanupPoint.written]
      split
      · exact ⟨le_refl row.attempts, fun _ => rfl⟩
      · exact ⟨le_refl row.attempts, fun _ => rfl⟩
    | recovering now limit => exact ⟨le_refl row.attempts, fun _ => rfl⟩
    | completing claim job batch => exact ⟨le_refl row.attempts, fun _ => rfl⟩
    | requesting job actorId now => exact ⟨le_refl row.attempts, fun _ => rfl⟩
    | _ => cases selected
  · rw [Bool.not_eq_true] at selected
    exact ⟨row, effect.stays member selected, rfl, le_rfl, fun _ => rfl⟩

/-! ## Claims and their dates -/

/-- The last claim on a job has dated it. -/
def Dates (store : CleanupStore) (claim : CleanupClaim) : Prop :=
  Exists fun row => row ∈ store.jobs ∧ row.id = claim.id ∧ claim.attempt ≤ row.attempts ∧
    (row.attempts = claim.attempt -> row.startedAt = some claim.claimedAt)

structure Dated (store : CleanupStore) (_ : Nat) (point : CleanupPoint) : Prop where
  past : forall now limit, point = .recovering now limit -> now ≤ store.now
  dates : forall claim, point.claim = some claim -> Dates store claim

theorem Dates.effect (dates : Dates store claim) (effect : JobsEffect store point after) :
    Dates after claim := by
  rcases dates with ⟨row, member, isId, counted, started⟩
  rcases effect.counts member with ⟨later, laterMember, sameId, grown, same⟩
  refine ⟨later, laterMember, sameId.trans isId, counted.trans grown, ?_⟩
  intro isAttempt
  have unchanged : later.attempts = row.attempts := by omega
  exact (same unchanged).trans (started (unchanged ▸ isAttempt))

theorem dates_outlined :
    (cleanupProtocol sha256).Outlined Stamped (fun _ => True) Dated where
  enters crowd process call holds allows := by
    refine ⟨?_, ?_⟩
    · intro now limit isPoint
      cases isPoint
    · intro claim claims
      cases claims
  advances crowd process point input after later holds allows here advanced := by
    simp only [cleanupProtocol, Except.ok.injEq] at advanced
    refine ⟨trivial, ?_⟩
    rintro next rfl
    have effect := effect_of_advance advanced
    have clock := (logs_of_advance advanced).now
    refine ⟨?_, ?_⟩
    · rintro now limit rfl
      cases follows_of_advance (congrArg Prod.snd advanced) with
      | recovers request _ => exact clock.ge
    · intro claim claims
      rcases claim_next (congrArg Prod.snd advanced) claims with kept | ⟨id, batch, row, rfl, member, waits, rfl⟩
      · exact ((holds.points process point here).dates claim kept).effect effect
      · refine ⟨_, effect.written member waits, rfl, le_refl (row.attempts + 1), ?_⟩
        intro _
        exact congrArg some (allows id batch here)
  spares crowd process point input after later holds allows here advanced other bystander _ stands := by
    simp only [cleanupProtocol, Except.ok.injEq] at advanced
    have effect := effect_of_advance advanced
    have clock := (logs_of_advance advanced).now
    have dated := holds.points other bystander stands
    refine ⟨?_, fun claim claims => (dated.dates claim claims).effect effect⟩
    intro now limit isPoint
    rw [clock]
    exact dated.past now limit isPoint
  ambient crowd event after holds allows passed := by
    refine ⟨trivial, ?_⟩
    intro other bystander stands
    have dated := holds.points other bystander stands
    have same := (passes_of_passCleanup passed).jobs
    refine ⟨?_, ?_⟩
    · intro now limit isPoint
      exact (dated.past now limit isPoint).trans (passes_of_passCleanup passed).forward
    · intro claim claims
      unfold Dates
      rw [same]
      exact dated.dates claim claims

theorem recovers_abandoned_of_dated (holds : Holds (fun _ => True) Dated crowd) :
    RecoversAbandoned crowd := by
  intro process now limit worker point claim row recovers stands claims member isId isAttempt recent
  have past := (holds.points process _ recovers).past now limit rfl
  rcases (holds.points worker point stands).dates claim claims with ⟨dated, datedMember, datedId, _, started⟩
  rw [job_eq_of_id datedMember member (datedId.trans isId.symm)] at started
  simp only [CleanupPoint.selects, abandoned, started isAttempt, Option.any_some, Bool.and_eq_false_iff,
    decide_eq_false_iff_not]
  right
  intro old
  have older := Int.add_lt_of_lt_sub_right old
  exact absurd (older.trans_le past) (not_lt.mpr recent.le)

/-! ## The tally -/

/-- Job and attempt of a claim. -/
def CleanupClaim.number (claim : CleanupClaim) : Id × Nat := (claim.id, claim.attempt)

/-- The requests to the object store, and the jobs that wait for an attempt
without an operator's word. -/
structure Tallied (store : CleanupStore) : Prop where
  waiting : forall row, row ∈ store.jobs -> row.status = .pending ∨ row.status = .retrying ->
    row.requested = false -> row.attempts < STORAGE_CLEANUP_MAX_ATTEMPTS
  automatic : forall claim, claim ∈ store.deletions -> claim.automatic = true ->
    1 ≤ claim.attempt ∧ claim.attempt ≤ STORAGE_CLEANUP_MAX_ATTEMPTS
  counted : forall claim, claim ∈ store.deletions -> Exists fun row => row ∈ store.jobs ∧
    row.id = claim.id ∧ claim.attempt ≤ row.attempts
  distinct : (store.deletions.map CleanupClaim.number).Nodup

/-- A worker that has not yet asked the object store under its claim. -/
def CleanupPoint.unasked : CleanupPoint -> Option CleanupClaim
  | .reading claim _ | .checking claim _ _ | .deleting claim _ _ => some claim
  | _ => none

theorem claim_of_unasked (unasked : point.unasked = some claim) :
    point.claim = some claim := by
  cases point with
  | reading held batch => exact unasked
  | checking held job batch => exact unasked
  | deleting held job batch => exact unasked
  | _ => cases unasked

structure Unspent (store : CleanupStore) (claim : CleanupClaim) : Prop where
  unlisted : claim.number ∉ store.deletions.map CleanupClaim.number
  automatic : claim.automatic = true ->
    1 ≤ claim.attempt ∧ claim.attempt ≤ STORAGE_CLEANUP_MAX_ATTEMPTS

structure Sparing (store : CleanupStore) (process : Nat) (point : CleanupPoint) : Prop where
  standing : Standing True store process point
  unspent : forall claim, point.unasked = some claim -> Unspent store claim

/-- Workers are apart, and a job at its last attempts has one. -/
structure Staffed (crowd : CleanupCrowd) : Prop where
  unshared : Unshared CleanupPoint.ticket crowd
  attended : forall row, row ∈ crowd.store.jobs -> row.status = .processing ->
    STORAGE_CLEANUP_MAX_ATTEMPTS ≤ row.attempts -> Attended crowd row

/-- A recovery takes no job that has used its attempts: whoever works on it is in time. -/
theorem left_of_recovered {startedAt : Time} (holds : Holds Tallied Sparing crowd)
    (staffed : Staffed crowd) (member : row ∈ crowd.store.jobs) (processing : row.status = .processing)
    (started : row.startedAt = some startedAt)
    (late : startedAt + STORAGE_CLEANUP_PROCESSING_TIMEOUT_MS < crowd.store.now) :
    row.attempts < STORAGE_CLEANUP_MAX_ATTEMPTS := by
  by_contra exhausted
  rcases staffed.attended row member processing (not_lt.mp exhausted) with
    ⟨process, point, claim, stands, claims, isId, _⟩
  rcases (holds.points process point stands).standing.placed claims with working | ended
  · have sameStart := (working.placed.row member isId.symm).2.1
    rw [started, Option.some.injEq] at sameStart
    have timely := working.timely
    rw [← sameStart] at timely
    exact absurd late (not_lt.mpr timely)
  · cases processing.symm.trans (ended.row member isId.symm).2.2

/-- A job that waits without an operator's word has attempts left, after an
access as before. -/
theorem waiting_after (holds : Holds Tallied Sparing crowd) (staffed : Staffed crowd)
    (allows : Orderly True crowd (.advance process input)) (here : crowd.processes process = some point)
    (effect : JobsEffect crowd.store point after) (member : row ∈ after.jobs)
    (waits : row.status = .pending ∨ row.status = .retrying) (unrequested : row.requested = false) :
    row.attempts < STORAGE_CLEANUP_MAX_ATTEMPTS := by
  have standing := (holds.points process point here).standing
  rcases effect.origin member with ⟨old, _⟩ | ⟨old, oldMember, selected, rfl⟩ | ⟨_, unclaimed, _⟩
  · exact holds.store.waiting row old waits unrequested
  · have selection := selection_of_selects standing (allows.rests here oldMember) oldMember selected
    cases point with
    | claiming id batch => rcases waits with waits | waits <;> cases waits
    | completing claim job batch => rcases waits with waits | waits <;> cases waits
    | requesting job actorId now => cases unrequested
    | recovering now limit =>
      cases selection with
      | recovered startedAt processing started late _ =>
        have left := left_of_recovered holds staffed oldMember processing started late
        exact left
      | claimed _ claims =>
        rcases claims with ⟨_, _, isPoint⟩
        cases isPoint
      | requested _ requests =>
        rcases requests with ⟨_, _, _, isPoint⟩
        cases isPoint
      | recorded claim claims => cases claims
    | failing claim job errorCode batch =>
      by_cases exhausted : STORAGE_CLEANUP_MAX_ATTEMPTS ≤ job.attempts
      · simp only [CleanupPoint.written, exhausted, if_true] at waits
        rcases waits with waits | waits <;> cases waits
      · simp only [CleanupPoint.written, exhausted, if_false, retryingJob]
        have isId : old.id = claim.id := (of_decide_eq_true selected).trans standing.1.id
        have attempts : old.attempts = claim.attempt := by
          rcases standing.placed rfl with working | ended
          · exact (working.placed.row oldMember isId).1
          · exact (ended.row oldMember isId).1
        rw [attempts, ← standing.1.attempts]
        exact not_le.mp exhausted
    | _ => cases selected
  · rw [unclaimed]
    decide

theorem counted_after (effect : JobsEffect store point after)
    (counted : Exists fun row => row ∈ store.jobs ∧ row.id = claim.id ∧ claim.attempt ≤ row.attempts) :
    Exists fun row => row ∈ after.jobs ∧ row.id = claim.id ∧ claim.attempt ≤ row.attempts := by
  rcases counted with ⟨row, member, isId, least⟩
  rcases effect.counts member with ⟨later, laterMember, sameId, grown, _⟩
  exact ⟨later, laterMember, sameId.trans isId, least.trans grown⟩

/-- An access of an orderly worker keeps the tally. -/
theorem tallied_after {later : Option CleanupPoint} (holds : Holds Tallied Sparing crowd)
    (staffed : Staffed crowd) (allows : Orderly True crowd (.advance process input))
    (here : crowd.processes process = some point)
    (advanced : advanceCleanup sha256 crowd.store point input = (after, later)) : Tallied after := by
  have effect := effect_of_advance advanced
  have waiting : forall row, row ∈ after.jobs -> row.status = .pending ∨ row.status = .retrying ->
      row.requested = false -> row.attempts < STORAGE_CLEANUP_MAX_ATTEMPTS :=
    fun row member => waiting_after holds staffed allows here effect member
  have tallied := holds.store
  rcases (logs_of_advance advanced).deletions with same | ⟨claim, job, batch, rfl, asked⟩
  · refine ⟨waiting, ?_, ?_, ?_⟩
    · rw [same]
      exact tallied.automatic
    · rw [same]
      exact fun claim member => counted_after effect (tallied.counted claim member)
    · rw [same]
      exact tallied.distinct
  · have sparing := holds.points process _ here
    have unspent := sparing.unspent claim rfl
    refine ⟨waiting, ?_, ?_, ?_⟩
    · rw [asked]
      intro other member
      rcases List.mem_cons.mp member with rfl | old
      · exact unspent.automatic
      · exact tallied.automatic other old
    · rw [asked]
      intro other member
      apply counted_after effect
      rcases List.mem_cons.mp member with rfl | old
      · rcases sparing.standing.2.placed with ⟨row, rowMember, isId, isAttempt, _⟩
        exact ⟨row, rowMember, isId, isAttempt.ge⟩
      · exact tallied.counted other old
    · rw [asked, List.map_cons, List.nodup_cons]
      exact ⟨unspent.unlisted, tallied.distinct⟩

/-- A claim that is made has not been used to ask the object store. -/
theorem unspent_of_claims {id : Id} {batch : CleanupBatch} (tallied : Tallied store)
    (member : row ∈ store.jobs) (waits : claimable id batch.now row = true)
    (same : after.deletions = store.deletions) : Unspent after (claimOf store batch.now row) := by
  simp only [claimable, Bool.and_eq_true, Bool.or_eq_true, decide_eq_true_eq] at waits
  refine ⟨?_, ?_⟩
  · rw [same]
    intro listed
    rcases List.mem_map.mp listed with ⟨claim, claimMember, isNumber⟩
    rcases tallied.counted claim claimMember with ⟨other, otherMember, isId, least⟩
    rw [CleanupClaim.number, CleanupClaim.number, Prod.mk.injEq] at isNumber
    have isRow := job_eq_of_id otherMember member (isId.trans isNumber.1)
    have attempt : claim.attempt = row.attempts + 1 := isNumber.2
    rw [isRow] at least
    omega
  · intro automatic
    have unrequested : row.requested = false := by
      rw [← Bool.not_eq_true']
      exact automatic
    have left := tallied.waiting row member waits.1.2 unrequested
    exact ⟨Nat.succ_pos _, left⟩

theorem Unspent.same (unspent : Unspent store claim) (same : after.deletions = store.deletions) :
    Unspent after claim :=
  ⟨same ▸ unspent.unlisted, unspent.automatic⟩

theorem unspent_next {next : CleanupPoint} (tallied : Tallied store)
    (sparing : Sparing store process point)
    (advanced : advanceCleanup sha256 store point input = (after, some next))
    (unasked : next.unasked = some claim) : Unspent after claim := by
  have still : (forall claim job batch, point ≠ .deleting claim job batch) ->
      after.deletions = store.deletions := by
    intro other
    rcases (logs_of_advance advanced).deletions with same | ⟨claim, job, batch, isPoint, _⟩
    · exact same
    · exact absurd isPoint (other claim job batch)
  cases follows_of_advance (congrArg Prod.snd advanced) with
  | claims id batch row member waits =>
    cases unasked
    exact unspent_of_claims tallied member waits (still (fun _ _ _ => nofun))
  | reads held batch job member isId =>
    exact (sparing.unspent claim unasked).same (still (fun _ _ _ => nofun))
  | allows held job batch => exact (sparing.unspent claim unasked).same (still (fun _ _ _ => nofun))
  | _ => cases unasked

/-! ## Who attends a job -/

/-- A worker keeps its claim as long as its job is being processed. -/
theorem attended_next {later : Option CleanupPoint} (standing : Standing True crowd.store process point)
    (claims : point.claim = some claim) (member : row ∈ crowd.store.jobs) (isId : claim.id = row.id)
    (processing : row.status = .processing) (unselected : point.selects row = false)
    (advanced : advanceCleanup sha256 crowd.store point input = (after, later)) :
    Exists fun next => later = some next ∧ next.claim = some claim := by
  have isLater := congrArg Prod.snd advanced
  cases point with
  | reading held batch =>
    cases claims
    simp only [advanceCleanup] at isLater
    rw [isId, lookup_of_id member, Option.map_some] at isLater
    exact ⟨_, isLater.symm, rfl⟩
  | checking held job batch =>
    cases claims
    simp only [advanceCleanup] at isLater
    split at isLater
    · exact ⟨_, isLater.symm, rfl⟩
    · split at isLater
      · exact ⟨_, isLater.symm, rfl⟩
      · exact ⟨_, isLater.symm, rfl⟩
  | deleting held job batch =>
    cases claims
    simp only [advanceCleanup] at isLater
    split at isLater
    · exact ⟨_, isLater.symm, rfl⟩
    · exact ⟨_, isLater.symm, rfl⟩
  | completing held job batch =>
    cases claims
    exact absurd (isId.symm.trans standing.1.id.symm) (of_decide_eq_false unselected)
  | announcing held job batch =>
    cases claims
    cases processing.symm.trans (standing.2.row member isId.symm).2.2
  | failing held job errorCode batch =>
    cases claims
    exact absurd (isId.symm.trans standing.1.id.symm) (of_decide_eq_false unselected)
  | _ => cases claims

theorem staffed_kept :
    Keeps (cleanupProtocol sha256) Diligent Tallied Sparing Staffed := by
  intro crowd move next holds staffed allows accepted
  have standing : Holds (fun _ => True) (Standing True) crowd :=
    ⟨trivial, fun process point stands => (holds.points process point stands).standing⟩
  refine ⟨claims_kept_unshared crowd move next standing staffed.unshared allows.1 accepted, ?_⟩
  intro row member processing exhausted
  cases move with
  | start process call =>
    rcases step_start accepted with ⟨idle, rfl⟩
    rcases staffed.attended row member processing exhausted with ⟨worker, point, claim, stands, rest⟩
    have different : worker ≠ process := by
      rintro rfl
      rw [idle] at stands
      cases stands
    refine ⟨worker, point, claim, ?_, rest⟩
    exact (Function.update_of_ne different _ _).trans stands
  | advance process input =>
    rcases step_advance accepted with ⟨point, store, later, here, advanced, rfl⟩
    simp only [cleanupProtocol, Except.ok.injEq] at advanced
    rcases (effect_of_advance advanced).origin member with ⟨old, unselected⟩ | ⟨old, oldMember, selected, rfl⟩ | ⟨pending, _⟩
    · rcases staffed.attended row old processing exhausted with
        ⟨worker, bystander, claim, stands, claims, isId, isAttempt⟩
      by_cases same : worker = process
      · subst same
        cases here.symm.trans stands
        rcases attended_next (standing.points worker _ here) claims old isId processing unselected
          advanced with ⟨following, rfl, keeps⟩
        exact ⟨worker, following, claim, Function.update_self _ _ _, keeps, isId, isAttempt⟩
      · refine ⟨worker, bystander, claim, ?_, claims, isId, isAttempt⟩
        exact (Function.update_of_ne same _ _).trans stands
    · cases point with
      | claiming id batch =>
        have waits : (crowd.store.jobs.lookup (.id id)).filter (claimable id batch.now) = some old := by
          have isId := selected
          simp only [CleanupPoint.selects, claimable, Bool.and_eq_true, decide_eq_true_eq] at isId
          rw [← isId.1.1, lookup_of_id oldMember, isId.1.1]
          exact if_pos selected
        have isLater := congrArg Prod.snd advanced
        simp only [advanceCleanup, waits] at isLater
        subst isLater
        exact ⟨process, _, _, Function.update_self _ _ _, rfl, rfl, rfl⟩
      | failing claim job errorCode batch =>
        simp only [CleanupPoint.written] at processing
        split at processing
        · cases processing
        · cases processing
      | recovering now limit => cases processing
      | completing claim job batch => cases processing
      | requesting job actorId now => cases processing
      | _ => cases selected
    · cases pending.symm.trans processing
  | stop process =>
    rw [step_stop accepted] at member ⊢
    rcases staffed.attended row member processing exhausted with
      ⟨worker, point, claim, stands, claims, isId, isAttempt⟩
    have different : worker ≠ process := by
      rintro rfl
      have early := allows.2 point claim stands claims
        ⟨row, member, isId.symm, isAttempt.symm, processing⟩
      rw [isAttempt] at early
      exact absurd exhausted (not_le.mpr early)
    refine ⟨worker, point, claim, ?_, claims, isId, isAttempt⟩
    exact (Function.update_of_ne different _ _).trans stands
  | ambient event =>
    rcases step_ambient accepted with ⟨passed, same⟩
    rw [(passes_of_passCleanup passed).jobs] at member
    rcases staffed.attended row member processing exhausted with ⟨worker, point, claim, stands, rest⟩
    exact ⟨worker, point, claim, same ▸ stands, rest⟩

/-! ## Every run -/

theorem Sparing.spared (sparing : Sparing store process point)
    (standing : Standing True after process point)
    (unlisted : forall claim, point.unasked = some claim -> Unspent store claim -> Unspent after claim) :
    Sparing after process point :=
  ⟨standing, fun claim unasked => unlisted claim unasked (sparing.unspent claim unasked)⟩

theorem attempts_outlined :
    (cleanupProtocol sha256).Outlined (Among Diligent Staffed) Tallied Sparing where
  enters _ _ _ _ _ := ⟨trivial, nofun⟩
  advances crowd process point input after later holds allows here advanced := by
    simp only [cleanupProtocol, Except.ok.injEq] at advanced
    refine ⟨tallied_after holds allows.2 allows.1.1 here advanced, ?_⟩
    rintro next rfl
    have sparing := holds.points process point here
    refine ⟨standing_next allows.1.1 here sparing.standing advanced, ?_⟩
    intro claim unasked
    exact unspent_next holds.store sparing advanced unasked
  spares crowd process point input after later holds allows here advanced other bystander different
      stands := by
    simp only [cleanupProtocol, Except.ok.injEq] at advanced
    have sparing := holds.points other bystander stands
    have spared := spared_of_unshared advanced allows.1.1 allows.2.unshared here
      (holds.points process point here).standing different stands sparing.standing
    apply sparing.spared spared
    intro claim unasked unspent
    rcases (logs_of_advance advanced).deletions with same | ⟨own, job, batch, rfl, asked⟩
    · exact unspent.same same
    · refine ⟨?_, unspent.automatic⟩
      rw [asked, List.map_cons, List.mem_cons]
      rintro (isOwn | listed)
      · apply different
        apply allows.2.unshared other process bystander _ claim.number stands here
        · rw [CleanupPoint.ticket, claim_of_unasked unasked]
          rfl
        · rw [isOwn]
          rfl
      · exact unspent.unlisted listed
  ambient crowd event after holds allows passed := by
    have standing : Holds (fun _ => True) (Standing True) crowd :=
      ⟨trivial, fun process point stands => (holds.points process point stands).standing⟩
    have jobs := (passes_of_passCleanup passed).jobs
    have deletions := (passes_of_passCleanup passed).deletions
    refine ⟨⟨?_, ?_, ?_, ?_⟩, ?_⟩
    · rw [jobs]
      exact holds.store.waiting
    · rw [deletions]
      exact holds.store.automatic
    · rw [jobs, deletions]
      exact holds.store.counted
    · rw [deletions]
      exact holds.store.distinct
    · intro other bystander stands
      have spared := (claims_outlined.ambient crowd event after standing
        ⟨allows.1.1, allows.2.unshared⟩ passed).2 other bystander stands
      apply (holds.points other bystander stands).spared spared
      intro claim _ unspent
      exact unspent.same deletions

theorem bounded_of_holds (holds : Holds Tallied Sparing crowd) (staffed : Staffed crowd) :
    CleanupBounded sha256 crowd := by
  refine ⟨?_, ?_, ?_⟩
  · intro id
    apply length_le_of_numbered 1 STORAGE_CLEANUP_MAX_ATTEMPTS
    · exact (List.filter_sublist.map _).nodup holds.store.distinct
    · intro claim member
      rw [List.mem_filter, Bool.and_eq_true, decide_eq_true_eq] at member
      have bounds := holds.store.automatic claim member.1 member.2.2
      refine ⟨member.2.1, bounds.1, ?_⟩
      rw [Nat.add_comm]
      exact Nat.lt_succ_of_le bounds.2
  · intro row member exhausted
    cases status : row.status with
    | failed => exact Or.inl rfl
    | succeeded => exact Or.inr (Or.inl rfl)
    | processing =>
      exact Or.inr (Or.inr (Or.inr ⟨rfl, staffed.attended row member status exhausted⟩))
    | pending =>
      have unrequested : row.requested = false := by
        rw [StorageCleanupJob.requested, status]
        rfl
      have left := holds.store.waiting row member (Or.inl status) unrequested
      exact absurd exhausted (not_le.mpr left)
    | retrying =>
      right; right; left
      by_contra unrequested
      rw [Bool.not_eq_true] at unrequested
      have left := holds.store.waiting row member (Or.inr status) unrequested
      exact absurd exhausted (not_le.mpr left)
  · intro process point input row stands unasked member failed
    apply advance_jobs.stays member
    by_contra selected
    rw [Bool.not_eq_false] at selected
    have standing := (holds.points process point stands).standing
    have rests : forall job actorId now, point = .requesting job actorId now -> row.id = job.id ->
        row.status = .failed ∨ row.status = .retrying :=
      fun job actorId now isPoint => absurd isPoint (unasked job actorId now)
    cases selection_of_selects standing rests member selected with
    | claimed waits _ => rcases waits with waits | waits <;> cases waits.symm.trans failed
    | recovered _ processing _ _ _ => cases processing.symm.trans failed
    | requested _ requests =>
      rcases requests with ⟨job, actorId, now, isPoint⟩
      exact unasked job actorId now isPoint
    | recorded _ _ _ _ status =>
      rcases status with processing | ⟨_, succeeded⟩
      · cases processing.symm.trans failed
      · cases succeeded.symm.trans failed

/-- In every run of orderly workers of which none dies at its last attempts,
attempts are bounded; and where claims are stamped with the time at which they
are made, no recovery takes a job that was claimed less than the abandonment
age ago. -/
theorem cleanup_bounded_of_diligent (sha256 : String -> String) (now : Time) (moves : List CleanupMove) :
    ((cleanupProtocol sha256).machine.Admits Diligent (Crowd.opening (CleanupStore.opening now)) moves ->
      CleanupBounded sha256
        ((cleanupProtocol sha256).machine.run (Crowd.opening (CleanupStore.opening now)) moves)) ∧
    ((cleanupProtocol sha256).machine.Admits Stamped (Crowd.opening (CleanupStore.opening now)) moves ->
      RecoversAbandoned
        ((cleanupProtocol sha256).machine.run (Crowd.opening (CleanupStore.opening now)) moves)) := by
  refine ⟨?_, ?_⟩
  · intro diligent
    have tallied : Tallied (CleanupStore.opening now) :=
      ⟨fun row member => absurd member (Table.not_mem_empty row), nofun, nofun, List.nodup_nil⟩
    have staffed : Staffed (Crowd.opening (CleanupStore.opening now)) :=
      ⟨unshared_opening _, fun row member => absurd member (Table.not_mem_empty row)⟩
    have reached := attempts_outlined.run_among staffed_kept (holds_opening tallied) staffed diligent
    exact bounded_of_holds reached.1 reached.2
  · intro stamped
    exact recovers_abandoned_of_dated (dates_outlined.run (holds_opening trivial) stamped)

/-! ## Attempts without end -/

/-- A worker dies after it has deleted the object; the job is recovered. -/
def crashedAt (worker : Nat) (minute : Int) : List CleanupMove :=
  [.start worker (.process "job"), .advance worker smoothly, .advance worker smoothly,
    .advance worker smoothly, .advance worker smoothly, .advance worker smoothly, .stop worker,
    .ambient (.tick (minute * 60000)), .start worker .recoverAbandoned, .advance worker smoothly,
    .advance worker smoothly]

def crashedSixTimes : List CleanupMove :=
  queuedOnce ++ crashedAt 1 16 ++ crashedAt 2 32 ++ crashedAt 3 48 ++ crashedAt 4 64 ++ crashedAt 5 80 ++
    crashedAt 6 96

/-- A batch of two jobs, of which the first takes sixteen minutes; another
worker looks for abandoned jobs when the second has just been claimed. -/
def slowBatch : List CleanupMove :=
  queuedOnce ++
    [.start 0 (.queue ⟨.orphanedObject, "Upload", "other", "uploads/other.zip", none, none, none, none⟩),
      .advance 0 ⟨"other", "correlation", none⟩,
      .start 1 (.processReady (some 20)), .advance 1 smoothly, .advance 1 smoothly, .advance 1 smoothly,
      .advance 1 smoothly, .advance 1 smoothly, .advance 1 smoothly, .advance 1 smoothly,
      .ambient (.tick (16 * 60000)), .advance 1 smoothly, .advance 1 smoothly, .advance 1 smoothly,
      .start 2 .recoverAbandoned, .advance 2 smoothly]

/-- A recovery is about to take a job that a worker has just claimed. -/
def recoversEarly (crowd : CleanupCrowd) (process worker : Nat) : Bool :=
  match crowd.processes process, crowd.processes worker with
  | some (.recovering now limit), some point => point.claim.any fun claim =>
    crowd.store.now < claim.claimedAt + STORAGE_CLEANUP_PROCESSING_TIMEOUT_MS &&
      crowd.store.jobs.rows.any fun row => row.id = claim.id && row.attempts = claim.attempt &&
        (CleanupPoint.recovering now limit).selects row
  | _, _ => false

theorem not_abandoned_of_early (process worker : Nat) (early : recoversEarly crowd process worker = true) :
    ¬ RecoversAbandoned crowd := by
  intro recovers
  unfold recoversEarly at early
  split at early
  · rename_i now limit point recovering stands
    rw [Option.any_eq_true] at early
    rcases early with ⟨claim, claims, taken⟩
    simp only [Bool.and_eq_true, decide_eq_true_eq, List.any_eq_true] at taken
    rcases taken with ⟨recent, row, member, ⟨isId, isAttempt⟩, selected⟩
    have spared := recovers process now limit worker point claim row recovering stands claims member isId
      isAttempt recent
    rw [spared] at selected
    cases selected
  · cases early

theorem cleanup_unbounded_when_crashing :
    ¬ CleanupBounded id ((cleanupProtocol id).machine.run (Crowd.opening (CleanupStore.opening 0))
      crashedSixTimes) ∧
    ¬ RecoversAbandoned ((cleanupProtocol id).machine.run (Crowd.opening (CleanupStore.opening 0))
      slowBatch) := by
  refine ⟨?_, not_abandoned_of_early 2 1 ?_⟩
  · intro bounded
    have most := bounded.bounded "job"
    revert most
    decide +kernel
  · decide +kernel

theorem cleanup_bounded_of_diligent_deletedOnce :
    CleanupBounded id
      ((cleanupProtocol id).machine.run (Crowd.opening (CleanupStore.opening 0)) deletedOnce) ∧
    RecoversAbandoned
      ((cleanupProtocol id).machine.run (Crowd.opening (CleanupStore.opening 0)) deletedOnce) := by
  refine ⟨(cleanup_bounded_of_diligent id 0 deletedOnce).1
      ⟨⟨trivial, trivial⟩, ⟨?_, trivial⟩, ⟨trivial, trivial⟩, ⟨?_, trivial⟩, ⟨?_, trivial⟩, ⟨?_, trivial⟩,
        ⟨?_, trivial⟩, ⟨?_, trivial⟩, trivial⟩,
    (cleanup_bounded_of_diligent id 0 deletedOnce).2
      ⟨trivial, ?_, trivial, ?_, ?_, ?_, ?_, ?_, trivial⟩⟩
  · intro point here
    cases here
    trivial
  · intro point here
    cases here
    trivial
  · intro point here
    cases here
    decide
  · intro point here
    cases here
    trivial
  · intro point here
    cases here
    trivial
  · intro point here
    cases here
    trivial
  all_goals
    intro job batch here
    cases here
  rfl

end StorageCleanup
end DigitalSolutions

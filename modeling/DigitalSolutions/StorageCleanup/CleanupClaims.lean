import DigitalSolutions.StorageCleanup.CleanupWrites

namespace DigitalSolutions
namespace StorageCleanup

open Foundation Persistence Protocol

/-!
# Claims on cleanup jobs

The outcome of an attempt is written by the id of its job.  It is right when
the claim is still live: nobody has recovered the job, retried it by hand or
claimed it again meanwhile.  The code does not see to that; workers that are
quick enough, and operators whose view is not stale, do.
-/

variable {sha256 : String -> String} {loud : Prop}
variable {store after : CleanupStore} {point : CleanupPoint} {input : CleanupInput}
variable {crowd : CleanupCrowd} {process : Nat}

/-- The claim that a worker acts under. -/
def CleanupPoint.claim : CleanupPoint -> Option CleanupClaim
  | .reading claim _ | .checking claim _ _ | .deleting claim _ _ | .completing claim _ _
  | .announcing claim _ _ | .failing claim _ _ _ => some claim
  | _ => none

/-- Claims are numbered by job and attempt. -/
def CleanupPoint.ticket (point : CleanupPoint) : Option (Id × Nat) :=
  point.claim.map fun claim => (claim.id, claim.attempt)

/-- The claim is the last on its job, which is still being processed. -/
def Live (store : CleanupStore) (claim : CleanupClaim) : Prop :=
  Exists fun row => row ∈ store.jobs ∧ row.id = claim.id ∧ row.attempts = claim.attempt ∧
    row.status = .processing

/-- No two workers hold a live claim on one job, and a worker whose claim is
not live changes no job. -/
structure CleanupSafe (sha256 : String -> String) (crowd : CleanupCrowd) : Prop where
  alone : forall left right here there claim other, crowd.processes left = some here ->
    crowd.processes right = some there -> here.claim = some claim -> there.claim = some other ->
    Live crowd.store claim -> Live crowd.store other -> claim.id = other.id -> left = right
  current : forall process point claim input row, crowd.processes process = some point ->
    point.claim = some claim -> ¬ Live crowd.store claim -> row ∈ crowd.store.jobs ->
    row ∈ (advanceCleanup sha256 crowd.store point input).1.jobs

def HasStatus (id : Id) (status : StorageCleanupStatus) (store : CleanupStore) : Prop :=
  Exists fun row => row ∈ store.jobs ∧ row.id = id ∧ row.status = status

instance (id : Id) (status : StorageCleanupStatus) (store : CleanupStore) :
    Decidable (HasStatus id status store) :=
  inferInstanceAs (Decidable (Exists fun row => row ∈ store.jobs.rows ∧ row.id = id ∧ row.status = status))

instance (store : CleanupStore) (claim : CleanupClaim) : Decidable (Live store claim) :=
  inferInstanceAs (Decidable (Exists fun row => row ∈ store.jobs.rows ∧ row.id = claim.id ∧
    row.attempts = claim.attempt ∧ row.status = .processing))

/-! ## The condition -/

/-- A claim is not older than the abandonment age when it is made, or at any
time while it is live; an operator retries a job that still asks for it; and
the event of a success is taken, unless the sink may fail it. -/
def Orderly (loud : Prop) (crowd : CleanupCrowd) : CleanupMove -> Prop
  | .advance process input => forall point, crowd.processes process = some point ->
    match point with
    | .claiming _ batch => crowd.store.now ≤ batch.now + STORAGE_CLEANUP_PROCESSING_TIMEOUT_MS
    | .requesting job _ _ => forall row, row ∈ crowd.store.jobs -> row.id = job.id ->
      row.status = .failed ∨ row.status = .retrying
    | .announcing _ _ _ => loud ∨ input.thrown = none
    | _ => True
  | .ambient (.tick later) => forall process point claim, crowd.processes process = some point ->
    point.claim = some claim -> Live crowd.store claim ->
    later ≤ claim.stamp + STORAGE_CLEANUP_PROCESSING_TIMEOUT_MS
  | _ => True

/-! ## The outline -/

/-- The row that a claim was made on, as the claim left it. -/
def Placed (store : CleanupStore) (claim : CleanupClaim) (status : StorageCleanupStatus) : Prop :=
  Exists fun row => row ∈ store.jobs ∧ row.id = claim.id ∧ row.attempts = claim.attempt ∧
    row.startedAt = some claim.stamp ∧ row.status = status

structure Working (store : CleanupStore) (claim : CleanupClaim) : Prop where
  placed : Placed store claim .processing
  timely : store.now ≤ claim.stamp + STORAGE_CLEANUP_PROCESSING_TIMEOUT_MS

/-- The job that was read is the one that was claimed. -/
structure Taken (job : StorageCleanupJob) (claim : CleanupClaim) : Prop where
  id : job.id = claim.id
  attempts : job.attempts = claim.attempt

def Standing (loud : Prop) (store : CleanupStore) (_ : Nat) : CleanupPoint -> Prop
  | .recovering now _ => now ≤ store.now
  | .reading claim _ => Working store claim
  | .checking claim job _ | .deleting claim job _ | .completing claim job _ =>
    Taken job claim ∧ Working store claim
  | .announcing claim job _ => Taken job claim ∧ Placed store claim .succeeded
  | .failing claim job _ _ =>
    Taken job claim ∧ (Working store claim ∨ (loud ∧ Placed store claim .succeeded))
  | _ => True

theorem Working.live {claim : CleanupClaim} (working : Working store claim) : Live store claim := by
  rcases working.placed with ⟨row, member, isId, isAttempt, _, processing⟩
  exact ⟨row, member, isId, isAttempt, processing⟩

theorem Placed.mono {claim : CleanupClaim} {status : StorageCleanupStatus}
    (placed : Placed store claim status)
    (kept : forall row, row ∈ store.jobs -> row.id = claim.id -> row.attempts = claim.attempt ->
      row.status = status -> row ∈ after.jobs) : Placed after claim status := by
  rcases placed with ⟨row, member, isId, isAttempt, started, isStatus⟩
  exact ⟨row, kept row member isId isAttempt isStatus, isId, isAttempt, started, isStatus⟩

/-- Every claim that is held was placed, and its job was not claimed again. -/
theorem Standing.placed {claim : CleanupClaim} (standing : Standing loud store process point)
    (holds : point.claim = some claim) :
    Working store claim ∨ Placed store claim .succeeded := by
  cases point with
  | reading held batch =>
    cases holds
    exact Or.inl standing
  | checking held job batch =>
    cases holds
    exact Or.inl standing.2
  | deleting held job batch =>
    cases holds
    exact Or.inl standing.2
  | completing held job batch =>
    cases holds
    exact Or.inl standing.2
  | announcing held job batch =>
    cases holds
    exact Or.inr standing.2
  | failing held job errorCode batch =>
    cases holds
    rcases standing.2 with working | ⟨_, ended⟩
    · exact Or.inl working
    · exact Or.inr ended
  | _ => cases holds

/-- A change that leaves the row of a claim alone, and comes in time, is no
interference. -/
theorem Standing.spared (standing : Standing loud store process point) (clock : store.now ≤ after.now)
    (timely : forall claim, point.claim = some claim -> Working store claim ->
      after.now ≤ claim.stamp + STORAGE_CLEANUP_PROCESSING_TIMEOUT_MS)
    (rows : forall claim row, point.claim = some claim -> row ∈ store.jobs -> row.id = claim.id ->
      row.attempts = claim.attempt -> row ∈ after.jobs) : Standing loud after process point := by
  have works : forall claim, point.claim = some claim -> Working store claim -> Working after claim := by
    intro claim holds working
    refine ⟨working.placed.mono ?_, timely claim holds working⟩
    intro row member isId isAttempt _
    exact rows claim row holds member isId isAttempt
  have ended : forall claim, point.claim = some claim -> Placed store claim .succeeded ->
      Placed after claim .succeeded := by
    intro claim holds placed
    apply placed.mono
    intro row member isId isAttempt _
    exact rows claim row holds member isId isAttempt
  cases point with
  | recovering now limit => exact standing.trans clock
  | reading claim batch => exact works claim rfl standing
  | checking claim job batch => exact ⟨standing.1, works claim rfl standing.2⟩
  | deleting claim job batch => exact ⟨standing.1, works claim rfl standing.2⟩
  | completing claim job batch => exact ⟨standing.1, works claim rfl standing.2⟩
  | announcing claim job batch => exact ⟨standing.1, ended claim rfl standing.2⟩
  | failing claim job errorCode batch =>
    refine ⟨standing.1, ?_⟩
    rcases standing.2 with working | ⟨isLoud, placed⟩
    · exact Or.inl (works claim rfl working)
    · exact Or.inr ⟨isLoud, ended claim rfl placed⟩
  | _ => trivial

/-- Why an access of an orderly worker writes a row. -/
inductive Selection (loud : Prop) (store : CleanupStore) (point : CleanupPoint)
    (row : StorageCleanupJob) : Prop
  | claimed (waits : row.status = .pending ∨ row.status = .retrying)
      (claims : Exists fun id => Exists fun batch => point = .claiming id batch)
  | recovered (startedAt : Time) (processing : row.status = .processing)
      (started : row.startedAt = some startedAt)
      (late : startedAt + STORAGE_CLEANUP_PROCESSING_TIMEOUT_MS < store.now)
      (recovers : Exists fun now => Exists fun limit => point = .recovering now limit)
  | requested (rests : row.status = .failed ∨ row.status = .retrying)
      (requests : Exists fun job => Exists fun actorId => Exists fun now =>
        point = .requesting job actorId now)
  | recorded (claim : CleanupClaim) (holds : point.claim = some claim) (isId : row.id = claim.id)
      (isAttempt : row.attempts = claim.attempt)
      (status : row.status = .processing ∨ (loud ∧ row.status = .succeeded))

theorem Placed.row {claim : CleanupClaim} {status : StorageCleanupStatus} {row : StorageCleanupJob}
    (placed : Placed store claim status) (member : row ∈ store.jobs) (isId : row.id = claim.id) :
    row.attempts = claim.attempt ∧ row.startedAt = some claim.stamp ∧ row.status = status := by
  rcases placed with ⟨other, otherMember, otherId, isAttempt, started, isStatus⟩
  rw [job_eq_of_id member otherMember (isId.trans otherId.symm)]
  exact ⟨isAttempt, started, isStatus⟩

theorem selection_of_selects {row : StorageCleanupJob} (standing : Standing loud store process point)
    (rests : forall job actorId now, point = .requesting job actorId now -> row.id = job.id ->
      row.status = .failed ∨ row.status = .retrying) (member : row ∈ store.jobs)
    (selected : point.selects row = true) :
    Selection loud store point row := by
  cases point with
  | recovering now limit =>
    simp only [CleanupPoint.selects, abandoned, Bool.and_eq_true, decide_eq_true_eq, Option.any_eq_true]
      at selected
    rcases selected with ⟨processing, startedAt, started, before⟩
    refine .recovered startedAt processing started ?_ ⟨now, limit, rfl⟩
    exact lt_of_lt_of_le (Int.add_lt_of_lt_sub_right before) standing
  | claiming id batch =>
    simp only [CleanupPoint.selects, claimable, Bool.and_eq_true, Bool.or_eq_true, decide_eq_true_eq]
      at selected
    exact .claimed selected.1.2 ⟨id, batch, rfl⟩
  | completing claim job batch =>
    simp only [CleanupPoint.selects, decide_eq_true_eq] at selected
    have isId := selected.trans standing.1.id
    have placed := standing.2.placed.row member isId
    exact .recorded claim rfl isId placed.1 (Or.inl placed.2.2)
  | failing claim job errorCode batch =>
    simp only [CleanupPoint.selects, decide_eq_true_eq] at selected
    have isId := selected.trans standing.1.id
    rcases standing.2 with working | ⟨isLoud, ended⟩
    · have placed := working.placed.row member isId
      exact .recorded claim rfl isId placed.1 (Or.inl placed.2.2)
    · have placed := ended.row member isId
      exact .recorded claim rfl isId placed.1 (Or.inr ⟨isLoud, placed.2.2⟩)
  | requesting job actorId now =>
    simp only [CleanupPoint.selects, decide_eq_true_eq] at selected
    exact .requested (rests job actorId now rfl selected) ⟨job, actorId, now, rfl⟩
  | _ => cases selected

/-- What the condition says of an operator's retry. -/
theorem Orderly.rests {row : StorageCleanupJob} (allows : Orderly loud crowd (.advance process input))
    (here : crowd.processes process = some point) (member : row ∈ crowd.store.jobs) :
    forall job actorId now, point = .requesting job actorId now ->
      row.id = job.id -> row.status = .failed ∨ row.status = .retrying := by
  rintro job actorId now rfl isId
  exact allows _ here row member isId

/-! ## One access -/

/-- A claim that is made is placed. -/
theorem placed_of_claim {id : Id} {batch : CleanupBatch} {row : StorageCleanupJob}
    (member : row ∈ store.jobs) (waits : claimable id batch.now row = true)
    (effect : JobsEffect store (.claiming id batch) after) :
    Placed after (claimOf store batch.now row) .processing := by
  have claimed := effect.written member waits
  exact ⟨_, claimed, rfl, rfl, rfl, rfl⟩

/-- A change that leaves the jobs and the clock leaves a worker at work. -/
theorem Working.congr {claim : CleanupClaim} (working : Working store claim)
    (jobs : forall row, row ∈ store.jobs -> row.id = claim.id -> row ∈ after.jobs)
    (clock : after.now = store.now) : Working after claim := by
  refine ⟨working.placed.mono ?_, clock ▸ working.timely⟩
  intro row member isId _ _
  exact jobs row member isId

/-- What a worker has in hand after an access of its own is so. -/
theorem standing_next {next : CleanupPoint} (allows : Orderly loud crowd (.advance process input))
    (here : crowd.processes process = some point) (standing : Standing loud crowd.store process point)
    (advanced : advanceCleanup sha256 crowd.store point input = (after, some next)) :
    Standing loud after process next := by
  have effect := effect_of_advance advanced
  have clock := (logs_of_advance advanced).now
  cases follows_of_advance (congrArg Prod.snd advanced) with
  | recovers request limit => exact clock.ge
  | claims id batch row member waits =>
    refine ⟨placed_of_claim member waits effect, ?_⟩
    rw [clock]
    exact allows _ here
  | reads claim batch job member isId =>
    have working : Working crowd.store claim := standing
    have taken : Taken job claim := ⟨isId, (working.placed.row member isId).1⟩
    exact ⟨taken, working.congr (fun row member _ => effect.stays member rfl) clock⟩
  | allows claim job batch =>
    exact ⟨standing.1, standing.2.congr (fun row member _ => effect.stays member rfl) clock⟩
  | refuses claim job errorCode batch =>
    exact ⟨standing.1, Or.inl (standing.2.congr (fun row member _ => effect.stays member rfl) clock)⟩
  | deletes claim job batch =>
    exact ⟨standing.1, standing.2.congr (fun row member _ => effect.stays member rfl) clock⟩
  | throws claim job errorCode batch =>
    exact ⟨standing.1, Or.inl (standing.2.congr (fun row member _ => effect.stays member rfl) clock)⟩
  | completes claim job batch =>
    rcases standing with ⟨taken, working⟩
    rcases working.placed with ⟨row, member, isId, isAttempt, started, _⟩
    have selected : (CleanupPoint.completing claim job batch).selects row = true :=
      decide_eq_true (isId.trans taken.id.symm)
    exact ⟨taken, _, effect.written member selected, isId, isAttempt, started, rfl⟩
  | mutes claim job errorCode batch thrown =>
    rcases allows _ here with isLoud | quiet
    · have ended := standing.2.mono fun row member _ _ _ => effect.stays member rfl
      exact ⟨standing.1, Or.inr ⟨isLoud, ended⟩⟩
    · exact absurd quiet thrown
  | _ => trivial

/-- The access of one worker leaves the row of another's claim alone. -/
theorem spared_of_unshared {other : Nat} {bystander : CleanupPoint} {later : Option CleanupPoint}
    (advanced : advanceCleanup sha256 crowd.store point input = (after, later))
    (allows : Orderly loud crowd (.advance process input)) (unshared : Unshared CleanupPoint.ticket crowd)
    (here : crowd.processes process = some point) (standing : Standing loud crowd.store process point)
    (different : other ≠ process) (stands : crowd.processes other = some bystander)
    (alsoStanding : Standing loud crowd.store other bystander) :
    Standing loud after other bystander := by
  have clock := (logs_of_advance advanced).now
  apply alsoStanding.spared clock.ge
  · intro claim _ working
    rw [clock]
    exact working.timely
  · intro claim row holds member isId isAttempt
    apply (effect_of_advance advanced).stays member
    by_contra selected
    rw [Bool.not_eq_false] at selected
    have status : row.status = .processing ∨ row.status = .succeeded := by
      rcases alsoStanding.placed holds with working | ended
      · exact Or.inl (working.placed.row member isId).2.2
      · exact Or.inr (ended.row member isId).2.2
    cases selection_of_selects standing (allows.rests here member) member selected with
    | claimed waits _ =>
      rcases waits with waits | waits <;> rcases status with held | held <;> cases waits.symm.trans held
    | requested rests _ =>
      rcases rests with rests | rests <;> rcases status with held | held <;> cases rests.symm.trans held
    | recovered startedAt processing started late _ =>
      rcases alsoStanding.placed holds with working | ended
      · have sameStart := (working.placed.row member isId).2.1
        rw [started, Option.some.injEq] at sameStart
        have timely := working.timely
        rw [← sameStart] at timely
        exact absurd late (not_lt.mpr timely)
      · rw [(ended.row member isId).2.2] at processing
        cases processing
    | recorded own ownHolds ownId ownAttempt _ =>
      apply different
      apply unshared other process bystander point (row.id, row.attempts) stands here
      · rw [CleanupPoint.ticket, holds, isId, isAttempt]
        rfl
      · rw [CleanupPoint.ticket, ownHolds, ownId, ownAttempt]
        rfl

/-- The claim of the next point is the old one, or has just been made. -/
theorem claim_next {next : CleanupPoint} {claim : CleanupClaim}
    (advanced : (advanceCleanup sha256 store point input).2 = some next) (holds : next.claim = some claim) :
    point.claim = some claim ∨ Exists fun id => Exists fun batch => Exists fun row =>
      point = .claiming id batch ∧ row ∈ store.jobs ∧ claimable id batch.now row = true ∧
        claim = claimOf store batch.now row := by
  cases follows_of_advance advanced with
  | claims id batch row member waits =>
    cases holds
    exact Or.inr ⟨id, batch, row, rfl, member, waits, rfl⟩
  | reads held batch job member isId => exact Or.inl holds
  | allows held job batch => exact Or.inl holds
  | refuses held job errorCode batch => exact Or.inl holds
  | deletes held job batch => exact Or.inl holds
  | throws held job errorCode batch => exact Or.inl holds
  | completes held job batch => exact Or.inl holds
  | mutes held job errorCode batch thrown => exact Or.inl holds
  | _ => cases holds

/-! ## Every run -/

theorem claims_kept_unshared :
    Keeps (cleanupProtocol sha256) (Orderly loud) (fun _ => True) (Standing loud)
      (Unshared CleanupPoint.ticket) := by
  intro crowd move next holds unshared allows accepted
  refine unshared.step (fun _ => rfl) ?_ accepted
  intro process point input after later number here advanced isNumber
  simp only [cleanupProtocol, Except.ok.injEq] at advanced
  rw [CleanupPoint.ticket, Option.map_eq_some_iff] at isNumber
  rcases isNumber with ⟨claim, claims, rfl⟩
  rcases claim_next (congrArg Prod.snd advanced) claims with kept | ⟨id, batch, row, rfl, member, _, rfl⟩
  · left
    rw [CleanupPoint.ticket, kept]
    rfl
  · right
    intro other bystander stands isTicket
    rw [CleanupPoint.ticket, Option.map_eq_some_iff] at isTicket
    rcases isTicket with ⟨held, holdsHeld, same⟩
    rw [Prod.mk.injEq] at same
    -- Whoever holds a claim on the row holds its last one, and this is the next.
    have last : row.attempts = held.attempt := by
      rcases (holds.points other bystander stands).placed holdsHeld with working | ended
      · exact (working.placed.row member same.1.symm).1
      · exact (ended.row member same.1.symm).1
    have next : held.attempt = row.attempts + 1 := same.2
    omega

theorem claims_outlined :
    (cleanupProtocol sha256).Outlined (Among (Orderly loud) (Unshared CleanupPoint.ticket))
      (fun _ => True) (Standing loud) where
  enters _ _ _ _ _ := trivial
  advances crowd process point input after later holds allows here advanced := by
    simp only [cleanupProtocol, Except.ok.injEq] at advanced
    refine ⟨trivial, ?_⟩
    rintro next rfl
    exact standing_next allows.1 here (holds.points process point here) advanced
  spares crowd process point input after later holds allows here advanced other bystander different
      stands := by
    simp only [cleanupProtocol, Except.ok.injEq] at advanced
    exact spared_of_unshared advanced allows.1 allows.2 here (holds.points process point here) different
      stands (holds.points other bystander stands)
  ambient crowd event after holds allows passed := by
    refine ⟨trivial, ?_⟩
    intro other bystander stands
    cases event with
    | tick later =>
      simp only [cleanupProtocol, passCleanup] at passed
      split at passed
      · rename_i forward
        cases passed
        apply (holds.points other bystander stands).spared forward
        · intro claim claims working
          exact allows.1 other bystander claim stands claims working.live
        · intro claim row _ member _ _
          exact member
      · cases passed
    | catalogue activeArtifacts =>
      cases passed
      refine (holds.points other bystander stands).spared ?_ ?_ ?_
      · exact le_refl crowd.store.now
      · intro claim _ working
        exact working.timely
      · intro claim row _ member _ _
        exact member

theorem unshared_alone (unshared : Unshared CleanupPoint.ticket crowd) {left right : Nat}
    {here there : CleanupPoint} {claim other : CleanupClaim}
    (leftStands : crowd.processes left = some here) (rightStands : crowd.processes right = some there)
    (holds : here.claim = some claim) (alsoHolds : there.claim = some other)
    (live : Live crowd.store claim) (alsoLive : Live crowd.store other) (same : claim.id = other.id) :
    left = right := by
  rcases live with ⟨row, member, isId, isAttempt, _⟩
  rcases alsoLive with ⟨row', member', isId', isAttempt', _⟩
  have sameRow := job_eq_of_id member member' (isId.trans (same.trans isId'.symm))
  apply unshared left right here there (row.id, row.attempts) leftStands rightStands
  · rw [CleanupPoint.ticket, holds, isId, isAttempt]
    rfl
  · rw [CleanupPoint.ticket, alsoHolds, sameRow, isId', isAttempt']
    rfl

/-- Where the sink takes the event of every success, only a live claim writes. -/
theorem live_of_selects {claim : CleanupClaim} {row : StorageCleanupJob}
    (standing : Standing False crowd.store process point) (claims : point.claim = some claim)
    (selected : point.selects row = true) :
    Live crowd.store claim := by
  cases point with
  | completing held job batch =>
    cases claims
    exact standing.2.live
  | failing held job errorCode batch =>
    cases claims
    rcases standing.2 with working | ⟨isFalse, _⟩
    · exact working.live
    · exact isFalse.elim
  | recovering now limit => cases claims
  | claiming id batch => cases claims
  | requesting job actorId now => cases claims
  | _ => cases selected

/-- A job that has succeeded is written by nobody. -/
theorem succeeded_stays {next : CleanupCrowd} {move : CleanupMove} {id : Id}
    (holds : Holds (fun _ => True) (Standing False) crowd) (allows : Orderly False crowd move)
    (accepted : (cleanupProtocol sha256).machine.step crowd move = .ok next)
    (reached : HasStatus id .succeeded crowd.store) : HasStatus id .succeeded next.store := by
  rcases reached with ⟨row, member, isId, succeeded⟩
  cases move with
  | start process call =>
    rcases step_start accepted with ⟨_, rfl⟩
    exact ⟨row, member, isId, succeeded⟩
  | advance process input =>
    rcases step_advance accepted with ⟨point, store, later, here, advanced, rfl⟩
    simp only [cleanupProtocol, Except.ok.injEq] at advanced
    refine ⟨row, (effect_of_advance advanced).stays member ?_, isId, succeeded⟩
    by_contra selected
    rw [Bool.not_eq_false] at selected
    have standing := holds.points process point here
    cases selection_of_selects standing (allows.rests here member) member selected with
    | claimed waits _ => rcases waits with waits | waits <;> cases waits.symm.trans succeeded
    | requested rests _ => rcases rests with rests | rests <;> cases rests.symm.trans succeeded
    | recovered _ processing _ _ _ => cases processing.symm.trans succeeded
    | recorded _ _ _ _ status =>
      rcases status with processing | ⟨isFalse, _⟩
      · cases processing.symm.trans succeeded
      · exact isFalse
  | stop process =>
    rw [step_stop accepted]
    exact ⟨row, member, isId, succeeded⟩
  | ambient event =>
    refine ⟨row, ?_, isId, succeeded⟩
    rw [(passes_of_passCleanup (step_ambient accepted).1).jobs]
    exact member

/-- In every run of orderly workers whose sink takes the event of a success,
no job leaves its success, no two workers hold a live claim on one job, and a
worker whose claim is not live changes no job. -/
theorem cleanup_safe_of_orderly (sha256 : String -> String) (now : Time) (before after : List CleanupMove)
    (orderly : (cleanupProtocol sha256).machine.Admits (Orderly False)
      (Crowd.opening (CleanupStore.opening now)) (before ++ after)) :
    CleanupSafe sha256 ((cleanupProtocol sha256).machine.run (Crowd.opening (CleanupStore.opening now))
      (before ++ after)) ∧
    forall id, HasStatus id .succeeded ((cleanupProtocol sha256).machine.run
        (Crowd.opening (CleanupStore.opening now)) before).store ->
      HasStatus id .succeeded ((cleanupProtocol sha256).machine.run
        (Crowd.opening (CleanupStore.opening now)) (before ++ after)).store := by
  have initially : Holds (fun _ => True) (Standing False)
      (Crowd.opening (CleanupStore.opening now)) := holds_opening trivial
  have reached := claims_outlined.run_among claims_kept_unshared initially (unshared_opening _) orderly
  refine ⟨⟨?_, ?_⟩, ?_⟩
  · intro left right here there claim other leftStands rightStands holds alsoHolds live alsoLive same
    exact unshared_alone reached.2 leftStands rightStands holds alsoHolds live alsoLive same
  · intro process point claim input row stands claims dead member
    apply advance_jobs.stays member
    by_contra selected
    rw [Bool.not_eq_false] at selected
    exact dead (live_of_selects (reached.1.points process point stands) claims selected)
  · intro id succeeded
    refine claims_outlined.run_final claims_kept_unshared ?_ initially (unshared_opening _) orderly
      succeeded
    intro crowd move next holds _ allows accepted
    exact succeeded_stays holds allows accepted

/-! ## A success that is lost -/

/-- An access that nothing is thrown at. -/
def smoothly : CleanupInput := ⟨"job", "correlation", none⟩

def throwing (name : String) : CleanupInput := ⟨"job", "correlation", some name⟩

def queuedOnce : List CleanupMove :=
  [.start 0 (.queue ⟨.abandonedUpload, "Upload", "upload", "uploads/file.zip", none, none, none, none⟩),
    .advance 0 smoothly]

/-- A worker deletes the object, and is about to record it. -/
def deletedOnce : List CleanupMove :=
  queuedOnce ++ [.start 1 (.process "job"), .advance 1 smoothly, .advance 1 smoothly, .advance 1 smoothly,
    .advance 1 smoothly, .advance 1 smoothly]

/-- The event sink fails the event of the success. -/
def announcedInVain : List CleanupMove := [.advance 1 (throwing "AuditError"), .advance 1 smoothly]

/-- Sixteen minutes later, another worker recovers the job. -/
def recoveredMeanwhile : List CleanupMove :=
  [.ambient (.tick (16 * 60000)), .start 2 .recoverAbandoned, .advance 2 smoothly, .advance 2 smoothly]

/-- The worker is about to change a job under a claim that is not live. -/
def changesDead (sha256 : String -> String) (crowd : CleanupCrowd) (process : Nat) : Bool :=
  match crowd.processes process with
  | some point => point.claim.any fun claim => !decide (Live crowd.store claim) &&
      crowd.store.jobs.rows.any fun row =>
        !decide (row ∈ (advanceCleanup sha256 crowd.store point smoothly).1.jobs)
  | none => false

theorem not_safe_of_changesDead (process : Nat) (changes : changesDead sha256 crowd process = true) :
    ¬ CleanupSafe sha256 crowd := by
  intro safe
  unfold changesDead at changes
  split at changes
  · rename_i point stands
    rw [Option.any_eq_true] at changes
    rcases changes with ⟨claim, claims, changed⟩
    rw [Bool.and_eq_true, Bool.not_eq_true', decide_eq_false_iff_not, List.any_eq_true] at changed
    rcases changed with ⟨dead, row, member, gone⟩
    rw [Bool.not_eq_true', decide_eq_false_iff_not] at gone
    exact gone (safe.current process point claim smoothly row stands claims dead member)
  · cases changes

/-- A success is overwritten when its event cannot be told; and a worker that
was too slow overwrites what has become of its job. -/
theorem cleanup_unsafe_when_disorderly :
    (HasStatus "job" .succeeded ((cleanupProtocol id).machine.run (Crowd.opening (CleanupStore.opening 0))
        (deletedOnce ++ [.advance 1 smoothly])).store ∧
      ¬ HasStatus "job" .succeeded ((cleanupProtocol id).machine.run
        (Crowd.opening (CleanupStore.opening 0))
        (deletedOnce ++ [.advance 1 smoothly] ++ announcedInVain)).store) ∧
    ¬ CleanupSafe id ((cleanupProtocol id).machine.run (Crowd.opening (CleanupStore.opening 0))
      (deletedOnce ++ recoveredMeanwhile)) := by
  refine ⟨⟨?_, ?_⟩, not_safe_of_changesDead 1 ?_⟩
  · decide +kernel
  · decide +kernel
  · decide +kernel

theorem cleanup_safe_of_orderly_deletedOnce :
    CleanupSafe id ((cleanupProtocol id).machine.run (Crowd.opening (CleanupStore.opening 0))
      ((deletedOnce ++ [.advance 1 smoothly]) ++ [.advance 1 smoothly])) ∧
    forall job, HasStatus job .succeeded ((cleanupProtocol id).machine.run
        (Crowd.opening (CleanupStore.opening 0)) (deletedOnce ++ [.advance 1 smoothly])).store ->
      HasStatus job .succeeded ((cleanupProtocol id).machine.run (Crowd.opening (CleanupStore.opening 0))
        ((deletedOnce ++ [.advance 1 smoothly]) ++ [.advance 1 smoothly])).store := by
  refine cleanup_safe_of_orderly id 0 _ _
    ⟨trivial, ?_, trivial, ?_, ?_, ?_, ?_, ?_, ?_, ?_, trivial⟩
  · intro point here
    cases here
    trivial
  · intro point here
    cases here
    trivial
  · intro point here
    cases here
    decide
  · intro point here
    cases here
    trivial
  · intro point here
    cases here
    trivial
  · intro point here
    cases here
    trivial
  · intro point here
    cases here
    trivial
  · intro point here
    cases here
    exact Or.inr rfl

end StorageCleanup
end DigitalSolutions

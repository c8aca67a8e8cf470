import DigitalSolutions.Scheduler.Records

namespace DigitalSolutions
namespace Scheduler

open Foundation Persistence

/-!
# One handler of a job at a time

A worker that comes to call the handler of a job holds the lock of the job, and
the lock outlives the handler's timeout when the handler is called soon enough
after the acquisition.  Nobody takes the lock before it has run out, and nobody
but its worker releases it.
-/

variable {Locks : Type} {engine : Engine Locks} {before after : State Locks}
variable {action : SchedulerAction} {worker later : Worker}
variable {id : Nat} {lock : Lock}

def Lock.expiry (lock : Lock) (job : ScheduledJob) : Time := lock.acquiredAt + milliseconds job.lockSeconds

/-- The execution whose handler is called right after a statement. -/
def Worker.begins : Worker -> Option (Execution × Lock)
  | .running (.starting execution lock _) _ => some (execution, lock)
  | _ => none

/-- The assumption on the store: from the acquisition of a lock to the call of
the handler passes less than the lock outlives the timeout by. -/
def Prompt (state : State Locks) : SchedulerAction -> Prop
  | .advance id => forall worker, worker ∈ state.workers id -> forall begun, begun ∈ worker.begins ->
    state.now - begun.2.acquiredAt <
      milliseconds begun.1.job.lockSeconds - milliseconds begun.1.job.timeoutSeconds
  | _ => True

/-! ## What happens to the locks -/

/-- What a statement does to the locks. -/
inductive LockEffect (engine : Engine Locks) (before after : State Locks) (id : Nat) (worker : Worker) : Prop
  | kept (locks : after.locks = before.locks) (acquired : after.acquired = before.acquired)
  | acquired (execution : Execution) (caller : Caller)
    (stands : worker = .running (.acquiring execution) caller)
    (done : engine.locks.acquire before.now (engine.lockKey execution.job.key)
      (milliseconds execution.job.lockSeconds) before.draws before.locks = some after.locks)
    (acquired : after.acquired = (before.draws, id) :: before.acquired)
  | released (lock : Lock) (rethrows : Bool) (caller : Caller)
    (stands : worker = .running (.releasing lock rethrows) caller)
    (locks : after.locks = engine.locks.release (engine.lockKey lock.jobKey) lock.owner before.locks)
    (acquired : after.acquired = before.acquired)

private theorem lockEffect_withRuns {runs : Option Runs} (written : before.withRuns runs = some after) :
    LockEffect engine before after id worker := by
  rcases withRuns_eq_some written with ⟨rows, _, rfl⟩
  exact .kept rfl rfl

private theorem lockEffect_map {runs : Option Runs} {change : State Locks -> State Locks}
    (locks : forall state, (change state).locks = state.locks)
    (acquired : forall state, (change state).acquired = state.acquired)
    (written : (before.withRuns runs).map change = some after) :
    LockEffect engine before after id worker := by
  rw [Option.map_eq_some_iff] at written
  rcases written with ⟨middle, writes, rfl⟩
  rcases withRuns_eq_some writes with ⟨rows, _, rfl⟩
  exact .kept (locks _) (acquired _)

private theorem lockEffect_synchronizeFirst (now : Time) (rest : List ScheduledJob) :
    LockEffect engine before (before.synchronizeFirst now rest) id worker := by
  cases rest with
  | nil => exact .kept rfl rfl
  | cons job rest => exact .kept rfl rfl

theorem Worker.lockEffect (effect : worker.effect engine id before = some after) :
    LockEffect engine before after id worker := by
  cases worker with
  | running point caller =>
    cases point with
    | synchronizing job input now rest =>
      cases effect
      exact lockEffect_synchronizeFirst now rest
    | readingDefinition job input now =>
      simp only [Worker.effect, RunPoint.effect] at effect
      split at effect
      · cases effect
        exact .kept rfl rfl
      · cases effect
    | creating job input now create => exact lockEffect_withRuns effect
    | acquiring execution =>
      simp only [Worker.effect, RunPoint.effect] at effect
      split at effect
      · rename_i locks done
        cases effect
        exact .acquired execution caller rfl done rfl
      · cases effect
        exact .kept rfl rfl
    | markingConflict execution => exact lockEffect_withRuns effect
    | starting execution lock startedAt => exact lockEffect_withRuns effect
    | succeeding execution lock startedAt completedAt summary =>
      simp only [Worker.effect, RunPoint.effect] at effect
      refine lockEffect_map ?_ ?_ effect
      · exact fun _ => rfl
      · exact fun _ => rfl
    | failing execution lock startedAt completedAt message =>
      simp only [Worker.effect, RunPoint.effect] at effect
      refine lockEffect_map ?_ ?_ effect
      · exact fun _ => rfl
      · exact fun _ => rfl
    | releasing lock rethrows =>
      cases effect
      exact .released lock rethrows caller rfl rfl rfl
    | _ =>
      cases effect
      exact .kept rfl rfl
  | synchronizing now rest next =>
    cases effect
    exact lockEffect_synchronizeFirst now rest
  | abandoning now run startedAt retryable rest next => exact lockEffect_withRuns effect
  | acknowledging run actorId => exact lockEffect_withRuns effect
  | enabling key enabled actorId =>
    rw [Worker.effect, Option.map_eq_some_iff] at effect
    rcases effect with ⟨definitions, _, rfl⟩
    exact .kept rfl rfl
  | _ =>
    cases effect
    exact .kept rfl rfl

/-- Where the worker stands afterwards makes no difference to the locks. -/
theorem LockEffect.place {runId : Option Draw} {next : Option Worker}
    (effect : LockEffect engine before after id worker) :
    LockEffect engine before ((after.begun runId).place id next) id worker := by
  cases effect with
  | kept locks acquired => exact .kept locks acquired
  | acquired execution caller stands done acquired => exact .acquired execution caller stands done acquired
  | released lock rethrows caller stands locks acquired =>
    exact .released lock rethrows caller stands locks acquired

/-- The locks move only by a statement that takes effect. -/
theorem Motion.locks (motion : Motion engine before action after) :
    (after.locks = before.locks ∧ after.acquired = before.acquired) ∨
    Exists fun id => Exists fun worker =>
      action.performs = some id ∧ before.workers id = some worker ∧ LockEffect engine before after id worker := by
  cases motion with
  | advanced workerId worker done isAdvance stands effect =>
    refine Or.inr ⟨workerId, worker, ?_, stands, (Worker.lockEffect effect).place⟩
    rw [isAdvance]
    rfl
  | lost workerId worker done message stands awaits effect isThrow =>
    have written : LockEffect engine before ((done.begun none).place workerId
        (worker.thrown engine before message)) workerId worker := (Worker.lockEffect effect).place
    refine Or.inr ⟨workerId, worker, ?_, stands, written⟩
    rw [isThrow]
    rfl
  | called => exact Or.inl ⟨rfl, rfl⟩
  | thrown => exact Or.inl ⟨rfl, rfl⟩
  | settled => exact Or.inl ⟨rfl, rfl⟩
  | crashed => exact Or.inl ⟨rfl, rfl⟩
  | passed => exact Or.inl ⟨rfl, rfl⟩

/-- A lock that was acquired is there, under the token that was drawn. -/
theorem Motion.acquires (motion : Motion engine before action after) {execution : Execution}
    {caller : Caller} (isAdvance : action = .advance id)
    (stands : before.workers id = some (.running (.acquiring execution) caller)) {locks : Locks}
    (done : engine.locks.acquire before.now (engine.lockKey execution.job.key)
      (milliseconds execution.job.lockSeconds) before.draws before.locks = some locks) :
    after.locks = locks ∧ after.acquired = (before.draws, id) :: before.acquired := by
  subst isAdvance
  cases motion with
  | called workerId other free call => cases call
  | advanced workerId other done' isAdvance standsOther effect =>
    cases isAdvance
    rw [stands, Option.some.injEq] at standsOther
    subst standsOther
    simp only [Worker.effect, RunPoint.effect, done, Option.some.injEq] at effect
    subst effect
    exact ⟨rfl, rfl⟩
  | thrown workerId other message standsOther awaits how =>
    rcases how with ⟨isAdvance, fails⟩ | ⟨committed, impossible⟩
    · cases isAdvance
      rw [stands, Option.some.injEq] at standsOther
      subst standsOther
      simp only [Worker.effect, RunPoint.effect, done, reduceCtorEq] at fails
    · cases impossible
  | lost workerId other done' message standsOther awaits effect isThrow => cases isThrow
  | settled workerId other lock startedAt handlerStart otherCaller point moves unperformed => cases unperformed
  | crashed workerId isCrash => cases isCrash
  | passed moment isPass => cases isPass

theorem Motion.now_le (motion : Motion engine before action after) : before.now ≤ after.now := by
  cases motion with
  | advanced workerId worker done isAdvance stands effect =>
    exact le_of_eq (Worker.framed effect).now.symm
  | lost workerId worker done message stands awaits effect isThrow =>
    exact le_of_eq (Worker.framed effect).now.symm
  | passed moment isPass forward => exact forward
  | called => exact le_refl _
  | thrown => exact le_refl _
  | settled => exact le_refl _
  | crashed => exact le_refl _

/-! ## Who holds a lock -/

/-- The lock under which the worker calls, or is about to call, a handler. -/
def Worker.guards : Worker -> Option (Lock × ScheduledJob)
  | .running (.locked execution lock) _ | .running (.starting execution lock _) _
  | .running (.handling execution lock _ _) _ => some (lock, execution.job)
  | _ => none

/-- A worker holds the lock it held before, or has just acquired one. -/
theorem Placed.holds (placed : Placed engine before after action id later)
    (holds : later.holds = some lock) :
    (Exists fun worker => before.workers id = some worker ∧ worker.holds = some lock) ∨
    Exists fun execution => Exists fun caller => Exists fun locks =>
      before.workers id = some (.running (.acquiring execution) caller) ∧ action = .advance id ∧
        lock = ⟨execution.job.key, before.draws, before.now⟩ ∧
        engine.locks.acquire before.now (engine.lockKey execution.job.key)
          (milliseconds execution.job.lockSeconds) before.draws before.locks = some locks := by
  have engaged : later.Engaged := Or.inr (Or.inr (by rw [holds]; exact Option.some_ne_none _))
  rcases placed.passes engaged with ⟨point, point', caller, stands, rfl, passes⟩
  cases passes with
  | follows isAdvance follows effect =>
    cases follows with
    | acquired execution locks done =>
      cases holds
      exact Or.inr ⟨execution, caller, locks, stands, isAdvance, rfl, done⟩
    | clocked => exact Or.inl ⟨_, stands, holds⟩
    | started => exact Or.inl ⟨_, stands, holds⟩
    | waiting => exact Or.inl ⟨_, stands, holds⟩
    | succeeded => exact Or.inl ⟨_, stands, holds⟩
    | settled => exact Or.inl ⟨_, stands, holds⟩
    | reported => exact Or.inl ⟨_, stands, holds⟩
    | failed => exact Or.inl ⟨_, stands, holds⟩
    | reportedFailure => exact Or.inl ⟨_, stands, holds⟩
    | _ => cases holds
  | catches message catches =>
    cases catches with
    | succeeding => exact Or.inl ⟨_, stands, holds⟩
    | reportingSuccess => exact Or.inl ⟨_, stands, holds⟩
    | failing => exact Or.inl ⟨_, stands, holds⟩
    | reportingFailure => exact Or.inl ⟨_, stands, holds⟩
  | settles execution held startedAt handlerStart isHandling settles =>
    subst isHandling
    rcases settles with ⟨summary, rfl⟩ | ⟨message, rfl⟩
    · exact Or.inl ⟨_, stands, holds⟩
    · exact Or.inl ⟨_, stands, holds⟩

theorem Worker.holds_of_guards {job : ScheduledJob} (guards : worker.guards = some (lock, job)) :
    worker.holds = some lock := by
  cases worker with
  | running point caller =>
    cases point with
    | locked => cases guards; rfl
    | starting => cases guards; rfl
    | handling => cases guards; rfl
    | _ => cases guards
  | _ => cases guards

theorem Placed.guards {job : ScheduledJob} (placed : Placed engine before after action id later)
    (guards : later.guards = some (lock, job)) :
    (Exists fun worker => before.workers id = some worker ∧ worker.guards = some (lock, job)) ∨
    Exists fun execution => Exists fun caller => Exists fun locks =>
      before.workers id = some (.running (.acquiring execution) caller) ∧ action = .advance id ∧
        lock = ⟨execution.job.key, before.draws, before.now⟩ ∧ job = execution.job ∧
        engine.locks.acquire before.now (engine.lockKey execution.job.key)
          (milliseconds execution.job.lockSeconds) before.draws before.locks = some locks := by
  have holds := Worker.holds_of_guards guards
  have engaged : later.Engaged := Or.inr (Or.inr (by rw [holds]; exact Option.some_ne_none _))
  rcases placed.passes engaged with ⟨point, point', caller, stands, rfl, passes⟩
  cases passes with
  | follows isAdvance follows effect =>
    cases follows with
    | acquired execution locks done =>
      cases guards
      exact Or.inr ⟨execution, caller, locks, stands, isAdvance, rfl, rfl, done⟩
    | clocked => exact Or.inl ⟨_, stands, guards⟩
    | started => exact Or.inl ⟨_, stands, guards⟩
    | waiting => exact Or.inl ⟨_, stands, guards⟩
    | _ => cases guards
  | catches message catches => cases catches <;> cases guards
  | settles execution held startedAt handlerStart isHandling settles =>
    rcases settles with ⟨summary, rfl⟩ | ⟨message, rfl⟩
    · cases guards
    · cases guards

/-! ## The leases -/

/-- Every token is drawn once and belongs to the worker that acquired under it;
a lock that has not run out is there; and a handler was called soon enough. -/
structure Leased (engine : Engine Locks) (state : State Locks) : Prop where
  drawn : forall token id, (token, id) ∈ state.acquired -> token < state.draws
  distinct : (state.acquired.map Prod.fst).Nodup
  owned : forall id worker lock, state.workers id = some worker -> worker.holds = some lock ->
    (lock.owner, id) ∈ state.acquired
  held : forall id worker lock job, state.workers id = some worker -> worker.guards = some (lock, job) ->
    state.now < lock.expiry job ->
    engine.locks.holder state.locks (engine.lockKey job.key) = some (lock.owner, lock.expiry job)
  soon : forall id execution lock startedAt handlerStart caller,
    state.workers id = some (.running (.handling execution lock startedAt handlerStart) caller) ->
    handlerStart + milliseconds execution.job.timeoutSeconds < lock.expiry execution.job

theorem Leased.owner_unique {state : State Locks} (leased : Leased engine state) {token : Draw}
    {first second : Nat} (isFirst : (token, first) ∈ state.acquired)
    (isSecond : (token, second) ∈ state.acquired) : first = second := by
  have same := List.inj_on_of_nodup_map leased.distinct isFirst isSecond rfl
  rw [Prod.mk.injEq] at same
  exact same.2

/-- The tokens that have been drawn stay drawn, and a new one is new. -/
theorem Motion.acquired (motion : Motion engine before action after) (leased : Leased engine before) :
    (forall pair, pair ∈ before.acquired -> pair ∈ after.acquired) ∧
      (forall token id, (token, id) ∈ after.acquired -> token < after.draws) ∧
      (after.acquired.map Prod.fst).Nodup := by
  have draws := motion.draws
  have kept : after.acquired = before.acquired ->
      (forall pair, pair ∈ before.acquired -> pair ∈ after.acquired) ∧
        (forall token id, (token, id) ∈ after.acquired -> token < after.draws) ∧
        (after.acquired.map Prod.fst).Nodup := by
    intro same
    rw [same]
    exact ⟨fun pair member => member,
      fun token id member => Nat.lt_of_lt_of_le (leased.drawn token id member) draws.1, leased.distinct⟩
  rcases motion.locks with ⟨_, same⟩ | ⟨id, worker, performs, stands, effect⟩
  · exact kept same
  · cases effect with
    | kept locks same => exact kept same
    | released lock rethrows caller stands locks same => exact kept same
    | acquired execution caller stands done same =>
      rw [same]
      refine ⟨fun pair member => List.mem_cons_of_mem _ member, ?_, ?_⟩
      · intro token other member
        rcases List.mem_cons.mp member with isNew | old
        · rw [Prod.mk.injEq] at isNew
          rw [isNew.1, draws.2 id (mover_of_performs performs)]
          exact Nat.lt_add_of_pos_right (by decide)
        · exact Nat.lt_of_lt_of_le (leased.drawn token other old) draws.1
      · rw [List.map_cons]
        refine List.nodup_cons.mpr ⟨?_, leased.distinct⟩
        intro member
        rcases List.mem_map.mp member with ⟨pair, pairMember, isNew⟩
        exact absurd isNew (Nat.ne_of_lt (leased.drawn pair.1 pair.2 pairMember))

/-- A lock that has not run out survives whatever others do. -/
theorem Motion.held (motion : Motion engine before action after) (lawful : engine.locks.Lawful)
    (leased : Leased engine before) {job : ScheduledJob} (stands : before.workers id = some worker)
    (guards : worker.guards = some (lock, job)) (unexpired : before.now < lock.expiry job) :
    engine.locks.holder after.locks (engine.lockKey job.key) = some (lock.owner, lock.expiry job) := by
  have holds : engine.locks.Holds before.locks before.now (engine.lockKey job.key) lock.owner (lock.expiry job) :=
    ⟨leased.held id worker lock job stands guards unexpired, unexpired⟩
  rcases motion.locks with ⟨same, _⟩ | ⟨other, otherWorker, performs, otherStands, effect⟩
  · rw [same]
    exact holds.1
  · cases effect with
    | kept same acquired =>
      rw [same]
      exact holds.1
    | acquired execution caller isWorker done acquired => exact (lawful.holds_acquire done holds).1
    | released otherLock rethrows caller isWorker released acquired =>
      subst isWorker
      rw [released]
      refine (lawful.holds_release ?_ holds).1
      intro same
      have mine := leased.owned id worker lock stands (Worker.holds_of_guards guards)
      have theirs := leased.owned other _ otherLock otherStands rfl
      rw [← same] at theirs
      have isSame := leased.owner_unique mine theirs
      subst isSame
      rw [stands, Option.some.injEq] at otherStands
      rw [otherStands] at guards
      cases guards

/-- A handler is called from the statement before it. -/
theorem Placed.handles {execution : Execution} {startedAt handlerStart : Time} {caller : Caller}
    (placed : Placed engine before after action id
      (.running (.handling execution lock startedAt handlerStart) caller)) :
    before.workers id = some (.running (.handling execution lock startedAt handlerStart) caller) ∨
    (before.workers id = some (.running (.starting execution lock startedAt) caller) ∧
      action = .advance id ∧ handlerStart = before.now) := by
  cases placed with
  | called later free idle => cases idle.holds
  | proceeded worker later stands isAdvance proceeds effect begun =>
    cases proceeds with
    | inside point point' caller same follows =>
      subst same
      cases follows with
      | started => exact Or.inr ⟨stands, isAdvance, rfl⟩
      | waiting => exact Or.inl stands
    | resumed listed later known resumed => cases resumed.idle.holds
    | quiet later idle => cases idle.holds
  | caught point point' caller message stands catches => cases catches
  | resumed worker later stands resumed => cases resumed.idle.holds
  | settled other held otherStart otherHandlerStart caller point stands settles runs =>
    rcases settles with ⟨summary, impossible⟩ | ⟨message, impossible⟩
    · cases impossible
    · cases impossible

private theorem outlives {moment acquiredAt ttl timeout : Int} (quick : moment - acquiredAt < ttl - timeout) :
    moment + timeout < acquiredAt + ttl := by
  omega

theorem Motion.leased (motion : Motion engine before action after) (lawful : engine.locks.Lawful)
    (prompt : Prompt before action) (leased : Leased engine before) : Leased engine after := by
  rcases motion.acquired leased with ⟨grows, drawn, distinct⟩
  refine ⟨drawn, distinct, ?_, ?_, ?_⟩
  · intro id later lock stands holds
    rcases motion.workers stands with ⟨standsBefore, _⟩ | ⟨_, placed⟩
    · exact grows _ (leased.owned id later lock standsBefore holds)
    · rcases placed.holds holds with ⟨worker, standsBefore, holdsBefore⟩ |
        ⟨execution, caller, locks, standsBefore, isAdvance, rfl, done⟩
      · exact grows _ (leased.owned id worker lock standsBefore holdsBefore)
      · rw [(motion.acquires isAdvance standsBefore done).2]
        exact List.mem_cons_self
  · intro id later lock job stands guards unexpired
    have past : before.now < lock.expiry job := lt_of_le_of_lt motion.now_le unexpired
    rcases motion.workers stands with ⟨standsBefore, _⟩ | ⟨_, placed⟩
    · exact motion.held lawful leased standsBefore guards past
    · rcases placed.guards guards with ⟨worker, standsBefore, guardsBefore⟩ |
        ⟨execution, caller, locks, standsBefore, isAdvance, rfl, rfl, done⟩
      · exact motion.held lawful leased standsBefore guardsBefore past
      · rw [(motion.acquires isAdvance standsBefore done).1]
        exact lawful.holder_self done
  · intro id execution lock startedAt handlerStart caller stands
    rcases motion.workers stands with ⟨standsBefore, _⟩ | ⟨_, placed⟩
    · exact leased.soon id execution lock startedAt handlerStart caller standsBefore
    · rcases placed.handles with standsBefore | ⟨standsBefore, rfl, rfl⟩
      · exact leased.soon id execution lock startedAt handlerStart caller standsBefore
      · have quick : before.now - lock.acquiredAt <
            milliseconds execution.job.lockSeconds - milliseconds execution.job.timeoutSeconds :=
          prompt _ standsBefore (execution, lock) rfl
        exact outlives quick

/-! ## One at a time -/

/-- Handlers of one job that are within their timeout belong to one worker. -/
def Apart (state : State Locks) : Prop :=
  forall first execution lock startedAt handlerStart caller
    second other otherLock otherStartedAt otherStart otherCaller,
    state.workers first = some (.running (.handling execution lock startedAt handlerStart) caller) ->
    state.workers second = some (.running (.handling other otherLock otherStartedAt otherStart) otherCaller) ->
    execution.job.key = other.job.key ->
    state.now ≤ handlerStart + milliseconds execution.job.timeoutSeconds ->
    state.now ≤ otherStart + milliseconds other.job.timeoutSeconds ->
    first = second

theorem Leased.apart {state : State Locks} (leased : Leased engine state) : Apart state := by
  intro first execution lock startedAt handlerStart caller second other otherLock otherStartedAt otherStart
    otherCaller standsFirst standsSecond sameJob within otherWithin
  have mine := leased.held first _ lock execution.job standsFirst rfl
    (lt_of_le_of_lt within (leased.soon first execution lock startedAt handlerStart caller standsFirst))
  have theirs := leased.held second _ otherLock other.job standsSecond rfl
    (lt_of_le_of_lt otherWithin (leased.soon second other otherLock otherStartedAt otherStart otherCaller standsSecond))
  rw [sameJob, theirs, Option.some.injEq, Prod.mk.injEq] at mine
  have ownFirst := leased.owned first _ lock standsFirst rfl
  have ownSecond := leased.owned second _ otherLock standsSecond rfl
  rw [mine.1] at ownSecond
  exact leased.owner_unique ownFirst ownSecond

/-- Whatever an action takes from the holders of locks had run out, or is
released by the worker that acquired it. -/
def ReleasesOwn (engine : Engine Locks) (state : State Locks) (action : SchedulerAction) : Prop :=
  forall key token expiry,
    engine.locks.holder state.locks key = some (token, expiry) ->
    engine.locks.holder ((scheduler engine).attempt state action).locks key ≠ some (token, expiry) ->
    expiry ≤ state.now ∨
      Exists fun id => action.performs = some id ∧ (token, id) ∈ state.acquired ∧
        forall other, (token, other) ∈ state.acquired -> other = id

theorem Leased.releasesOwn {state : State Locks} (lawful : engine.locks.Lawful)
    (leased : Leased engine state) (action : SchedulerAction) : ReleasesOwn engine state action := by
  intro key token expiry held gone
  unfold Machine.attempt at gone
  split at gone
  · rename_i next accepted
    rcases (schedulerStep_motion accepted).locks with ⟨same, _⟩ | ⟨id, worker, performs, stands, effect⟩
    · rw [same] at gone
      exact absurd held gone
    · cases effect with
      | kept same acquired =>
        rw [same] at gone
        exact absurd held gone
      | acquired execution caller isWorker done acquired =>
        refine Or.inl ?_
        by_contra unexpired
        have holds : engine.locks.Holds state.locks state.now key token expiry := ⟨held, not_le.mp unexpired⟩
        exact gone (lawful.holds_acquire done holds).1
      | released lock rethrows caller isWorker released acquired =>
        subst isWorker
        rw [released] at gone
        have isOwn := lawful.released_eq held gone
        subst isOwn
        have mine := leased.owned id _ lock stands rfl
        exact Or.inr ⟨id, performs, mine, fun other theirs => leased.owner_unique theirs mine⟩
  · exact absurd held gone

/-- With a lawful lock store and prompt store writes, handlers of one job that
are within their timeout never overlap, and a worker releases only a lock that
it has acquired itself. -/
theorem handlers_exclude (engine : Engine Locks) (lawful : engine.locks.Lawful) (now : Time) (locks : Locks)
    (actions : List SchedulerAction)
    (prompt : (scheduler engine).Admits Prompt (State.opening now locks) actions) :
    Apart ((scheduler engine).run (State.opening now locks) actions) ∧
    forall action, ReleasesOwn engine ((scheduler engine).run (State.opening now locks) actions) action := by
  have opening : Leased engine (State.opening now locks) := by
    constructor
    · exact fun token id acquired => absurd acquired List.not_mem_nil
    · exact List.nodup_nil
    · intro id worker lock stands
      cases stands
    · intro id worker lock job stands
      cases stands
    · intro id execution lock startedAt handlerStart caller stands
      cases stands
  have keeps : forall state action next, Leased engine state -> Prompt state action ->
      (scheduler engine).step state action = .ok next -> Leased engine next := by
    intro state action next leased prompt accepted
    have motion := schedulerStep_motion accepted
    exact motion.leased lawful prompt leased
  have leased := Machine.run_invariant_of_admits keeps opening prompt
  exact ⟨leased.apart, leased.releasesOwn lawful⟩

instance (state : State Locks) (action : SchedulerAction) : Decidable (Prompt state action) :=
  match action with
  | .advance id =>
    inferInstanceAs (Decidable (forall worker, worker ∈ state.workers id ->
      forall begun, begun ∈ worker.begins -> state.now - begun.2.acquiredAt <
        milliseconds begun.1.job.lockSeconds - milliseconds begun.1.job.timeoutSeconds))
  | .runJob .. | .runDueJobs .. | .recoverAbandonedRuns _ | .setJobEnabled .. | .acknowledgeFailure ..
  | .retryFailure .. | .throws .. | .handlerReturns .. | .handlerThrows .. | .timeout _ | .crash _
  | .pass _ => isTrue trivial

/-- A run by hand meets the lock of a tick.  The handler of the tick times out,
and its lock stays; a later run by hand gets the lock once it has run out. -/
def outlastedTick : List SchedulerAction :=
  handledTick ++ [.runJob 1 "payments.operations" .manual false] ++ List.replicate 6 (.advance 1) ++
  [.pass 1000300000, .timeout 0, .advance 0, .advance 0, .pass 1000360000,
    .runJob 2 "payments.operations" .manual false] ++ List.replicate 6 (.advance 2)

theorem handlers_exclude_after_outlastedTick :
    Apart (paymentOperationsRun outlastedTick) ∧
    forall action, ReleasesOwn (memoryEngine paymentOperationsRegistry) (paymentOperationsRun outlastedTick) action :=
  handlers_exclude (memoryEngine paymentOperationsRegistry) LeaseStore.ofMap_lawful 1000000000
    (fun _ => none) outlastedTick (by decide +kernel)

end Scheduler
end DigitalSolutions

import DigitalSolutions.Scheduler.Lineage

namespace DigitalSolutions
namespace Scheduler

open Foundation Persistence

/-!
# Retries that are owed

A retry is taken over by a worker before the child's handler is called: a tick
consumes the waiting run, a recovery marks the run as abandoned.  From there to
the call of the handler the retry exists in that worker only.
-/

variable {Locks : Type} {engine : Engine Locks} {before after : State Locks}
variable {action : SchedulerAction} {worker later : Worker}
variable {runId : Draw} {id : Nat} {execution : Execution} {row : ScheduledJobRun}

/-! ## On the way from a run to its child -/

/-- The run that an automatic retry is for. -/
def IdempotencyKey.source : IdempotencyKey -> Option Draw
  | .retry runId _ => some runId
  | _ => none

/-- The created run that the worker has yet to start, no lock being in its way. -/
def Worker.readies : Worker -> Option Execution
  | .running (.acquiring execution) _ | .running (.locked execution _) _
  | .running (.starting execution _ _) _ => some execution
  | _ => none

/-- The run whose retry is on its way in this worker. -/
def Worker.carries : Worker -> Option Draw
  | .reportingAbandoned _ run true _ _ => some run.id
  | .running (.synchronizing _ input _ _) _ | .running (.readingDefinition _ input _) _
  | .running (.readingParent _ input _ _) _ | .running (.creating _ input _ _) _ =>
    input.idempotencyKey.bind IdempotencyKey.source
  | worker => worker.readies.bind (fun execution => execution.run.idempotencyKey.source)

/-- The run whose retry the statement takes over. -/
def Worker.takes : Worker -> Option Draw
  | .abandoning _ run _ true _ _ => some run.id
  | .consuming _ _ run _ => some run.id
  | _ => none

/-- Nothing is in the way of the statement: the job is enabled, the lock is free. -/
def Worker.Clear (engine : Engine Locks) (state : State Locks) : Worker -> Prop
  | .running (.readingDefinition job _ _) _ =>
    (state.definitions.lookup job.key).any ScheduledJobDefinition.enabled = true
  | .running (.acquiring execution) _ =>
    engine.locks.Free state.locks state.now (engine.lockKey execution.job.key)
  | _ => True

/-- The condition: a worker that carries a retry is not stopped, none of its
statements throws, and nothing is in its way; and a statement that takes over a
retry does not throw after it has taken effect. -/
def Unbroken (engine : Engine Locks) (state : State Locks) : SchedulerAction -> Prop
  | .advance id => forall worker, worker ∈ state.workers id -> worker.carries ≠ none ->
    worker.Clear engine state
  | .throws id _ committed => forall worker, worker ∈ state.workers id ->
    worker.carries = none ∧ (committed = true -> worker.takes = none)
  | .crash id => forall worker, worker ∈ state.workers id -> worker.carries = none
  | _ => True

/-- A run that has failed or was abandoned, with attempts left, under a policy
that retries. -/
def Owes (engine : Engine Locks) (run : ScheduledJobRun) : Prop :=
  run.status = .retrying ∨
  run.status = .abandoned ∧
    Exists fun job => engine.registry.get run.jobKey = some job ∧ run.attempt < job.maxAttempts

/-- The run still waits, or its retry is on its way, or the handler of a child
has been called. -/
def Kept (state : State Locks) (runId : Draw) : Prop :=
  (Exists fun row => row ∈ state.runs ∧ row.id = runId ∧ row.status = .retrying) ∨
  (Exists fun id => Exists fun worker => state.workers id = some worker ∧ worker.carries = some runId) ∨
  Exists fun child => child ∈ state.runs ∧ child.parentRunId = some runId ∧ child.id ∈ state.started

/-- The child of an automatic retry has been started, or is about to be. -/
def Attended (state : State Locks) : Prop :=
  forall row, row ∈ state.runs -> forall parentId attempt, row.idempotencyKey = .retry parentId attempt ->
    row.id ∈ state.started ∨
    Exists fun id => Exists fun worker => Exists fun execution =>
      state.workers id = some worker ∧ worker.readies = some execution ∧ execution.run.id = row.id

/-! ## A retry on its way -/

theorem source_eq_some {key : IdempotencyKey} :
    key.source = some runId ↔ Exists fun attempt => key = .retry runId attempt := by
  cases key with
  | retry parentId attempt =>
    constructor
    · intro same
      cases same
      exact ⟨attempt, rfl⟩
    · rintro ⟨number, same⟩
      cases same
      rfl
  | _ =>
    constructor
    · intro impossible
      cases impossible
    · rintro ⟨number, impossible⟩
      cases impossible

theorem Worker.carries_of_readies (readies : worker.readies = some execution) :
    worker.carries = execution.run.idempotencyKey.source := by
  cases worker with
  | running point caller =>
    cases point with
    | acquiring => cases readies; rfl
    | locked => cases readies; rfl
    | starting => cases readies; rfl
    | _ => cases readies
  | _ => cases readies

theorem Worker.executes_of_readies (readies : worker.readies = some execution) :
    worker.executes = some execution := by
  cases worker with
  | running point caller =>
    cases point with
    | acquiring => exact readies
    | locked => exact readies
    | starting => exact readies
    | _ => cases readies
  | _ => cases readies

/-- With the lock free, the worker comes to start its run. -/
theorem Worker.readies_next (lawful : engine.locks.Lawful) (executed : Executed before)
    (stands : before.workers id = some worker) (readies : worker.readies = some execution)
    (clear : worker.Clear engine before) :
    (worker.effect engine id before).isSome = true ∧
      ((Exists fun later => worker.next engine before = some later ∧ later.readies = some execution) ∨
        worker.starts = some execution.run.id) := by
  cases worker with
  | running point caller =>
    cases point with
    | acquiring prepared =>
      cases readies
      have granted := lawful.acquire_isSome (milliseconds execution.job.lockSeconds) before.draws clear
      rcases Option.isSome_iff_exists.mp granted with ⟨locks, done⟩
      simp only [Worker.effect, RunPoint.effect, Worker.next, RunPoint.next, done, Option.isSome_some,
        true_and]
      exact Or.inl ⟨_, rfl, rfl⟩
    | locked prepared lock =>
      cases readies
      exact ⟨rfl, Or.inl ⟨_, rfl, rfl⟩⟩
    | starting prepared lock startedAt =>
      cases readies
      refine ⟨?_, Or.inr rfl⟩
      rcases executed.recorded id _ execution stands rfl with ⟨row, member, terms⟩
      simp only [Worker.effect, RunPoint.effect, State.withRuns, Option.isSome_map]
      exact updateRun_isSome member (id_of_terms terms)
    | _ => cases readies
  | _ => cases readies

/-- What becomes of a carried retry when its worker goes on. -/
inductive Brings (engine : Engine Locks) (state : State Locks) (worker : Worker) (runId : Draw) : Prop
  | carried (later : Worker) (isNext : worker.next engine state = some later)
    (carries : later.carries = some runId)
  | started (execution : Execution) (readies : worker.readies = some execution)
    (starts : worker.starts = some execution.run.id)
  /-- The child is there already. -/
  | taken (creates : worker.readies = none) (holder : ScheduledJobRun) (member : holder ∈ state.runs)
    (isRetry : holder.idempotencyKey.source = some runId)

theorem Worker.carries_next (lawful : engine.locks.Lawful) (consistent : Consistent engine before)
    (stands : before.workers id = some worker) (carries : worker.carries = some runId)
    (clear : worker.Clear engine before) :
    (worker.effect engine id before).isSome = true ∧ Brings engine before worker runId := by
  have ready : forall execution, worker.readies = some execution ->
      (worker.effect engine id before).isSome = true ∧ Brings engine before worker runId := by
    intro execution readies
    rcases Worker.readies_next lawful consistent.executed stands readies clear with
      ⟨works, ⟨later, isNext, laterReadies⟩ | starts⟩
    · refine ⟨works, .carried later isNext ?_⟩
      rw [Worker.carries_of_readies laterReadies, ← Worker.carries_of_readies readies, carries]
    · exact ⟨works, .started execution readies starts⟩
  cases worker with
  | reportingAbandoned now run retryable rest next =>
    cases retryable with
    | false => cases carries
    | true =>
      rcases consistent.known.promised id now run rest next stands with ⟨job, registered, _⟩
      have begun : beginRun engine.registry before.now (retryInput now run) (.recovering now rest next) =
          some (.running (.synchronizing job (retryInput now run) before.now engine.registry.jobs)
            (.recovering now rest next)) := by
        simp only [beginRun, retryInput, registered, Option.map_some]
      exact ⟨rfl, .carried _ begun carries⟩
  | running point caller =>
    cases point with
    | synchronizing job input now rest =>
      refine ⟨rfl, ?_⟩
      by_cases short : rest.length ≤ 1
      · exact .carried _ (if_pos short) carries
      · exact .carried _ (if_neg short) carries
    | readingDefinition job input now =>
      rw [Worker.Clear, Option.any_eq_true] at clear
      rcases clear with ⟨definition, found, enabled⟩
      have isRetry : input.idempotencyKey.bind IdempotencyKey.source = some runId := carries
      rw [Option.bind_eq_some_iff] at isRetry
      rcases isRetry with ⟨key, given, isSource⟩
      rcases source_eq_some.mp isSource with ⟨attempt, rfl⟩
      rcases (consistent.founded id _ job input stands rfl).automatic runId attempt given with
        ⟨named, live, _⟩
      constructor
      · simp only [Worker.effect, RunPoint.effect, found, Option.isSome_some, if_true]
      · refine .carried (.running (.readingParent job input now (newRun job input now before.draws)) caller)
          ?_ carries
        simp only [Worker.next, RunPoint.next, found, enabled, live, named, Bool.true_eq_false, if_false,
          Bool.false_and, Bool.false_eq_true, Option.isSome_some, if_true]
    | readingParent job input now create => exact ⟨rfl, .carried _ rfl carries⟩
    | creating job input now create =>
      have isRetry : input.idempotencyKey.bind IdempotencyKey.source = some runId := carries
      rw [Option.bind_eq_some_iff] at isRetry
      rcases isRetry with ⟨key, given, isSource⟩
      have sameKey := ((consistent.proper id _ stands).drafted job input now create rfl).idempotencyKey given
      have creates := consistent.fresh.createRun_isSome stands rfl
      rcases Option.isSome_iff_exists.mp creates with ⟨⟨runs, created⟩, done⟩
      constructor
      · simp only [Worker.effect, RunPoint.effect, State.withRuns, done, Option.map_some, Option.isSome_some]
      · cases created with
        | true =>
          refine .carried (.running (.acquiring ⟨job, input, now, create.scheduledFor,
            create.row before.draws⟩) caller) ?_ ?_
          · simp only [Worker.next, RunPoint.next, done]
          · exact (congrArg IdempotencyKey.source sameKey).trans isSource
        | false =>
          rcases createRun_eq_some done with ⟨impossible, _⟩ | ⟨_, _, holder, member, holds⟩
          · cases impossible
          · exact .taken rfl holder member (by rw [holds, sameKey, isSource])
    | acquiring execution => exact ready execution rfl
    | locked execution lock => exact ready execution rfl
    | starting execution lock startedAt => exact ready execution rfl
    | _ => cases carries
  | _ => cases carries

/-- Under the condition, a worker that carries a retry waits or goes on. -/
theorem Motion.carrier (motion : Motion engine before action after)
    (unbroken : Unbroken engine before action) (stands : before.workers id = some worker)
    (carries : worker.carries = some runId) :
    (action.mover ≠ some id ∧ after.workers id = some worker) ∨
      (action = .advance id ∧ worker.Clear engine before) := by
  have loaded : worker.carries ≠ none := by
    rw [carries]
    exact Option.some_ne_none runId
  by_cases about : action.mover = some id
  · have awaits : forall execution lock startedAt handlerStart caller,
        worker ≠ .running (.handling execution lock startedAt handlerStart) caller := by
      rintro execution lock startedAt handlerStart caller rfl
      cases carries
    rcases motion.mover_cases about stands awaits with rfl | ⟨message, committed, rfl⟩ | rfl
    · exact Or.inr ⟨rfl, unbroken worker stands loaded⟩
    · exact absurd (unbroken worker stands).1 loaded
    · exact absurd (unbroken worker stands) loaded
  · exact Or.inl ⟨about, (motion.unmoved about).trans stands⟩

/-- A worker that readies a run still does, or has started it. -/
theorem Motion.readies (motion : Motion engine before action after)
    (unbroken : Unbroken engine before action) (lawful : engine.locks.Lawful) (executed : Executed before)
    (stands : before.workers id = some worker) (readies : worker.readies = some execution)
    (isRetry : execution.run.idempotencyKey.source = some runId) :
    execution.run.id ∈ after.started ∨
      Exists fun later => after.workers id = some later ∧ later.readies = some execution := by
  have carries : worker.carries = some runId := (Worker.carries_of_readies readies).trans isRetry
  rcases motion.carrier unbroken stands carries with ⟨_, stays⟩ | ⟨isAdvance, clear⟩
  · exact Or.inr ⟨worker, stays, readies⟩
  · rcases Worker.readies_next lawful executed stands readies clear with ⟨works, outcome⟩
    rcases motion.advances isAdvance stands works with ⟨isNext, began⟩
    rcases outcome with ⟨later, next, laterReadies⟩ | starts
    · exact Or.inr ⟨later, isNext.trans next, laterReadies⟩
    · refine Or.inl ?_
      rw [began, starts]
      exact List.mem_cons_self

/-- The execution that a worker readies is the run of the history. -/
theorem Executed.readied {state : State Locks} (executed : Executed state)
    (stands : state.workers id = some worker) (readies : worker.readies = some execution)
    (member : row ∈ state.runs) (same : execution.run.id = row.id) :
    runTerms execution.run = runTerms row := by
  rcases executed.recorded id worker execution stands (Worker.executes_of_readies readies) with
    ⟨recorded, recordedMember, terms⟩
  rw [← terms, eq_of_id recordedMember member ((id_of_terms terms).trans same)]

theorem Motion.attended (motion : Motion engine before action after) (unbroken : Unbroken engine before action)
    (lawful : engine.locks.Lawful) (consistent : Consistent engine before) (attended : Attended before) :
    Attended after := by
  intro row member parentId attempt isRetry
  rcases motion.came member with ⟨old, oldMember, terms⟩ |
    ⟨id, job, input, now, create, caller, stands, performs, rfl, inserted⟩
  · rw [idempotencyKey_of_terms terms] at isRetry
    rw [id_of_terms terms]
    rcases attended old oldMember parentId attempt isRetry with started |
      ⟨id, worker, execution, stands, readies, same⟩
    · exact Or.inl (motion.started_mono started)
    · have recorded := consistent.executed.readied stands readies oldMember same
      have isSource : execution.run.idempotencyKey.source = some parentId := by
        rw [idempotencyKey_of_terms recorded, isRetry]
        rfl
      rcases motion.readies unbroken lawful consistent.executed stands readies isSource with started |
        ⟨later, laterStands, laterReadies⟩
      · rw [same] at started
        exact Or.inl started
      · exact Or.inr ⟨id, later, execution, laterStands, laterReadies, same⟩
  · have draftOf := (consistent.proper id _ stands).drafted job input now create rfl
    have carries : (Worker.running (.creating job input now create) caller).carries = some parentId := by
      have given := draftOf.retry isRetry
      simp only [Worker.carries, given, Option.bind_some, IdempotencyKey.source]
    rcases motion.carrier unbroken stands carries with ⟨elsewhere, _⟩ | ⟨isAdvance, clear⟩
    · exact absurd (mover_of_performs performs) elsewhere
    · have works := (Worker.carries_next lawful consistent stands carries clear).1
      have done : createRun create before.draws before.runs = some (after.runs, true) := by
        simp only [createRun, inserted]
      refine Or.inr ⟨id, .running (.acquiring ⟨job, input, now, create.scheduledFor,
        create.row before.draws⟩) caller, _, ?_, rfl, rfl⟩
      rw [(motion.advances isAdvance stands works).1]
      simp only [Worker.next, RunPoint.next, done]

/-! ## Nothing is lost -/

/-- A recorded child of an automatic retry that has been started. -/
theorem Motion.kept_of_started (motion : Motion engine before action after)
    (descended : Descended engine before) {child : ScheduledJobRun} (member : child ∈ before.runs)
    (isRetry : child.idempotencyKey.source = some runId) (started : child.id ∈ after.started) :
    Kept after runId := by
  rcases motion.kept member with ⟨later, laterMember, terms⟩
  rcases source_eq_some.mp isRetry with ⟨attempt, isKey⟩
  have isChild := (descended.automatic child member runId attempt isKey).1
  refine Or.inr (Or.inr ⟨later, laterMember, ?_, ?_⟩)
  · rw [parentRunId_of_terms terms, isChild]
  · rw [id_of_terms terms]
    exact started

/-- A retry that a worker carries is not lost when the worker goes on. -/
theorem Motion.kept_of_carried (motion : Motion engine before action after)
    (unbroken : Unbroken engine before action) (lawful : engine.locks.Lawful)
    (consistent : Consistent engine before) (attended : Attended before)
    (stands : before.workers id = some worker) (carries : worker.carries = some runId) :
    Kept after runId := by
  rcases motion.carrier unbroken stands carries with ⟨_, stays⟩ | ⟨isAdvance, clear⟩
  · exact Or.inr (Or.inl ⟨id, worker, stays, carries⟩)
  · rcases Worker.carries_next lawful consistent stands carries clear with ⟨works, brings⟩
    rcases motion.advances isAdvance stands works with ⟨isNext, began⟩
    cases brings with
    | carried later next laterCarries => exact Or.inr (Or.inl ⟨id, later, isNext.trans next, laterCarries⟩)
    | started execution readies starts =>
      rcases consistent.executed.recorded id worker execution stands (Worker.executes_of_readies readies) with
        ⟨child, member, terms⟩
      refine motion.kept_of_started consistent.descended member ?_ ?_
      · rw [idempotencyKey_of_terms terms, ← Worker.carries_of_readies readies, carries]
      · rw [began, starts, id_of_terms terms]
        exact List.mem_cons_self
    | taken unreadied holder member isRetry =>
      rcases source_eq_some.mp isRetry with ⟨attempt, isKey⟩
      rcases attended holder member runId attempt isKey with started |
        ⟨other, otherWorker, execution, otherStands, readies, same⟩
      · exact motion.kept_of_started consistent.descended member isRetry (motion.started_mono started)
      · have recorded := consistent.executed.readied otherStands readies member same
        have apart : other ≠ id := by
          rintro rfl
          rw [stands, Option.some.injEq] at otherStands
          rw [otherStands, readies] at unreadied
          cases unreadied
        have elsewhere : action.mover ≠ some other := by
          rw [isAdvance]
          intro about
          exact apart (Option.some.inj about).symm
        refine Or.inr (Or.inl ⟨other, otherWorker, (motion.unmoved elsewhere).trans otherStands, ?_⟩)
        rw [Worker.carries_of_readies readies, idempotencyKey_of_terms recorded, isRetry]

theorem takes_of_writes_abandoned (writes : worker.writes = some (runId, .abandoned)) :
    Exists fun now => Exists fun run => Exists fun startedAt => Exists fun retryable =>
      Exists fun rest => Exists fun next =>
        worker = .abandoning now run startedAt retryable rest next ∧ run.id = runId := by
  cases worker with
  | abandoning now run startedAt retryable rest next =>
    exact ⟨now, run, startedAt, retryable, rest, next, rfl, congrArg Prod.fst (Option.some.inj writes)⟩
  | running point caller =>
    cases point with
    | markingConflict => cases writes
    | starting => cases writes
    | succeeding => cases writes
    | failing execution lock startedAt completedAt message =>
      have status := congrArg Prod.snd (Option.some.inj writes)
      simp only at status
      split at status <;> cases status
    | _ => cases writes
  | _ => cases writes

/-- A statement that takes over a retry goes on to carry it. -/
theorem Performed.kept_of_takes (motion : Motion engine before action after)
    (performed : Performed before after action id worker) (unbroken : Unbroken engine before action)
    (takes : worker.takes = some runId) (works : (worker.effect engine id before).isSome = true)
    (leads : Exists fun later => worker.next engine before = some later ∧ later.carries = some runId) :
    Kept after runId := by
  have performs := performed.performs
  cases action with
  | advance other =>
    cases performs
    rcases leads with ⟨later, isNext, carries⟩
    rcases motion.advances rfl performed.stands works with ⟨stands, _⟩
    exact Or.inr (Or.inl ⟨id, later, stands.trans isNext, carries⟩)
  | throws other message committed =>
    cases committed with
    | false => cases performs
    | true =>
      cases performs
      have untaken := (unbroken worker performed.stands).2 rfl
      rw [takes] at untaken
      cases untaken
  | _ => cases performs

/-- A run that is marked as abandoned, with attempts left, is retried. -/
theorem Performed.kept_of_abandoned (motion : Motion engine before action after)
    (performed : Performed before after action id worker) (unbroken : Unbroken engine before action)
    (known : Known engine before) (member : row ∈ before.runs)
    (writes : worker.writes = some (row.id, .abandoned))
    (worthy : Exists fun job => engine.registry.get row.jobKey = some job ∧ row.attempt < job.maxAttempts) :
    Kept after row.id := by
  rcases takes_of_writes_abandoned writes with ⟨now, run, startedAt, retryable, rest, next, rfl, same⟩
  rcases known.listed id _ run performed.stands List.mem_cons_self with ⟨recorded, recordedMember, terms⟩
  have isRow : recorded = row := eq_of_id recordedMember member ((id_of_terms terms).trans same)
  subst isRow
  rcases known.judged id now run startedAt retryable rest next performed.stands with
    ⟨job, registered, judged⟩
  rcases worthy with ⟨other, isOther, left⟩
  rw [jobKey_of_terms terms, registered, Option.some.injEq] at isOther
  subst isOther
  rw [attempt_of_terms terms] at left
  have isRetryable : retryable = true := judged.trans (decide_eq_true left)
  subst isRetryable
  refine performed.kept_of_takes motion unbroken (congrArg some same) ?_ ⟨_, rfl, congrArg some same⟩
  simp only [Worker.effect, State.withRuns, Option.isSome_map]
  exact updateRun_isSome recordedMember (id_of_terms terms)

/-- A consumed run is retried. -/
theorem Performed.kept_of_consumed (motion : Motion engine before action after)
    (performed : Performed before after action id worker) (unbroken : Unbroken engine before action)
    (consistent : Consistent engine before) (member : row ∈ before.runs)
    (consumes : worker.consumes = some row.id) (retrying : row.status = .retrying) : Kept after row.id := by
  cases worker with
  | consuming now trigger run rest =>
    have same : run.id = row.id := Option.some.inj consumes
    rcases consistent.known.listed id _ run performed.stands List.mem_cons_self with
      ⟨recorded, recordedMember, terms⟩
    have isRow : recorded = row := eq_of_id recordedMember member ((id_of_terms terms).trans same)
    subst isRow
    rcases consistent.registered recorded member with ⟨job, registered⟩
    have source : consumesRetrySource run.id before.runs = true :=
      consumesRetrySource_eq_true.mpr ⟨recorded, member, same.symm, retrying⟩
    refine performed.kept_of_takes motion unbroken consumes rfl ⟨.running (.synchronizing job
      (retryInput now run) before.now engine.registry.jobs) (.retrying now trigger rest), ?_,
      congrArg some same⟩
    simp only [Worker.next, source, if_true, beginRun, retryInput, ← jobKey_of_terms terms, registered,
      Option.map_some]
  | _ => cases consumes

theorem Worker.writes_executes {status : RunStatus} (writes : worker.writes = some (runId, status)) :
    (Exists fun execution => worker.executes = some execution ∧ execution.run.id = runId) ∨
      status = .abandoned := by
  cases worker with
  | running point caller =>
    cases point with
    | markingConflict execution => exact Or.inl ⟨execution, rfl, congrArg Prod.fst (Option.some.inj writes)⟩
    | starting execution lock startedAt =>
      exact Or.inl ⟨execution, rfl, congrArg Prod.fst (Option.some.inj writes)⟩
    | succeeding execution lock startedAt completedAt summary =>
      exact Or.inl ⟨execution, rfl, congrArg Prod.fst (Option.some.inj writes)⟩
    | failing execution lock startedAt completedAt message =>
      exact Or.inl ⟨execution, rfl, congrArg Prod.fst (Option.some.inj writes)⟩
    | _ => cases writes
  | abandoning => exact Or.inr (congrArg Prod.snd (Option.some.inj writes)).symm
  | _ => cases writes

theorem Motion.keeps (motion : Motion engine before action after)
    (unbroken : Unbroken engine before action) (lawful : engine.locks.Lawful)
    (consistent : Consistent engine before) (attended : Attended before) (kept : Kept before runId) :
    Kept after runId := by
  rcases kept with ⟨row, member, rfl, retrying⟩ | ⟨id, worker, stands, carries⟩ |
    ⟨child, member, isChild, started⟩
  · have waits := consistent.waiting row member retrying
    rcases motion.performed with same | ⟨id, worker, performed⟩
    · rw [← same] at member
      exact Or.inl ⟨row, member, rfl, retrying⟩
    · rcases performed.effect.forward member with ⟨later, laterMember, terms, moves⟩
      cases moves with
      | kept status retryAt =>
        exact Or.inl ⟨later, laterMember, id_of_terms terms, status.trans retrying⟩
      | consumed consumes wasSource isFailed retryAt =>
        exact performed.kept_of_consumed motion unbroken consistent member consumes retrying
      | written writes unretried =>
        rcases Worker.writes_executes writes with ⟨execution, executes, same⟩ | isAbandoned
        · exact absurd same (waits.idle id worker execution performed.stands executes)
        · rw [isAbandoned] at writes
          exact performed.kept_of_abandoned motion unbroken consistent.known member writes waits.worthy
  · exact motion.kept_of_carried unbroken lawful consistent attended stands carries
  · rcases motion.kept member with ⟨later, laterMember, terms⟩
    refine Or.inr (Or.inr ⟨later, laterMember, ?_, ?_⟩)
    · rw [parentRunId_of_terms terms, isChild]
    · rw [id_of_terms terms]
      exact motion.started_mono started

theorem Owes.of_terms {old : ScheduledJobRun} (owes : Owes engine row)
    (terms : runTerms row = runTerms old) (status : row.status = old.status) : Owes engine old := by
  rw [Owes, status, jobKey_of_terms terms, attempt_of_terms terms] at owes
  exact owes

/-- Every retry that is owed is kept. -/
def AllKept (engine : Engine Locks) (state : State Locks) : Prop :=
  forall row, row ∈ state.runs -> Owes engine row -> Kept state row.id

theorem Motion.allKept (motion : Motion engine before action after) (unbroken : Unbroken engine before action)
    (lawful : engine.locks.Lawful) (consistent : Consistent engine before) (attended : Attended before)
    (allKept : AllKept engine before) : AllKept engine after := by
  intro row member owes
  have stays : forall old, old ∈ before.runs -> runTerms row = runTerms old -> row.status = old.status ->
      Kept after row.id := by
    intro old oldMember terms status
    have kept := allKept old oldMember (owes.of_terms terms status)
    rw [id_of_terms terms]
    exact motion.keeps unbroken lawful consistent attended kept
  rcases motion.performed with same | ⟨id, worker, performed⟩
  · rw [same] at member
    exact stays row member rfl rfl
  · rcases performed.effect.backward member with ⟨old, oldMember, terms, moves⟩ | ⟨create, _, rfl, _⟩
    · cases moves with
      | kept status retryAt => exact stays old oldMember terms status
      | consumed consumes wasSource isFailed retryAt =>
        rw [id_of_terms terms]
        exact performed.kept_of_consumed motion unbroken consistent oldMember consumes wasSource
      | written writes unretried =>
        rcases owes with retrying | ⟨abandoned, worthy⟩
        · exact Or.inl ⟨row, member, rfl, retrying⟩
        · rw [abandoned] at writes
          rw [jobKey_of_terms terms, attempt_of_terms terms] at worthy
          rw [id_of_terms terms]
          exact performed.kept_of_abandoned motion unbroken consistent.known oldMember writes worthy
    · rcases owes with impossible | ⟨impossible, _⟩
      · cases impossible
      · cases impossible

/-- What the scheduler keeps while no retry is broken off. -/
structure Sound (engine : Engine Locks) (state : State Locks) : Prop where
  consistent : Consistent engine state
  attended : Attended state
  allKept : AllKept engine state

theorem sound_opening (engine : Engine Locks) (now : Time) (locks : Locks) :
    Sound engine (State.opening now locks) where
  consistent := consistent_opening engine now locks
  attended := fun _ member => absurd member (Table.not_mem_empty _)
  allKept := fun _ member => absurd member (Table.not_mem_empty _)

theorem sound_step (lawful : engine.locks.Lawful) {state next : State Locks} (sound : Sound engine state)
    (unbroken : Unbroken engine state action) (accepted : (scheduler engine).step state action = .ok next) :
    Sound engine next := by
  have motion := schedulerStep_motion accepted
  exact ⟨motion.consistent sound.consistent,
    motion.attended unbroken lawful sound.consistent sound.attended,
    motion.allKept unbroken lawful sound.consistent sound.attended sound.allKept⟩

/-- While no retry is broken off on its way, none is lost: from the moment a
run owes a retry, it waits, its retry is on its way, or the handler of a child
has been called. -/
theorem no_retry_lost (engine : Engine Locks) (lawful : engine.locks.Lawful) (now : Time) (locks : Locks)
    (first second : List SchedulerAction)
    (admitted : (scheduler engine).Admits (Unbroken engine) (State.opening now locks) (first ++ second))
    (run : ScheduledJobRun)
    (member : run ∈ ((scheduler engine).run (State.opening now locks) first).runs)
    (owes : Owes engine run) :
    Kept ((scheduler engine).run (State.opening now locks) (first ++ second)) run.id := by
  have reached := Machine.run_invariant_of_admits
    (fun state action next sound unbroken accepted => sound_step lawful sound unbroken accepted)
    (sound_opening engine now locks) admitted.left
  have keeps : forall state action next, (Sound engine state ∧ Kept state run.id) ->
      Unbroken engine state action -> (scheduler engine).step state action = .ok next ->
      (Sound engine next ∧ Kept next run.id) := by
    rintro state action next ⟨sound, kept⟩ unbroken accepted
    exact ⟨sound_step lawful sound unbroken accepted,
      (schedulerStep_motion accepted).keeps unbroken lawful sound.consistent sound.attended kept⟩
  have final := Machine.run_invariant_of_admits keeps ⟨reached, reached.allKept run member owes⟩
    admitted.right
  rw [← Machine.run_append] at final
  exact final.2

/-! ## A retry that is taken up, and one that is not -/

instance (engine : Engine Locks) (state : State Locks) (worker : Worker) :
    Decidable (worker.Clear engine state) :=
  match worker with
  | .running (.readingDefinition job _ _) _ =>
    inferInstanceAs (Decidable ((state.definitions.lookup job.key).any ScheduledJobDefinition.enabled = true))
  | .running (.acquiring execution) _ =>
    inferInstanceAs (Decidable (engine.locks.Free state.locks state.now (engine.lockKey execution.job.key)))
  | .running (.synchronizing ..) _ | .running (.readingParent ..) _ | .running (.creating ..) _
  | .running (.markingConflict _) _ | .running (.reportingConflict _) _ | .running (.locked ..) _
  | .running (.starting ..) _ | .running (.handling ..) _ | .running (.succeeding ..) _
  | .running (.reportingSuccess ..) _ | .running (.failing ..) _ | .running (.reportingFailure ..) _
  | .running (.releasing ..) _ | .synchronizing .. | .listingRunning .. | .abandoning ..
  | .reportingAbandoned .. | .listingRetries .. | .consuming .. | .listingDue .. | .enabling ..
  | .reportingEnabled .. | .findingFailure .. | .acknowledging .. | .reportingAcknowledged ..
  | .requestingRetry .. => isTrue trivial

instance (engine : Engine Locks) (state : State Locks) (action : SchedulerAction) :
    Decidable (Unbroken engine state action) :=
  match action with
  | .advance id =>
    inferInstanceAs (Decidable (forall worker, worker ∈ state.workers id -> worker.carries ≠ none ->
      worker.Clear engine state))
  | .throws id _ committed =>
    inferInstanceAs (Decidable (forall worker, worker ∈ state.workers id ->
      worker.carries = none ∧ (committed = true -> worker.takes = none)))
  | .crash id =>
    inferInstanceAs (Decidable (forall worker, worker ∈ state.workers id -> worker.carries = none))
  | .runJob .. | .runDueJobs .. | .recoverAbandonedRuns _ | .setJobEnabled .. | .acknowledgeFailure ..
  | .retryFailure .. | .handlerReturns .. | .handlerThrows .. | .timeout _ | .pass _ => isTrue trivial

/-- The handler throws, and the run is to be retried. -/
def failedTick : List SchedulerAction :=
  handledTick ++ [.handlerThrows 0 "connection lost", .advance 0, .advance 0, .advance 0]

/-- The next tick takes the retry up. -/
def retryingTick : List SchedulerAction :=
  [.pass 1000100000, .runDueJobs 1 .cron] ++ List.replicate 12 (.advance 1)

theorem no_retry_lost_by_retryingTick :
    Exists fun run => run ∈ (paymentOperationsRun failedTick).runs ∧
      Owes (memoryEngine paymentOperationsRegistry) run ∧
      Kept (paymentOperationsRun (failedTick ++ retryingTick)) run.id := by
  have waits : Exists fun run => run ∈ (paymentOperationsRun failedTick).runs.rows ∧
      run.status = .retrying := by
    decide +kernel
  rcases waits with ⟨run, member, retrying⟩
  have owes : Owes (memoryEngine paymentOperationsRegistry) run := Or.inl retrying
  exact ⟨run, member, owes, no_retry_lost (memoryEngine paymentOperationsRegistry) LeaseStore.ofMap_lawful
    1000000000 (fun _ => none) failedTick retryingTick (by decide +kernel) run member owes⟩

/-- An operator pauses the job; the next tick consumes the waiting run and finds
the job paused. -/
def pausedTick : List SchedulerAction :=
  [.setJobEnabled 1 "payments.operations" false "operator", .advance 1, .advance 1, .advance 1,
    .pass 1000100000, .runDueJobs 2 .cron] ++ List.replicate 7 (.advance 2)

/-- Nobody stands where no action has put a worker. -/
theorem run_workers (engine : Engine Locks) (state : State Locks) (actions : List SchedulerAction)
    (absent : forall action, action ∈ actions -> action.mover ≠ some id) :
    ((scheduler engine).run state actions).workers id = state.workers id := by
  induction actions generalizing state with
  | nil => rfl
  | cons action rest inductionHypothesis =>
    rw [Machine.run_cons, inductionHypothesis _ (fun other member => absent other (List.mem_cons_of_mem _ member))]
    exact Machine.attempt_elim (motive := fun next : State Locks => next.workers id = state.workers id) rfl
      (fun next accepted => (schedulerStep_motion accepted).unmoved (absent action List.mem_cons_self))

/-- The run owed a retry.  Now no worker is left, the run has failed, and it
has no child. -/
theorem retry_lost_by_pausedTick :
    Exists fun run => run ∈ (paymentOperationsRun failedTick).runs ∧
      Owes (memoryEngine paymentOperationsRegistry) run ∧
      (forall row, row ∈ (paymentOperationsRun (failedTick ++ pausedTick)).runs -> row.status = .failed) ∧
      ¬ Kept (paymentOperationsRun (failedTick ++ pausedTick)) run.id := by
  have waits : Exists fun run => run ∈ (paymentOperationsRun failedTick).runs.rows ∧
      run.status = .retrying := by
    decide +kernel
  have failed : forall row, row ∈ (paymentOperationsRun (failedTick ++ pausedTick)).runs.rows ->
      row.status = .failed ∧ row.parentRunId = none := by
    decide +kernel
  have gone : forall id, (paymentOperationsRun (failedTick ++ pausedTick)).workers id = none := by
    intro id
    by_cases few : id < 3
    · have stopped : forall few, few < 3 ->
          ((paymentOperationsRun (failedTick ++ pausedTick)).workers few).isNone = true := by
        decide +kernel
      exact Option.isNone_iff_eq_none.mp (stopped id few)
    · refine (run_workers _ _ _ ?_).trans rfl
      intro action member about
      have small : forall action, action ∈ failedTick ++ pausedTick -> action.mover.all (fun moved => moved < 3) := by
        decide +kernel
      have bound := small action member
      rw [about] at bound
      exact few (of_decide_eq_true bound)
  rcases waits with ⟨run, member, retrying⟩
  refine ⟨run, member, Or.inl retrying, fun row rowMember => (failed row rowMember).1, ?_⟩
  rintro (⟨row, rowMember, _, isRetrying⟩ | ⟨id, worker, stands, _⟩ | ⟨child, childMember, isChild, _⟩)
  · rw [(failed row rowMember).1] at isRetrying
    cases isRetrying
  · rw [gone id] at stands
    cases stands
  · rw [(failed child childMember).2] at isChild
    cases isChild

end Scheduler
end DigitalSolutions

import DigitalSolutions.Scheduler.Engine

namespace DigitalSolutions
namespace Scheduler

open Foundation Persistence

/-!
# What one step of the scheduler does

A step moves one worker, and writes at most one run.  What a statement writes
can be read off the statement itself.
-/

variable {Locks : Type} {engine : Engine Locks} {before after : State Locks}
variable {action : SchedulerAction} {workerId : Nat} {worker later : Worker}
variable {row : ScheduledJobRun} {runs : Option Runs}

/-! ## Motions -/

/-- The worker whose statement takes effect. -/
def SchedulerAction.performs : SchedulerAction -> Option Nat
  | .advance workerId | .throws workerId _ true => some workerId
  | _ => none

/-- The worker that an action is about. -/
def SchedulerAction.mover : SchedulerAction -> Option Nat
  | .runJob workerId .. | .runDueJobs workerId _ | .recoverAbandonedRuns workerId
  | .setJobEnabled workerId .. | .acknowledgeFailure workerId .. | .retryFailure workerId ..
  | .advance workerId | .throws workerId .. | .handlerReturns workerId _ | .handlerThrows workerId _
  | .timeout workerId | .crash workerId => some workerId
  | .pass _ => none

theorem mover_of_performs (performs : action.performs = some workerId) :
    action.mover = some workerId := by
  cases action with
  | advance => exact performs
  | throws moved message committed =>
    cases committed with
    | true => exact performs
    | false => cases performs
  | _ => cases performs

/-- The points a handler's end leads to. -/
def settles (execution : Execution) (lock : Lock) (startedAt now : Time) (point : RunPoint) : Prop :=
  (Exists fun summary => point = .succeeding execution lock startedAt now summary) ∨
  Exists fun message => point = .failing execution lock startedAt now message

inductive Motion (engine : Engine Locks) (before : State Locks) (action : SchedulerAction) :
    State Locks -> Prop
  | called (workerId : Nat) (worker : Worker) (free : before.workers workerId = none)
    (call : action.call engine.registry before.now = some (workerId, worker)) :
    Motion engine before action (before.place workerId (some worker))
  | advanced (workerId : Nat) (worker : Worker) (done : State Locks)
    (isAdvance : action = .advance workerId) (stands : before.workers workerId = some worker)
    (effect : worker.effect engine workerId before = some done) :
    Motion engine before action
      ((done.begun worker.starts).place workerId (worker.next engine before))
  /-- A statement throws without a trace. -/
  | thrown (workerId : Nat) (worker : Worker) (message : String)
    (stands : before.workers workerId = some worker) (awaits : worker.awaits = true)
    (how : (action = .advance workerId ∧ worker.effect engine workerId before = none) ∨
      Exists fun committed => action = .throws workerId message committed) :
    Motion engine before action (before.place workerId (worker.thrown engine before message))
  /-- A statement takes effect and throws. -/
  | lost (workerId : Nat) (worker : Worker) (done : State Locks) (message : String)
    (stands : before.workers workerId = some worker) (awaits : worker.awaits = true)
    (effect : worker.effect engine workerId before = some done)
    (isThrow : action = .throws workerId message true) :
    Motion engine before action (done.place workerId (worker.thrown engine before message))
  | settled (workerId : Nat) (execution : Execution) (lock : Lock) (startedAt handlerStart : Time)
    (caller : Caller) (point : RunPoint) (moves : action.mover = some workerId)
    (unperformed : action.performs = none)
    (stands : before.workers workerId =
      some (.running (.handling execution lock startedAt handlerStart) caller))
    (settles : settles execution lock startedAt before.now point) :
    Motion engine before action (before.place workerId (some (.running point caller)))
  | crashed (workerId : Nat) (isCrash : action = .crash workerId) :
    Motion engine before action (before.place workerId none)
  | passed (moment : Time) (isPass : action = .pass moment) (forward : before.now ≤ moment) :
    Motion engine before action { before with now := moment }

/-- A statement whose store throws is one that could throw. -/
theorem awaits_of_effect (failed : worker.effect engine workerId before = none) :
    worker.awaits = true := by
  cases worker with
  | running point caller =>
    cases point with
    | locked => cases failed
    | handling => cases failed
    | _ => rfl
  | _ => rfl

theorem schedulerStep_motion (accepted : schedulerStep engine before action = .ok after) :
    Motion engine before action after := by
  have called : forall found,
      action.call engine.registry before.now = some found ->
      (before.workers found.1).isSome = false ->
      Motion engine before action (before.place found.1 (some found.2)) := by
    intro found call free
    exact .called found.1 found.2 (by simpa using free) call
  cases action with
  | advance workerId =>
    simp only [schedulerStep] at accepted
    split at accepted
    · cases accepted
    · rename_i worker _ stands
      cases accepted
      unfold advance
      split
      · rename_i done effect
        exact .advanced workerId _ done rfl stands effect
      · rename_i failed
        exact .thrown workerId _ _ stands (awaits_of_effect failed) (Or.inl ⟨rfl, failed⟩)
    · cases accepted
  | throws workerId message committed =>
    simp only [schedulerStep] at accepted
    split at accepted
    · rename_i worker stands
      split at accepted
      · rename_i awaits
        cases accepted
        unfold throwFrom
        split
        · rename_i isCommitted
          subst isCommitted
          cases effect : worker.effect engine workerId before with
          | none => exact .thrown workerId worker message stands awaits (Or.inr ⟨true, rfl⟩)
          | some done => exact .lost workerId worker done message stands awaits effect rfl
        · exact .thrown workerId worker message stands awaits (Or.inr ⟨committed, rfl⟩)
      · cases accepted
    · cases accepted
  | handlerReturns workerId summary =>
    simp only [schedulerStep] at accepted
    split at accepted
    · rename_i execution lock startedAt handlerStart caller stands
      cases accepted
      exact .settled workerId execution lock startedAt handlerStart caller _ rfl rfl stands
        (Or.inl ⟨summary, rfl⟩)
    · cases accepted
  | handlerThrows workerId message =>
    simp only [schedulerStep] at accepted
    split at accepted
    · rename_i execution lock startedAt handlerStart caller stands
      cases accepted
      exact .settled workerId execution lock startedAt handlerStart caller _ rfl rfl stands
        (Or.inr ⟨message, rfl⟩)
    · cases accepted
  | timeout workerId =>
    simp only [schedulerStep] at accepted
    split at accepted
    · rename_i execution lock startedAt handlerStart caller stands
      split at accepted
      · cases accepted
        exact .settled workerId execution lock startedAt handlerStart caller _ rfl rfl stands
          (Or.inr ⟨timeoutMessage, rfl⟩)
      · cases accepted
    · cases accepted
  | crash workerId =>
    cases accepted
    exact .crashed workerId rfl
  | pass moment =>
    simp only [schedulerStep] at accepted
    split at accepted
    · rename_i forward
      cases accepted
      exact .passed moment rfl forward
    · cases accepted
  | _ =>
    simp only [schedulerStep] at accepted
    split at accepted
    · cases accepted
    · rename_i found worker call
      split at accepted
      · cases accepted
      · rename_i free
        cases accepted
        exact called (found, worker) call (by simpa using free)

/-! ## What a statement leaves alone -/

theorem withRuns_eq_some (written : before.withRuns runs = some after) :
    Exists fun rows => runs = some rows ∧ after = { before with runs := rows } := by
  rw [State.withRuns, Option.map_eq_some_iff] at written
  rcases written with ⟨rows, isRows, same⟩
  exact ⟨rows, isRows, same.symm⟩

/-- A statement moves no worker, no clock and no supply. -/
structure Framed (before after : State Locks) : Prop where
  now : after.now = before.now
  workers : after.workers = before.workers
  draws : after.draws = before.draws
  started : after.started = before.started

theorem framed_withRuns (written : before.withRuns runs = some after) :
    Framed before after := by
  rcases withRuns_eq_some written with ⟨rows, _, rfl⟩
  exact ⟨rfl, rfl, rfl, rfl⟩

theorem framed_synchronizeFirst (now : Time) (rest : List ScheduledJob) :
    Framed before (before.synchronizeFirst now rest) := by
  cases rest with
  | nil => exact ⟨rfl, rfl, rfl, rfl⟩
  | cons job rest => exact ⟨rfl, rfl, rfl, rfl⟩

private theorem framed_map {change : State Locks -> State Locks}
    (kept : forall state, Framed state (change state))
    (written : (before.withRuns runs).map change = some after) : Framed before after := by
  rw [Option.map_eq_some_iff] at written
  rcases written with ⟨middle, writes, rfl⟩
  have first := framed_withRuns writes
  have second := kept middle
  exact ⟨second.now.trans first.now, second.workers.trans first.workers,
    second.draws.trans first.draws, second.started.trans first.started⟩

theorem RunPoint.framed {point : RunPoint} (effect : point.effect engine workerId before = some after) :
    Framed before after := by
  cases point with
  | synchronizing job input now rest =>
    cases effect
    exact framed_synchronizeFirst now rest
  | readingDefinition job input now =>
    rw [RunPoint.effect] at effect
    split at effect
    · cases effect
      exact ⟨rfl, rfl, rfl, rfl⟩
    · cases effect
  | creating job input now create => exact framed_withRuns effect
  | acquiring execution =>
    rw [RunPoint.effect] at effect
    split at effect
    · cases effect
      exact ⟨rfl, rfl, rfl, rfl⟩
    · cases effect
      exact ⟨rfl, rfl, rfl, rfl⟩
  | markingConflict execution => exact framed_withRuns effect
  | starting execution lock startedAt => exact framed_withRuns effect
  | succeeding execution lock startedAt completedAt summary =>
    rw [RunPoint.effect] at effect
    refine framed_map ?_ effect
    intro state
    exact ⟨rfl, rfl, rfl, rfl⟩
  | failing execution lock startedAt completedAt message =>
    rw [RunPoint.effect] at effect
    refine framed_map ?_ effect
    intro state
    exact ⟨rfl, rfl, rfl, rfl⟩
  | _ =>
    cases effect
    exact ⟨rfl, rfl, rfl, rfl⟩

theorem Worker.framed (effect : worker.effect engine workerId before = some after) :
    Framed before after := by
  cases worker with
  | running point caller => exact RunPoint.framed effect
  | synchronizing now rest next =>
    cases effect
    exact framed_synchronizeFirst now rest
  | abandoning now run startedAt retryable rest next => exact framed_withRuns effect
  | acknowledging run actorId => exact framed_withRuns effect
  | enabling key enabled actorId =>
    rw [Worker.effect, Option.map_eq_some_iff] at effect
    rcases effect with ⟨definitions, _, rfl⟩
    exact ⟨rfl, rfl, rfl, rfl⟩
  | _ =>
    cases effect
    exact ⟨rfl, rfl, rfl, rfl⟩

/-! ## What a statement writes into the run history -/

/-- What no operation ever changes in a run. -/
def runTerms (run : ScheduledJobRun) :
    Draw × String × Nat × IdempotencyKey × Option Draw × Time × Draw :=
  (run.id, run.jobKey, run.attempt, run.idempotencyKey, run.parentRunId, run.scheduledFor,
    run.correlationId)

/-- The terms, the status and the retry of a run. -/
def runState (run : ScheduledJobRun) :
    (Draw × String × Nat × IdempotencyKey × Option Draw × Time × Draw) × RunStatus × Option Time :=
  (runTerms run, run.status, run.retryAt)

/-- The status that a statement is about to give to a run. -/
def Worker.writes : Worker -> Option (Draw × RunStatus)
  | .running (.markingConflict execution) _ => some (execution.run.id, .skipped)
  | .running (.starting execution _ _) _ => some (execution.run.id, .running)
  | .running (.succeeding execution _ _ _ _) _ => some (execution.run.id, .succeeded)
  | .running (.failing execution _ _ _ message) _ =>
    some (execution.run.id, if execution.retryable message then .retrying else .failed)
  | .abandoning _ run _ _ _ _ => some (run.id, .abandoned)
  | _ => none

def Worker.creates : Worker -> Option CreateRun
  | .running (.creating _ _ _ create) _ => some create
  | _ => none

def Worker.consumes : Worker -> Option Draw
  | .consuming _ _ run _ => some run.id
  | _ => none

inductive RunEffect (worker : Worker) (draws : Draw) (before after : Runs) : Prop
  | kept (same : Table.SameColumn runState before after) (unwritten : worker.writes = none)
    (unconsumed : worker.consumes = none)
    (taken : forall create, worker.creates = some create -> Exists fun holder =>
      holder ∈ before ∧ holder.idempotencyKey = create.idempotencyKey)
  | created (create : CreateRun) (creates : worker.creates = some create)
    (inserted : before.insert (create.row draws) = some after)
  | written (runId : Draw) (status : RunStatus) (writes : worker.writes = some (runId, status))
    (change : ScheduledJobRun -> ScheduledJobRun)
    (rows : after.rows = before.rows.map (fun row => if row.id = runId then change row else row))
    (keeps : forall row, runTerms (change row) = runTerms row)
    (sets : forall row, (change row).status = status)
    (unretried : status = .failed -> forall row, (change row).retryAt = none)
    (present : Exists fun row => row ∈ before ∧ row.id = runId)
  | consumed (runId : Draw) (consumes : worker.consumes = some runId)
    (rows : after.rows = before.rows.map (fun row =>
      if isRetrySource runId row = true then { row with status := .failed } else row))

variable {draws : Draw}

private theorem runEffect_quiet {before after : Runs} (same : after = before)
    (unwritten : worker.writes = none) (unconsumed : worker.consumes = none)
    (uncreated : worker.creates = none) : RunEffect worker draws before after := by
  subst same
  refine .kept (Table.SameColumn.refl _ _) unwritten unconsumed ?_
  intro create creates
  rw [uncreated] at creates
  cases creates

theorem RunPoint.runEffect {point : RunPoint} (caller : Caller)
    (effect : point.effect engine workerId before = some after) :
    RunEffect (.running point caller) before.draws before.runs after.runs := by
  cases point with
  | synchronizing job input now rest =>
    cases effect
    refine runEffect_quiet ?_ rfl rfl rfl
    cases rest <;> rfl
  | readingDefinition job input now =>
    rw [RunPoint.effect] at effect
    split at effect
    · cases effect
      exact runEffect_quiet rfl rfl rfl rfl
    · cases effect
  | creating job input now create =>
    rcases withRuns_eq_some effect with ⟨rows, isRows, rfl⟩
    rw [Option.map_eq_some_iff] at isRows
    rcases isRows with ⟨⟨runs, created⟩, done, rfl⟩
    rcases createRun_eq_some done with ⟨_, inserted⟩ | ⟨_, same, holder, member, holds⟩
    · exact .created create rfl inserted
    · subst same
      refine .kept (Table.SameColumn.refl _ _) rfl rfl ?_
      intro other creates
      cases creates
      exact ⟨holder, member, holds⟩
  | acquiring execution =>
    rw [RunPoint.effect] at effect
    split at effect
    · cases effect
      exact runEffect_quiet rfl rfl rfl rfl
    · cases effect
      exact runEffect_quiet rfl rfl rfl rfl
  | markingConflict execution =>
    rcases withRuns_eq_some effect with ⟨rows, isRows, rfl⟩
    exact .written _ _ rfl _ (updateRun_eq_some isRows) (fun _ => rfl) (fun _ => rfl)
      (fun impossible => by cases impossible) (updateRun_present isRows)
  | starting execution lock startedAt =>
    rcases withRuns_eq_some effect with ⟨rows, isRows, rfl⟩
    exact .written _ _ rfl _ (updateRun_eq_some isRows) (fun _ => rfl) (fun _ => rfl)
      (fun impossible => by cases impossible) (updateRun_present isRows)
  | succeeding execution lock startedAt completedAt summary =>
    rw [RunPoint.effect, Option.map_eq_some_iff] at effect
    rcases effect with ⟨middle, writes, rfl⟩
    rcases withRuns_eq_some writes with ⟨rows, isRows, rfl⟩
    exact .written _ _ rfl _ (updateRun_eq_some isRows) (fun _ => rfl) (fun _ => rfl)
      (fun impossible => by cases impossible) (updateRun_present isRows)
  | failing execution lock startedAt completedAt message =>
    rw [RunPoint.effect, Option.map_eq_some_iff] at effect
    rcases effect with ⟨middle, writes, rfl⟩
    rcases withRuns_eq_some writes with ⟨rows, isRows, rfl⟩
    refine .written _ _ rfl _ (updateRun_eq_some isRows) (fun _ => rfl) ?_ ?_ (updateRun_present isRows)
    · intro row
      cases retryable : execution.retryable message <;>
        simp only [Execution.retryAt, retryable, if_true, Bool.false_eq_true, if_false,
          Option.isSome_some, Option.isSome_none]
    · intro final row
      cases retryable : execution.retryable message with
      | true =>
        rw [retryable] at final
        cases final
      | false => simp only [Execution.retryAt, retryable, Bool.false_eq_true, if_false]
  | _ =>
    cases effect
    exact runEffect_quiet rfl rfl rfl rfl

theorem Worker.runEffect (effect : worker.effect engine workerId before = some after) :
    RunEffect worker before.draws before.runs after.runs := by
  cases worker with
  | running point caller => exact RunPoint.runEffect caller effect
  | synchronizing now rest next =>
    cases effect
    refine runEffect_quiet ?_ rfl rfl rfl
    cases rest <;> rfl
  | abandoning now run startedAt retryable rest next =>
    rcases withRuns_eq_some effect with ⟨rows, isRows, rfl⟩
    exact .written _ _ rfl _ (updateRun_eq_some isRows) (fun _ => rfl) (fun _ => rfl)
      (fun impossible => by cases impossible) (updateRun_present isRows)
  | consuming now trigger run rest =>
    cases effect
    exact .consumed _ rfl rfl
  | acknowledging run actorId =>
    rcases withRuns_eq_some effect with ⟨rows, isRows, rfl⟩
    refine .kept ?_ rfl rfl (fun create creates => by cases creates)
    have rows' := updateRun_eq_some isRows
    unfold Table.SameColumn
    rw [rows', List.map_map]
    refine List.map_congr_left (fun row _ => ?_)
    simp only [Function.comp]
    split <;> rfl
  | enabling key enabled actorId =>
    rw [Worker.effect, Option.map_eq_some_iff] at effect
    rcases effect with ⟨definitions, _, rfl⟩
    exact runEffect_quiet rfl rfl rfl rfl
  | _ =>
    cases effect
    exact runEffect_quiet rfl rfl rfl rfl

/-- What a statement does to one run. -/
inductive StatusMove (worker : Worker) (row later : ScheduledJobRun) : Prop
  | kept (status : later.status = row.status) (retryAt : later.retryAt = row.retryAt)
  | written (writes : worker.writes = some (row.id, later.status))
    (unretried : later.status = .failed -> later.retryAt = none)
  | consumed (consumes : worker.consumes = some row.id) (wasSource : row.status = .retrying)
    (isFailed : later.status = .failed) (retryAt : later.retryAt = row.retryAt)

/-- The same run, before and after a statement. -/
def MovesTo (worker : Worker) (row later : ScheduledJobRun) : Prop :=
  runTerms later = runTerms row ∧ StatusMove worker row later

theorem id_of_terms {later : ScheduledJobRun} (same : runTerms later = runTerms row) :
    later.id = row.id := congrArg Prod.fst same

theorem parentRunId_of_terms {later : ScheduledJobRun} (same : runTerms later = runTerms row) :
    later.parentRunId = row.parentRunId := congrArg (fun terms => terms.2.2.2.2.1) same

private theorem movesTo_of_state {later : ScheduledJobRun} (same : runState later = runState row) :
    MovesTo worker row later := by
  simp only [runState, Prod.mk.injEq] at same
  exact ⟨same.1, .kept same.2.1 same.2.2⟩

/-- Every run is still there after a statement. -/
theorem RunEffect.forward {before after : Runs} (effect : RunEffect worker draws before after)
    (member : row ∈ before) :
    Exists fun later => later ∈ after ∧ MovesTo worker row later := by
  cases effect with
  | kept same unwritten unconsumed taken =>
    rcases same.after member with ⟨later, laterMember, sameState⟩
    exact ⟨later, laterMember, movesTo_of_state sameState⟩
  | created create creates inserted =>
    exact ⟨row, (Table.mem_insert inserted).mpr (Or.inl member), rfl, .kept rfl rfl⟩
  | written runId status writes change rows keeps sets unretried present =>
    by_cases chosen : row.id = runId
    · refine ⟨change row, (Table.mem_of_rows rows).mpr ⟨row, member, if_pos chosen⟩, keeps row, ?_⟩
      refine .written ?_ ?_
      · rw [writes, sets row, chosen]
      · intro failed
        rw [sets row] at failed
        exact unretried failed row
    · exact ⟨row, (Table.mem_of_rows rows).mpr ⟨row, member, if_neg chosen⟩, rfl, .kept rfl rfl⟩
  | consumed runId consumes rows =>
    by_cases chosen : isRetrySource runId row = true
    · refine ⟨_, (Table.mem_of_rows rows).mpr ⟨row, member, if_pos chosen⟩, rfl, ?_⟩
      simp only [isRetrySource, Bool.and_eq_true, decide_eq_true_eq] at chosen
      exact .consumed (by rw [consumes, chosen.1]) chosen.2 rfl rfl
    · exact ⟨row, (Table.mem_of_rows rows).mpr ⟨row, member, if_neg chosen⟩, rfl, .kept rfl rfl⟩

/-- A run was there before a statement, or the statement has created it. -/
theorem RunEffect.backward {before after : Runs} {later : ScheduledJobRun}
    (effect : RunEffect worker draws before after) (member : later ∈ after) :
    (Exists fun row => row ∈ before ∧ MovesTo worker row later) ∨
    Exists fun create => worker.creates = some create ∧ later = create.row draws ∧
      before.insert (create.row draws) = some after := by
  cases effect with
  | kept same unwritten unconsumed taken =>
    rcases same.before member with ⟨row, rowMember, sameState⟩
    exact Or.inl ⟨row, rowMember, movesTo_of_state sameState.symm⟩
  | created create creates inserted =>
    rcases (Table.mem_insert inserted).mp member with old | isNew
    · exact Or.inl ⟨later, old, rfl, .kept rfl rfl⟩
    · exact Or.inr ⟨create, creates, isNew, inserted⟩
  | written runId status writes change rows keeps sets unretried present =>
    rcases (Table.mem_of_rows rows).mp member with ⟨row, rowMember, became⟩
    refine Or.inl ⟨row, rowMember, ?_⟩
    by_cases chosen : row.id = runId
    · rw [if_pos chosen] at became
      rw [← became]
      refine ⟨keeps row, .written ?_ ?_⟩
      · rw [writes, sets row, chosen]
      · intro failed
        rw [sets row] at failed
        exact unretried failed row
    · rw [if_neg chosen] at became
      subst became
      exact ⟨rfl, .kept rfl rfl⟩
  | consumed runId consumes rows =>
    rcases (Table.mem_of_rows rows).mp member with ⟨row, rowMember, became⟩
    refine Or.inl ⟨row, rowMember, ?_⟩
    by_cases chosen : isRetrySource runId row = true
    · rw [if_pos chosen] at became
      rw [← became]
      simp only [isRetrySource, Bool.and_eq_true, decide_eq_true_eq] at chosen
      exact ⟨rfl, .consumed (by rw [consumes, chosen.1]) chosen.2 rfl rfl⟩
    · rw [if_neg chosen] at became
      subst became
      exact ⟨rfl, .kept rfl rfl⟩

/-- A `createRun` that reports a creation has inserted the row. -/
theorem RunEffect.created_insert {job : ScheduledJob} {input : RunJobInput} {now : Time}
    {create : CreateRun} {caller : Caller} {before after runs : Runs}
    (effect : RunEffect (.running (.creating job input now create) caller) draws before after)
    (done : createRun create draws before = some (runs, true)) :
    before.insert (create.row draws) = some after := by
  have inserted : before.insert (create.row draws) = some runs := by
    rcases createRun_eq_some done with ⟨_, inserted⟩ | ⟨impossible, _⟩
    · exact inserted
    · cases impossible
  cases effect with
  | kept same unwritten unconsumed taken =>
    rcases taken create rfl with ⟨holder, member, holds⟩
    have refused := Table.insert_eq_none_of_lookup
      (Table.lookup_of_mem before member
        (by simp [Keyed.keys] : ScheduledJobRun.Key.idempotencyKey holder.idempotencyKey ∈ Keyed.keys holder))
      (by simp [Keyed.keys, CreateRun.row, holds] :
        ScheduledJobRun.Key.idempotencyKey holder.idempotencyKey ∈ Keyed.keys (create.row draws))
    rw [inserted] at refused
    cases refused
  | created other creates insertedOther =>
    cases creates
    exact insertedOther
  | written runId status writes => cases writes
  | consumed runId consumes => cases consumes

/-- The identifier of a created run is new. -/
theorem ne_of_insert_id {before runs : Runs} {new : ScheduledJobRun}
    (inserted : before.insert new = some runs) (member : row ∈ before) : row.id ≠ new.id := by
  intro same
  have absent := Table.lookup_eq_none_of_insert inserted
    (by simp [Keyed.keys] : ScheduledJobRun.Key.id new.id ∈ Keyed.keys new)
  exact (before.lookup_eq_none.mp absent row member) (by simp [Keyed.keys, same])

/-- A handler is called only by the statement right before it. -/
theorem Motion.started (motion : Motion engine before action after) :
    after.started = before.started ∨
    Exists fun id => Exists fun worker => Exists fun runId =>
      before.workers id = some worker ∧ action.mover = some id ∧ worker.starts = some runId ∧
        after.started = runId :: before.started := by
  cases motion with
  | advanced workerId worker done isAdvance stands effect =>
    have framed := Worker.framed effect
    cases starts : worker.starts with
    | none =>
      refine Or.inl ?_
      simp only [State.place, State.begun, Option.toList_none, List.nil_append, framed.started]
    | some runId =>
      refine Or.inr ⟨workerId, worker, runId, stands, by rw [isAdvance]; rfl, starts, ?_⟩
      simp only [State.place, State.begun, Option.toList_some, List.cons_append, List.nil_append,
        framed.started]
  | lost workerId worker done message stands awaits effect isThrow =>
    exact Or.inl (Worker.framed effect).started
  | called => exact Or.inl rfl
  | thrown => exact Or.inl rfl
  | settled => exact Or.inl rfl
  | crashed => exact Or.inl rfl
  | passed => exact Or.inl rfl

end Scheduler
end DigitalSolutions

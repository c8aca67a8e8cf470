import DigitalSolutions.Scheduler.Records

namespace DigitalSolutions
namespace Scheduler

open Foundation Persistence

/-!
# Success is final

The outcome of a run is written by its identifier alone, and the catch block
of `runJob` also catches what is thrown after the success has been recorded.
While every recorded outcome meets a run that is still `running`, a run that
has succeeded stays so, and nobody ever creates a child of it.
-/

variable {Locks : Type} {engine : Engine Locks} {before after : State Locks}
variable {action : SchedulerAction} {worker later : Worker}
variable {row : ScheduledJobRun}

/-- The statuses that record how a run has ended. -/
def outcomes : List RunStatus := [.succeeded, .failed, .retrying, .abandoned]

/-- The condition: an outcome is recorded for a run that is still `running`. -/
def StillRunning (state : State Locks) (action : SchedulerAction) : Prop :=
  forall workerId, action.performs = some workerId ->
    forall worker, state.workers workerId = some worker ->
      forall written, worker.writes = some written -> written.2 ∈ outcomes ->
        forall row, row ∈ state.runs.rows -> row.id = written.1 -> row.status = .running

/-- A run that is to be started is queued, and one worker at most is about to
start it.  A run with a child, or with a child on its way, has failed. -/
structure Orderly (state : State Locks) : Prop where
  queued : forall id worker execution, state.workers id = some worker ->
    worker.prepares = some execution ->
    Exists fun row => row ∈ state.runs ∧ row.id = execution.run.id ∧ row.status = .queued
  alone : forall first firstWorker execution second secondWorker other,
    state.workers first = some firstWorker -> firstWorker.prepares = some execution ->
    state.workers second = some secondWorker -> secondWorker.prepares = some other ->
    execution.run.id = other.run.id -> first = second
  borne : forall id worker parent, state.workers id = some worker -> worker.bears = some parent ->
    Exists fun row => row ∈ state.runs ∧ row.id = parent ∧ row.status ∈ failureStates true
  parents : forall child parent, child ∈ state.runs -> child.parentRunId = some parent ->
    Exists fun row => row ∈ state.runs ∧ row.id = parent ∧ row.status ∈ failureStates true

/-- A statement records an outcome, or writes the run that its worker is about
to start. -/
theorem Worker.writes_cases {runId : Draw} {status : RunStatus}
    (writes : worker.writes = some (runId, status)) :
    status ∈ outcomes ∨
    Exists fun execution => worker.prepares = some execution ∧ execution.run.id = runId := by
  cases worker with
  | running point caller =>
    cases point with
    | markingConflict execution =>
      cases writes
      exact Or.inr ⟨execution, rfl, rfl⟩
    | starting execution lock startedAt =>
      cases writes
      exact Or.inr ⟨execution, rfl, rfl⟩
    | succeeding =>
      cases writes
      exact Or.inl (by decide)
    | failing =>
      cases writes
      refine Or.inl ?_
      split <;> decide
    | _ => cases writes
  | abandoning =>
    cases writes
    exact Or.inl (by decide)
  | _ => cases writes

/-- A row that a statement writes was `running`, or queued for its worker. -/
theorem Performed.written {id : Nat} (performed : Performed before after action id worker)
    (orderly : Orderly before) (current : StillRunning before action) {status : RunStatus}
    (member : row ∈ before.runs) (writes : worker.writes = some (row.id, status)) :
    row.status = .running ∨
    row.status = .queued ∧
      Exists fun execution => worker.prepares = some execution ∧ execution.run.id = row.id := by
  rcases Worker.writes_cases writes with outcome | ⟨execution, prepares, sameId⟩
  · exact Or.inl (current id performed.performs worker performed.stands _ writes outcome row member rfl)
  · rcases orderly.queued id worker execution performed.stands prepares with ⟨queued, queuedMember, queuedId, status⟩
    have same : row = queued := eq_of_id member queuedMember (sameId.symm.trans queuedId.symm)
    refine Or.inr ⟨by rw [same, status], execution, prepares, sameId⟩

/-- Runs that have failed stay in a failed state. -/
theorem Performed.failed {id : Nat} (performed : Performed before after action id worker)
    (orderly : Orderly before) (current : StillRunning before action) (member : row ∈ before.runs)
    (failed : row.status ∈ failureStates true) :
    Exists fun later => later ∈ after.runs ∧ later.id = row.id ∧ later.status ∈ failureStates true := by
  rcases performed.effect.forward member with ⟨later, laterMember, terms, moves⟩
  refine ⟨later, laterMember, id_of_terms terms, ?_⟩
  cases moves with
  | kept status retryAt =>
    rw [status]
    exact failed
  | written writes unretried =>
    rcases performed.written orderly current member writes with running | ⟨queued, _⟩
    · rw [running] at failed
      exact absurd failed (by decide)
    · rw [queued] at failed
      exact absurd failed (by decide)
  | consumed consumes wasSource isFailed retryAt =>
    rw [isFailed]
    decide

/-- Runs that have failed stay in a failed state, whoever moves. -/
theorem Motion.failed (motion : Motion engine before action after) (orderly : Orderly before)
    (current : StillRunning before action) (member : row ∈ before.runs)
    (failed : row.status ∈ failureStates true) :
    Exists fun later => later ∈ after.runs ∧ later.id = row.id ∧ later.status ∈ failureStates true := by
  rcases motion.performed with same | ⟨id, worker, performed⟩
  · rw [same]
    exact ⟨row, member, rfl, failed⟩
  · exact performed.failed orderly current member failed

/-- A run that has succeeded keeps its status. -/
theorem Motion.succeeded (motion : Motion engine before action after) (orderly : Orderly before)
    (current : StillRunning before action) (member : row ∈ before.runs)
    (succeeded : row.status = .succeeded) :
    Exists fun later => later ∈ after.runs ∧ runTerms later = runTerms row ∧ later.status = .succeeded := by
  rcases motion.performed with same | ⟨id, worker, performed⟩
  · rw [same]
    exact ⟨row, member, rfl, succeeded⟩
  · rcases performed.effect.forward member with ⟨later, laterMember, terms, moves⟩
    refine ⟨later, laterMember, terms, ?_⟩
    cases moves with
    | kept status retryAt => exact status.trans succeeded
    | written writes unretried =>
      rcases performed.written orderly current member writes with running | ⟨queued, _⟩
      · rw [running] at succeeded
        cases succeeded
      · rw [queued] at succeeded
        cases succeeded
    | consumed consumes wasSource isFailed retryAt =>
      rw [wasSource] at succeeded
      cases succeeded

/-- A queued run stays queued while the statement of another worker, or one
that writes nothing, takes effect. -/
theorem Motion.queued (motion : Motion engine before action after) (orderly : Orderly before)
    (current : StillRunning before action) (member : row ∈ before.runs) (queued : row.status = .queued)
    (apart : forall id worker, Performed before after action id worker ->
      forall execution, worker.prepares = some execution -> execution.run.id = row.id ->
        worker.writes = none) :
    Exists fun later => later ∈ after.runs ∧ later.id = row.id ∧ later.status = .queued := by
  rcases motion.performed with same | ⟨id, worker, performed⟩
  · rw [same]
    exact ⟨row, member, rfl, queued⟩
  · rcases performed.effect.forward member with ⟨later, laterMember, terms, moves⟩
    refine ⟨later, laterMember, id_of_terms terms, ?_⟩
    cases moves with
    | kept status retryAt => exact status.trans queued
    | written writes unretried =>
      rcases performed.written orderly current member writes with running | ⟨_, execution, prepares, sameId⟩
      · rw [running] at queued
        cases queued
      · rw [apart id worker performed execution prepares sameId] at writes
        cases writes
    | consumed consumes wasSource isFailed retryAt =>
      rw [wasSource] at queued
      cases queued

/-- `runJob` goes on with the run that it prepares, or has just created it. -/
theorem Follows.prepares {point point' : RunPoint} {caller : Caller} {execution : Execution}
    (follows : Follows engine before point point')
    (prepares : (Worker.running point' caller).prepares = some execution) :
    ((Worker.running point caller).prepares = some execution ∧
      (Worker.running point caller).writes = none) ∨
    Exists fun job => Exists fun input => Exists fun now => Exists fun create => Exists fun runs =>
      point = .creating job input now create ∧ execution.run = create.row before.draws ∧
        createRun create before.draws before.runs = some (runs, true) := by
  cases follows with
  | created job input now create runs done =>
    cases prepares
    exact Or.inr ⟨job, input, now, create, runs, rfl, rfl, done⟩
  | acquired => exact Or.inl ⟨prepares, rfl⟩
  | conflicting => exact Or.inl ⟨prepares, rfl⟩
  | clocked => exact Or.inl ⟨prepares, rfl⟩
  | _ => cases prepares

theorem Worker.executes_of_prepares {execution : Execution} (prepares : worker.prepares = some execution) :
    worker.executes = some execution := by
  cases worker with
  | running point caller =>
    cases point with
    | acquiring => exact prepares
    | markingConflict => exact prepares
    | locked => exact prepares
    | starting => exact prepares
    | _ => cases prepares
  | _ => cases prepares

/-- Only a statement of `runJob` leads to a worker that prepares a run. -/
theorem Placed.prepares {id : Nat} {execution : Execution}
    (placed : Placed engine before after action id later) (prepares : later.prepares = some execution) :
    Exists fun point => Exists fun point' => Exists fun caller =>
      before.workers id = some (.running point caller) ∧ later = .running point' caller ∧
        action = .advance id ∧ Follows engine before point point' ∧
        RunEffect (.running point caller) before.draws before.runs after.runs := by
  have engaged := Worker.engaged_of_executes (Worker.executes_of_prepares prepares)
  rcases placed.passes engaged with ⟨point, point', caller, stands, rfl, passes⟩
  cases passes with
  | follows isAdvance follows effect => exact ⟨point, point', caller, stands, rfl, isAdvance, follows, effect⟩
  | catches message catches => cases catches <;> cases prepares
  | settles execution lock startedAt handlerStart isHandling settles =>
    rcases settles with ⟨summary, rfl⟩ | ⟨message, rfl⟩
    · cases prepares
    · cases prepares

/-- Where a worker that bears a child comes from. -/
theorem Motion.borne {id : Nat} {parent : Draw} (motion : Motion engine before action after)
    (orderly : Orderly before) (current : StillRunning before action)
    (placed : Placed engine before after action id later) (bears : later.bears = some parent) :
    Exists fun row => row ∈ after.runs ∧ row.id = parent ∧ row.status ∈ failureStates true := by
  have forward : forall {worker : Worker}, before.workers id = some worker ->
      worker.bears = some parent ->
      Exists fun row => row ∈ after.runs ∧ row.id = parent ∧ row.status ∈ failureStates true := by
    intro worker stands bearsBefore
    rcases orderly.borne id worker parent stands bearsBefore with ⟨row, member, sameId, failed⟩
    rcases motion.failed orderly current member failed with ⟨later, laterMember, laterId, failed⟩
    exact ⟨later, laterMember, laterId.trans sameId, failed⟩
  cases placed with
  | called later free idle unlisted tick requests =>
    rw [idle.bears] at bears
    cases bears
  | proceeded worker later stands isAdvance proceeds effect begun =>
    cases proceeds with
    | inside point point' caller same follows =>
      subst same
      refine forward stands ?_
      cases follows with
      | synchronizing => exact bears
      | synchronized => exact bears
      | child => exact bears
      | root => exact bears
      | parented => exact bears
      | _ => cases bears
    | resumed listed later known resumed =>
      rw [resumed.idle.bears] at bears
      cases bears
    | asked job input caller registered asked fewer tick =>
      cases asked with
      | due => cases bears
      | abandoned now run rest next isReport =>
        subst isReport
        exact forward stands bears
      | consumed now trigger run rest isConsumption source =>
        cases bears
        rcases consumesRetrySource_eq_true.mp source with ⟨row, member, sameId, retrying⟩
        rcases motion.failed orderly current member (by rw [retrying]; decide) with
          ⟨later, laterMember, laterId, failed⟩
        exact ⟨later, laterMember, laterId.trans sameId, failed⟩
      | manual run actorId isRequest =>
        subst isRequest
        exact forward stands bears
    | reporting now run startedAt retryable rest next same =>
      subst same
      cases retryable with
      | false => cases bears
      | true =>
        cases bears
        cases effect with
        | written runId status writes change rows keeps sets unretried present =>
          cases writes
          rcases present with ⟨row, member, sameId⟩
          refine ⟨change row, (Table.mem_of_rows rows).mpr ⟨row, member, if_pos sameId⟩, ?_, ?_⟩
          · rw [id_of_terms (keeps row), sameId]
          · rw [sets row]
            decide
        | kept same unwritten => cases unwritten
        | created create creates => cases creates
        | consumed runId consumes => cases consumes
    | requesting run actorId member failed same =>
      cases bears
      exact motion.failed orderly current member failed
    | quiet later idle unrequested unlisted tick =>
      rw [idle.bears] at bears
      cases bears
  | caught point point' caller message stands catches => cases catches <;> cases bears
  | resumed worker later stands resumed =>
    rw [resumed.idle.bears] at bears
    cases bears
  | settled execution lock startedAt handlerStart caller point stands settles runs =>
    rcases settles with ⟨summary, rfl⟩ | ⟨message, rfl⟩
    · cases bears
    · cases bears

/-- One step keeps the scheduler orderly. -/
theorem Motion.orderly (motion : Motion engine before action after) (proper : AllProper engine before)
    (orderly : Orderly before) (current : StillRunning before action) : Orderly after := by
  constructor
  · intro id later execution stands prepares
    rcases motion.workers stands with ⟨standsBefore, elsewhere⟩ | ⟨_, placed⟩
    · rcases orderly.queued id later execution standsBefore prepares with ⟨row, member, sameId, queued⟩
      have apart : forall other worker, Performed before after action other worker ->
          forall prepared, worker.prepares = some prepared -> prepared.run.id = row.id ->
            worker.writes = none := by
        intro other worker performed prepared otherPrepares same
        have isSame := orderly.alone other worker prepared id later execution performed.stands
          otherPrepares standsBefore prepares (same.trans sameId)
        rw [mover_of_performs performed.performs, isSame] at elsewhere
        exact absurd rfl elsewhere
      rcases motion.queued orderly current member queued apart with ⟨row', member', sameId', queued'⟩
      exact ⟨row', member', sameId'.trans sameId, queued'⟩
    · rcases placed.prepares prepares with ⟨point, point', caller, standsBefore, rfl, isAdvance, follows, effect⟩
      rcases follows.prepares prepares with ⟨preparesBefore, silent⟩ |
        ⟨job, input, now, create, runs, rfl, isRow, done⟩
      · rcases orderly.queued id _ execution standsBefore preparesBefore with ⟨row, member, sameId, queued⟩
        have apart : forall other worker, Performed before after action other worker ->
            forall prepared, worker.prepares = some prepared -> prepared.run.id = row.id ->
              worker.writes = none := by
          intro other worker performed prepared _ _
          have performs := performed.performs
          rw [isAdvance] at performs
          cases performs
          have same := performed.stands
          rw [standsBefore, Option.some.injEq] at same
          rw [← same]
          exact silent
        rcases motion.queued orderly current member queued apart with ⟨row', member', sameId', queued'⟩
        exact ⟨row', member', sameId'.trans sameId, queued'⟩
      · have inserted := effect.created_insert done
        exact ⟨create.row before.draws, (Table.mem_insert inserted).mpr (Or.inr rfl), by rw [isRow], rfl⟩
  · -- a created run is nobody else's
    have fresh : forall {id other : Nat} {later otherWorker : Worker} {execution prepared : Execution},
        after.workers id = some later -> later.prepares = some execution ->
        before.workers other = some otherWorker -> otherWorker.prepares = some prepared ->
        execution.run.id = prepared.run.id -> id = other := by
      intro id other later otherWorker execution prepared stands prepares otherStands otherPrepares same
      rcases motion.workers stands with ⟨standsBefore, _⟩ | ⟨_, placed⟩
      · exact orderly.alone id later execution other otherWorker prepared standsBefore prepares otherStands
          otherPrepares same
      · rcases placed.prepares prepares with ⟨point, point', caller, standsBefore, rfl, _, follows, effect⟩
        rcases follows.prepares prepares with ⟨preparesBefore, _⟩ |
          ⟨job, input, now, create, runs, rfl, isRow, done⟩
        · exact orderly.alone id _ execution other otherWorker prepared standsBefore preparesBefore
            otherStands otherPrepares same
        · rcases orderly.queued other otherWorker prepared otherStands otherPrepares with
            ⟨row, member, sameId, _⟩
          rw [isRow] at same
          exact absurd (sameId.trans same.symm) (ne_of_insert_id (effect.created_insert done) member)
    intro first firstWorker execution second secondWorker other standsFirst preparesFirst standsSecond
      preparesSecond same
    rcases motion.workers standsSecond with ⟨secondBefore, _⟩ | ⟨aboutSecond, placed⟩
    · exact fresh standsFirst preparesFirst secondBefore preparesSecond same
    · rcases motion.workers standsFirst with ⟨firstBefore, _⟩ | ⟨aboutFirst, _⟩
      · exact (fresh standsSecond preparesSecond firstBefore preparesFirst same.symm).symm
      · rw [aboutFirst, Option.some.injEq] at aboutSecond
        exact aboutSecond
  · intro id later parent stands bears
    rcases motion.workers stands with ⟨standsBefore, _⟩ | ⟨_, placed⟩
    · rcases orderly.borne id later parent standsBefore bears with ⟨row, member, sameId, failed⟩
      rcases motion.failed orderly current member failed with ⟨row', member', sameId', failed'⟩
      exact ⟨row', member', sameId'.trans sameId, failed'⟩
    · exact motion.borne orderly current placed bears
  · intro child parent member isChild
    have forward : forall row, row ∈ before.runs -> row.id = parent -> row.status ∈ failureStates true ->
        Exists fun later => later ∈ after.runs ∧ later.id = parent ∧ later.status ∈ failureStates true := by
      intro row rowMember sameId failed
      rcases motion.failed orderly current rowMember failed with ⟨later, laterMember, laterId, failed⟩
      exact ⟨later, laterMember, laterId.trans sameId, failed⟩
    rcases motion.performed with same | ⟨id, worker, performed⟩
    · rw [same] at member
      rcases orderly.parents child parent member isChild with ⟨row, rowMember, sameId, failed⟩
      exact forward row rowMember sameId failed
    · rcases performed.effect.backward member with ⟨old, oldMember, terms, _⟩ | ⟨create, creates, rfl, _⟩
      · rw [parentRunId_of_terms terms] at isChild
        rcases orderly.parents old parent oldMember isChild with ⟨row, rowMember, sameId, failed⟩
        exact forward row rowMember sameId failed
      · have bears : worker.bears = some parent := by
          cases worker with
          | running point caller =>
            cases point with
            | creating job input now draft =>
              cases creates
              have draftOf := (proper id _ performed.stands).drafted job input now create rfl
              exact draftOf.parentRunId.symm.trans isChild
            | _ => cases creates
          | _ => cases creates
        rcases orderly.borne id worker parent performed.stands bears with ⟨row, rowMember, sameId, failed⟩
        exact forward row rowMember sameId failed

/-- The handler of a run that has succeeded is not called again. -/
theorem Motion.unstarted (motion : Motion engine before action after) (orderly : Orderly before)
    (member : row ∈ before.runs) (succeeded : row.status = .succeeded) :
    after.started.count row.id = before.started.count row.id := by
  rcases motion.started with same | ⟨id, worker, runId, stands, _, starts, began⟩
  · rw [same]
  · rw [began, List.count_cons_of_ne]
    intro same
    cases worker with
    | running point caller =>
      cases point with
      | starting execution lock startedAt =>
        have isRun : execution.run.id = runId := Option.some.inj starts
        rcases orderly.queued id _ execution stands rfl with ⟨queued, queuedMember, sameId, status⟩
        rw [eq_of_id queuedMember member (sameId.trans (isRun.trans same)), succeeded] at status
        cases status
      | _ => cases starts
    | _ => cases starts

theorem orderly_opening (now : Time) (locks : Locks) : Orderly (State.opening now locks) where
  queued := by
    intro id worker execution stands
    cases stands
  alone := by
    intro first firstWorker execution second secondWorker other stands
    cases stands
  borne := by
    intro id worker parent stands
    cases stands
  parents := by
    intro child parent member
    exact absurd member (Table.not_mem_empty _)

theorem allProper_opening (now : Time) (locks : Locks) :
    AllProper engine (State.opening now locks) := by
  intro id worker stands
  cases stands

theorem orderly_step {state next : State Locks} (holds : AllProper engine state ∧ Orderly state)
    (current : StillRunning state action) (accepted : (scheduler engine).step state action = .ok next) :
    AllProper engine next ∧ Orderly next := by
  have motion := schedulerStep_motion accepted
  exact ⟨motion.allProper holds.1, motion.orderly holds.1 holds.2 current⟩

/-- In every run of the scheduler in which outcomes are recorded for running
runs only, a run that has succeeded stays so, has no child, keeps its window
to itself, and its handler is not called again. -/
theorem success_final (engine : Engine Locks) (now : Time) (locks : Locks)
    (first second : List SchedulerAction)
    (admitted : (scheduler engine).Admits StillRunning (State.opening now locks) (first ++ second))
    (run : ScheduledJobRun)
    (member : run ∈ ((scheduler engine).run (State.opening now locks) first).runs)
    (succeeded : run.status = .succeeded) :
    (Exists fun row => row ∈ ((scheduler engine).run (State.opening now locks) (first ++ second)).runs ∧
      row.id = run.id ∧ row.status = .succeeded) ∧
    (forall child, child ∈ ((scheduler engine).run (State.opening now locks) (first ++ second)).runs ->
      child.parentRunId ≠ some run.id) ∧
    (forall other, other ∈ ((scheduler engine).run (State.opening now locks) (first ++ second)).runs ->
      other.idempotencyKey = run.idempotencyKey -> other.id = run.id) ∧
    ((scheduler engine).run (State.opening now locks) (first ++ second)).started.count run.id =
      ((scheduler engine).run (State.opening now locks) first).started.count run.id := by
  have reached := Machine.run_invariant_of_admits
    (fun state action next holds current accepted => orderly_step holds current accepted)
    ⟨allProper_opening now locks, orderly_opening now locks⟩ admitted.left
  have keeps : forall state action next,
      ((AllProper engine state ∧ Orderly state) ∧
        (Exists fun row => row ∈ state.runs ∧ runTerms row = runTerms run ∧ row.status = .succeeded) ∧
        state.started.count run.id =
          ((scheduler engine).run (State.opening now locks) first).started.count run.id) ->
      StillRunning state action -> (scheduler engine).step state action = .ok next ->
      ((AllProper engine next ∧ Orderly next) ∧
        (Exists fun row => row ∈ next.runs ∧ runTerms row = runTerms run ∧ row.status = .succeeded) ∧
        next.started.count run.id =
          ((scheduler engine).run (State.opening now locks) first).started.count run.id) := by
    rintro state action next ⟨holds, ⟨row, rowMember, terms, rowSucceeded⟩, count⟩ current accepted
    have motion := schedulerStep_motion accepted
    rcases motion.succeeded holds.2 current rowMember rowSucceeded with
      ⟨later, laterMember, laterTerms, laterSucceeded⟩
    have unstarted := motion.unstarted holds.2 rowMember rowSucceeded
    rw [id_of_terms terms] at unstarted
    exact ⟨orderly_step holds current accepted,
      ⟨later, laterMember, laterTerms.trans terms, laterSucceeded⟩, unstarted.trans count⟩
  have final := Machine.run_invariant_of_admits keeps
    ⟨reached, ⟨run, member, rfl, succeeded⟩, rfl⟩ admitted.right
  rw [← Machine.run_append] at final
  rcases final with ⟨⟨_, orderly⟩, ⟨row, rowMember, terms, rowSucceeded⟩, count⟩
  refine ⟨⟨row, rowMember, id_of_terms terms, rowSucceeded⟩, ?_, ?_, count⟩
  · intro child childMember isChild
    rcases orderly.parents child run.id childMember isChild with ⟨parent, parentMember, sameId, failed⟩
    rw [eq_of_id parentMember rowMember (sameId.trans (id_of_terms terms).symm), rowSucceeded] at failed
    exact absurd failed (by decide)
  · intro other otherMember sameKey
    have rowKey : row.idempotencyKey = run.idempotencyKey :=
      congrArg (fun terms => terms.2.2.2.1) terms
    rw [eq_of_idempotencyKey otherMember rowMember (sameKey.trans rowKey.symm), id_of_terms terms]

instance (state : State Locks) (action : SchedulerAction) : Decidable (StillRunning state action) :=
  match performs : action.performs with
  | none => isTrue (by intro workerId other; rw [performs] at other; cases other)
  | some workerId =>
    match stands : state.workers workerId with
    | none => isTrue (by
        intro other same worker standsOther
        rw [performs] at same
        cases same
        rw [stands] at standsOther
        cases standsOther)
    | some worker =>
      match writes : worker.writes with
      | none => isTrue (by
          intro other same otherWorker standsOther written writesOther
          rw [performs] at same
          cases same
          rw [stands] at standsOther
          cases standsOther
          rw [writes] at writesOther
          cases writesOther)
      | some written =>
        if current : written.2 ∈ outcomes -> forall row, row ∈ state.runs.rows -> row.id = written.1 ->
            row.status = .running then
          isTrue (by
            intro other same otherWorker standsOther otherWritten writesOther
            rw [performs] at same
            cases same
            rw [stands] at standsOther
            cases standsOther
            rw [writes] at writesOther
            cases writesOther
            exact current)
        else isFalse (fun still => current (still workerId performs worker stands written writes))

/-- The handler returns, and its success is recorded. -/
def succeededTick : List SchedulerAction := handledTick ++ [.handlerReturns 0 [], .advance 0]

/-- The success is reported, and the next tick finds nothing to do. -/
def quietEnd : List SchedulerAction :=
  [.advance 0, .advance 0, .pass 1000100000, .runDueJobs 1 .cron, .advance 1, .advance 1, .advance 1,
    .advance 1]

theorem success_final_of_quietEnd :
    Exists fun run => run ∈ (paymentOperationsRun succeededTick).runs ∧
      (Exists fun row => row ∈ (paymentOperationsRun (succeededTick ++ quietEnd)).runs ∧
        row.id = run.id ∧ row.status = .succeeded) ∧
      (forall child, child ∈ (paymentOperationsRun (succeededTick ++ quietEnd)).runs ->
        child.parentRunId ≠ some run.id) ∧
      (forall other, other ∈ (paymentOperationsRun (succeededTick ++ quietEnd)).runs ->
        other.idempotencyKey = run.idempotencyKey -> other.id = run.id) ∧
      (paymentOperationsRun (succeededTick ++ quietEnd)).started.count run.id =
        (paymentOperationsRun succeededTick).started.count run.id := by
  have recorded : Exists fun run => run ∈ (paymentOperationsRun succeededTick).runs.rows ∧
      run.status = .succeeded := by
    decide +kernel
  rcases recorded with ⟨run, member, succeeded⟩
  exact ⟨run, member, success_final (memoryEngine paymentOperationsRegistry) 1000000000 (fun _ => none)
    succeededTick quietEnd (by decide +kernel) run member succeeded⟩

/-- The event sink throws when the success is reported.  The catch block takes
the run for a failed one, and the next tick retries it. -/
def failedReport : List SchedulerAction :=
  [.throws 0 "connection lost" false, .advance 0, .advance 0, .advance 0, .pass 1000100000,
    .runDueJobs 1 .cron] ++ List.replicate 12 (.advance 1)

/-- The run had succeeded; it is `failed` in the end, and the handler has been
called again for its child. -/
theorem success_lost_by_failedReport :
    Exists fun run => Exists fun later => Exists fun child =>
      run ∈ (paymentOperationsRun succeededTick).runs ∧ run.status = .succeeded ∧
      later ∈ (paymentOperationsRun (succeededTick ++ failedReport)).runs ∧ later.id = run.id ∧
      later.status = .failed ∧
      child ∈ (paymentOperationsRun (succeededTick ++ failedReport)).runs ∧
      child.parentRunId = some run.id ∧
      child.id ∈ (paymentOperationsRun (succeededTick ++ failedReport)).started := by
  have before : Exists fun run => run ∈ (paymentOperationsRun succeededTick).runs.rows ∧
      run.id = 14 ∧ run.status = .succeeded := by
    decide +kernel
  have after : Exists fun later =>
      later ∈ (paymentOperationsRun (succeededTick ++ failedReport)).runs.rows ∧
      later.id = 14 ∧ later.status = .failed := by
    decide +kernel
  have retried : Exists fun child =>
      child ∈ (paymentOperationsRun (succeededTick ++ failedReport)).runs.rows ∧
      child.parentRunId = some 14 ∧
      child.id ∈ (paymentOperationsRun (succeededTick ++ failedReport)).started := by
    decide +kernel
  rcases before with ⟨run, member, sameId, succeeded⟩
  rcases after with ⟨later, laterMember, laterId, failed⟩
  rcases retried with ⟨child, childMember, parent, started⟩
  rw [← sameId] at laterId parent
  exact ⟨run, later, child, member, succeeded, laterMember, laterId, failed, childMember, parent, started⟩

end Scheduler
end DigitalSolutions

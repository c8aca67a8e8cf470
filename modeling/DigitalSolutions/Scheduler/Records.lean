import DigitalSolutions.Scheduler.Roles

namespace DigitalSolutions
namespace Scheduler

open Foundation Persistence

/-!
# What the history and the workers agree on

Whatever happens, a worker only speaks of runs that the history has, one
worker at most executes a run, a run that waits for its retry is executed by
nobody and has attempts left, and a run with a parent is one attempt further
than the parent.
-/

variable {Locks : Type} {engine : Engine Locks} {before after : State Locks}
variable {action : SchedulerAction} {worker later : Worker}
variable {run row : ScheduledJobRun} {id : Nat} {execution : Execution}

/-! ## The workers over one step -/

section Step

variable (motion : Motion engine before action after)

include motion

/-- A worker stays where it is while others move. -/
theorem Motion.unmoved (elsewhere : action.mover ≠ some id) :
    after.workers id = before.workers id := by
  have apart : forall {moved : Nat} {next : Option Worker}, action.mover = some moved ->
      Function.update before.workers moved next id = before.workers id := by
    intro moved next about
    rw [Function.update_of_ne]
    rintro rfl
    exact elsewhere about
  cases motion with
  | called workerId worker free call =>
    have called : action.mover = some workerId ∧ Placed engine before before action workerId worker :=
      SchedulerAction.call_eq_some call free
    exact apart called.1
  | advanced workerId worker done isAdvance stands effect =>
    simp only [State.place, State.begun, (Worker.framed effect).workers]
    exact apart (by rw [isAdvance]; rfl)
  | thrown workerId worker message stands awaits how =>
    refine apart ?_
    rcases how with ⟨rfl, _⟩ | ⟨committed, rfl⟩ <;> rfl
  | lost workerId worker done message stands awaits effect isThrow =>
    simp only [State.place, (Worker.framed effect).workers]
    exact apart (by rw [isThrow]; rfl)
  | settled workerId execution lock startedAt handlerStart caller point moves => exact apart moves
  | crashed workerId isCrash => exact apart (by rw [isCrash]; rfl)
  | passed => rfl

theorem Motion.started_mono {runId : Draw}
    (member : runId ∈ before.started) : runId ∈ after.started := by
  rcases motion.started with same | ⟨id, worker, started, _, _, _, began⟩
  · rw [same]
    exact member
  · rw [began]
    exact List.mem_cons_of_mem _ member

/-- What an advance of a standing worker does. -/
theorem Motion.advances (isAdvance : action = .advance id)
    (stands : before.workers id = some worker) (works : (worker.effect engine id before).isSome = true) :
    after.workers id = worker.next engine before ∧
      after.started = worker.starts.toList ++ before.started := by
  subst isAdvance
  cases motion with
  | called workerId other free call => cases call
  | advanced workerId other done isAdvance standsOther effect =>
    cases isAdvance
    rw [stands, Option.some.injEq] at standsOther
    subst standsOther
    have framed := Worker.framed effect
    simp only [State.place, State.begun, framed.started, framed.workers, Function.update_self, and_self]
  | thrown workerId other message standsOther awaits how =>
    rcases how with ⟨isAdvance, fails⟩ | ⟨committed, impossible⟩
    · cases isAdvance
      rw [stands, Option.some.injEq] at standsOther
      subst standsOther
      rw [fails] at works
      cases works
    · cases impossible
  | lost workerId other done message standsOther awaits effect isThrow => cases isThrow
  | settled workerId execution lock startedAt handlerStart caller point moves unperformed => cases unperformed
  | crashed workerId isCrash => cases isCrash
  | passed moment isPass => cases isPass

/-- What may happen to a worker that does not wait for its handler. -/
theorem Motion.mover_cases (about : action.mover = some id)
    (stands : before.workers id = some worker)
    (awaits : forall execution lock startedAt handlerStart caller,
      worker ≠ .running (.handling execution lock startedAt handlerStart) caller) :
    action = .advance id ∨ (Exists fun message => Exists fun committed => action = .throws id message committed) ∨
      action = .crash id := by
  cases motion with
  | called workerId other free call =>
    have called : action.mover = some workerId ∧ Placed engine before before action workerId other :=
      SchedulerAction.call_eq_some call free
    rw [about, Option.some.injEq] at called
    rw [← called.1, stands] at free
    cases free
  | advanced workerId other done isAdvance standsOther effect =>
    subst isAdvance
    cases about
    exact Or.inl rfl
  | thrown workerId other message standsOther awaitsOther how =>
    rcases how with ⟨rfl, _⟩ | ⟨committed, rfl⟩
    · cases about
      exact Or.inl rfl
    · cases about
      exact Or.inr (Or.inl ⟨message, committed, rfl⟩)
  | lost workerId other done message standsOther awaitsOther effect isThrow =>
    subst isThrow
    cases about
    exact Or.inr (Or.inl ⟨message, true, rfl⟩)
  | settled workerId execution lock startedAt handlerStart caller point moves unperformed standsOther settles =>
    rw [about, Option.some.injEq] at moves
    subst moves
    rw [stands, Option.some.injEq] at standsOther
    exact absurd standsOther (awaits execution lock startedAt handlerStart caller)
  | crashed workerId isCrash =>
    subst isCrash
    cases about
    exact Or.inr (Or.inr rfl)
  | passed moment isPass forward =>
    subst isPass
    cases about

theorem Motion.draws :
    before.draws ≤ after.draws ∧ forall id, action.mover = some id -> after.draws = before.draws + 2 := by
  cases motion with
  | called => exact ⟨Nat.le_add_right _ 2, fun _ _ => rfl⟩
  | advanced workerId worker done isAdvance stands effect =>
    have same := (Worker.framed effect).draws
    have placed : ((done.begun worker.starts).place workerId (worker.next engine before)).draws =
        before.draws + 2 := by
      simp only [State.place, State.begun, same]
    rw [placed]
    exact ⟨Nat.le_add_right _ 2, fun _ _ => rfl⟩
  | thrown => exact ⟨Nat.le_add_right _ 2, fun _ _ => rfl⟩
  | lost workerId worker done message stands awaits effect isThrow =>
    have same := (Worker.framed effect).draws
    have placed : (done.place workerId (worker.thrown engine before message)).draws =
        before.draws + 2 := by
      simp only [State.place, same]
    rw [placed]
    exact ⟨Nat.le_add_right _ 2, fun _ _ => rfl⟩
  | settled => exact ⟨Nat.le_add_right _ 2, fun _ _ => rfl⟩
  | crashed => exact ⟨Nat.le_add_right _ 2, fun _ _ => rfl⟩
  | passed moment isPass forward =>
    refine ⟨Nat.le_refl _, ?_⟩
    intro id about
    rw [isPass] at about
    cases about

/-! ## The history over one step -/

/-- The worker that performs a statement, and what the statement does. -/
structure Performed (before after : State Locks) (action : SchedulerAction) (id : Nat) (worker : Worker) :
    Prop where
  performs : action.performs = some id
  stands : before.workers id = some worker
  effect : RunEffect worker before.draws before.runs after.runs

theorem Motion.performed :
    after.runs = before.runs ∨
      Exists fun id => Exists fun worker => Performed before after action id worker := by
  rcases motion.runs with same | ⟨id, worker, performs, stands, effect⟩
  · exact Or.inl same
  · exact Or.inr ⟨id, worker, performs, stands, effect⟩

/-- No run is lost, and what its terms say stays. -/
theorem Motion.kept (member : row ∈ before.runs) :
    Exists fun later => later ∈ after.runs ∧ runTerms later = runTerms row := by
  rcases motion.performed with same | ⟨id, worker, performed⟩
  · rw [same]
    exact ⟨row, member, rfl⟩
  · rcases performed.effect.forward member with ⟨later, laterMember, terms, _⟩
    exact ⟨later, laterMember, terms⟩

/-- A run was there, or a worker inside `runJob` has just created it. -/
theorem Motion.came (member : row ∈ after.runs) :
    (Exists fun old => old ∈ before.runs ∧ runTerms row = runTerms old) ∨
    Exists fun id => Exists fun job => Exists fun input => Exists fun now => Exists fun create =>
      Exists fun caller =>
        before.workers id = some (.running (.creating job input now create) caller) ∧
          action.performs = some id ∧ row = create.row before.draws ∧
          before.runs.insert (create.row before.draws) = some after.runs := by
  rcases motion.performed with same | ⟨id, worker, performed⟩
  · rw [same] at member
    exact Or.inl ⟨row, member, rfl⟩
  · rcases performed.effect.backward member with ⟨old, oldMember, terms, _⟩ |
      ⟨create, creates, isNew, inserted⟩
    · exact Or.inl ⟨old, oldMember, terms⟩
    · have stands := performed.stands
      cases worker with
      | running point caller =>
        cases point with
        | creating job input now draft =>
          cases creates
          exact Or.inr ⟨id, job, input, now, create, caller, stands, performed.performs, isNew, inserted⟩
        | _ => cases creates
      | _ => cases creates

end Step

theorem attempt_of_terms {other : ScheduledJobRun} (same : runTerms other = runTerms row) :
    other.attempt = row.attempt := congrArg (fun terms => terms.2.2.1) same

theorem jobKey_of_terms {other : ScheduledJobRun} (same : runTerms other = runTerms row) :
    other.jobKey = row.jobKey := congrArg (fun terms => terms.2.1) same

theorem idempotencyKey_of_terms {other : ScheduledJobRun} (same : runTerms other = runTerms row) :
    other.idempotencyKey = row.idempotencyKey := congrArg (fun terms => terms.2.2.2.1) same

/-- Every run is one of a registered job. -/
def Registered (engine : Engine Locks) (state : State Locks) : Prop :=
  forall row, row ∈ state.runs -> Exists fun job => engine.registry.get row.jobKey = some job

theorem Proper.registered {job : ScheduledJob} {input : RunJobInput} {now : Time} {create : CreateRun}
    (proper : Proper engine.registry worker) (drafts : worker.drafts = some (job, input, now, create)) :
    create.jobKey = input.key ∧ engine.registry.get input.key = some job := by
  have registered := proper.requested job input (Worker.requests_of_drafts drafts)
  exact ⟨(proper.drafted job input now create drafts).jobKey.trans (Registry.key_of_get registered), registered⟩

theorem Motion.registered (motion : Motion engine before action after) (proper : AllProper engine before)
    (registered : Registered engine before) : Registered engine after := by
  intro row member
  rcases motion.came member with ⟨old, oldMember, terms⟩ |
    ⟨id, job, input, now, create, caller, stands, _, rfl, _⟩
  · rw [jobKey_of_terms terms]
    exact registered old oldMember
  · rcases (proper id _ stands).registered rfl with ⟨sameKey, isRegistered⟩
    exact ⟨job, by rw [← isRegistered, ← sameKey]; rfl⟩

/-! ## What workers speak of -/

/-- The run from the history that a worker is about to retry. -/
def Worker.cites : Worker -> Option ScheduledJobRun
  | .reportingAbandoned _ run true _ _ => some run
  | .requestingRetry run _ => some run
  | _ => none

theorem Worker.bears_of_cites (cites : worker.cites = some run) :
    worker.bears = some run.id := by
  cases worker with
  | reportingAbandoned now listed retryable rest next =>
    cases retryable with
    | true => cases cites; rfl
    | false => cases cites
  | requestingRetry => cases cites; rfl
  | _ => cases cites

/-- The run is in the history, on the same terms. -/
def Recorded (state : State Locks) (run : ScheduledJobRun) : Prop :=
  Exists fun row => row ∈ state.runs ∧ runTerms row = runTerms run

theorem Motion.recorded (motion : Motion engine before action after) (recorded : Recorded before run) :
    Recorded after run := by
  rcases recorded with ⟨row, member, terms⟩
  rcases motion.kept member with ⟨later, laterMember, laterTerms⟩
  exact ⟨later, laterMember, laterTerms.trans terms⟩

/-- The runs that a worker has listed or cites are in the history, and an
abandoned run is retried while it has attempts left. -/
structure Known (engine : Engine Locks) (state : State Locks) : Prop where
  listed : forall id worker run, state.workers id = some worker -> run ∈ worker.listed ->
    Recorded state run
  cited : forall id worker run, state.workers id = some worker -> worker.cites = some run ->
    Recorded state run
  judged : forall id now run startedAt retryable rest next,
    state.workers id = some (.abandoning now run startedAt retryable rest next) ->
    Exists fun job => engine.registry.get run.jobKey = some job ∧
      retryable = decide (run.attempt < job.maxAttempts)
  promised : forall id now run rest next,
    state.workers id = some (.reportingAbandoned now run true rest next) ->
    Exists fun job => engine.registry.get run.jobKey = some job ∧ run.attempt < job.maxAttempts

theorem Idle.cites (idle : Idle worker) : worker.cites = none := by
  cases cites : worker.cites with
  | none => rfl
  | some run =>
    have bears := Worker.bears_of_cites cites
    rw [idle.bears] at bears
    cases bears

theorem Placed.listed (placed : Placed engine before after action id later) (known : Known engine before)
    (listed : run ∈ later.listed) : Recorded before run := by
  cases placed with
  | called later free idle unlisted =>
    rw [unlisted] at listed
    cases listed
  | proceeded worker later stands isAdvance proceeds effect begun =>
    cases proceeds with
    | inside point point' caller same follows =>
      subst same
      exact known.listed id _ run stands listed
    | resumed runs later sources resumed =>
      rcases sources run (resumed.listed run listed) with old | ⟨member, _⟩
      · exact known.listed id _ run stands old
      · exact ⟨run, member, rfl⟩
    | asked job input caller registered asked fewer tick =>
      exact known.listed id _ run stands (fewer run listed)
    | reporting now abandoned startedAt retryable rest next same =>
      subst same
      exact known.listed id _ run stands (List.mem_cons_of_mem _ listed)
    | requesting => cases listed
    | quiet later idle unrequested unlisted tick =>
      rw [unlisted] at listed
      cases listed
  | caught point point' caller message stands catches => exact known.listed id _ run stands listed
  | resumed worker later stands resumed => exact known.listed id _ run stands (resumed.listed run listed)
  | settled execution lock startedAt handlerStart caller point stands settles runs =>
    exact known.listed id _ run stands listed

theorem Placed.cites (placed : Placed engine before after action id later) (known : Known engine before)
    (cites : later.cites = some run) : Recorded before run := by
  cases placed with
  | called later free idle unlisted =>
    rw [idle.cites] at cites
    cases cites
  | proceeded worker later stands isAdvance proceeds effect begun =>
    cases proceeds with
    | inside => cases cites
    | resumed runs later sources resumed =>
      rw [resumed.idle.cites] at cites
      cases cites
    | asked => cases cites
    | reporting now abandoned startedAt retryable rest next same =>
      subst same
      cases retryable with
      | true =>
        cases cites
        exact known.listed id _ run stands List.mem_cons_self
      | false => cases cites
    | requesting run actorId member failed same =>
      cases cites
      exact ⟨run, member, rfl⟩
    | quiet later idle unrequested unlisted tick =>
      rw [idle.cites] at cites
      cases cites
  | caught => cases cites
  | resumed worker later stands resumed =>
    rw [resumed.idle.cites] at cites
    cases cites
  | settled => cases cites

theorem Placed.judges {now startedAt : Time} {retryable : Bool} {rest : List ScheduledJobRun}
    {next : AfterRecovery}
    (placed : Placed engine before after action id (.abandoning now run startedAt retryable rest next)) :
    Exists fun job => engine.registry.get run.jobKey = some job ∧
      retryable = decide (run.attempt < job.maxAttempts) := by
  have ofResumed : forall {clock : Time} {runs : List ScheduledJobRun} {tick : Option Trigger},
      Resumed engine.registry clock runs tick (.abandoning now run startedAt retryable rest next) ->
      Exists fun job => engine.registry.get run.jobKey = some job ∧
        retryable = decide (run.attempt < job.maxAttempts) := by
    intro clock runs tick resumed
    cases resumed with
    | abandoning now run startedAt rest next job member fewer registered same =>
      exact ⟨job, registered, rfl⟩
  cases placed with
  | called later free idle unlisted => cases unlisted
  | proceeded worker later stands isAdvance proceeds effect begun =>
    cases proceeds with
    | resumed runs later sources resumed => exact ofResumed resumed
    | quiet later idle unrequested unlisted tick => cases unlisted
  | resumed worker later stands resumed => exact ofResumed resumed

theorem Placed.promises {now : Time} {rest : List ScheduledJobRun} {next : AfterRecovery}
    (placed : Placed engine before after action id (.reportingAbandoned now run true rest next))
    (known : Known engine before) :
    Exists fun job => engine.registry.get run.jobKey = some job ∧ run.attempt < job.maxAttempts := by
  cases placed with
  | called later free idle unlisted => cases idle.bears
  | proceeded worker later stands isAdvance proceeds effect begun =>
    cases proceeds with
    | resumed runs later sources resumed => cases resumed.idle.bears
    | reporting now run startedAt retryable rest next same =>
      subst same
      rcases known.judged id _ _ _ _ _ _ stands with ⟨job, registered, judged⟩
      exact ⟨job, registered, of_decide_eq_true judged.symm⟩
    | quiet later idle unrequested unlisted tick => cases idle.bears
  | resumed worker later stands resumed => cases resumed.idle.bears

theorem Motion.known (motion : Motion engine before action after) (known : Known engine before) :
    Known engine after := by
  constructor
  · intro id later run stands listed
    rcases motion.workers stands with ⟨standsBefore, _⟩ | ⟨_, placed⟩
    · exact motion.recorded (known.listed id later run standsBefore listed)
    · exact motion.recorded (placed.listed known listed)
  · intro id later run stands cites
    rcases motion.workers stands with ⟨standsBefore, _⟩ | ⟨_, placed⟩
    · exact motion.recorded (known.cited id later run standsBefore cites)
    · exact motion.recorded (placed.cites known cites)
  · intro id now run startedAt retryable rest next stands
    rcases motion.workers stands with ⟨standsBefore, _⟩ | ⟨_, placed⟩
    · exact known.judged id now run startedAt retryable rest next standsBefore
    · exact placed.judges
  · intro id now run rest next stands
    rcases motion.workers stands with ⟨standsBefore, _⟩ | ⟨_, placed⟩
    · exact known.promised id now run rest next standsBefore
    · exact placed.promises known

/-! ## Who executes a run -/

/-- `runJob` goes on with the run that it executes, or has just created it. -/
theorem Follows.executes {point point' : RunPoint} {caller : Caller}
    (follows : Follows engine before point point')
    (executes : (Worker.running point' caller).executes = some execution) :
    ((Worker.running point caller).executes = some execution ∧
      (Worker.running point caller).writes ≠ some (execution.run.id, .retrying)) ∨
    Exists fun job => Exists fun input => Exists fun now => Exists fun create => Exists fun runs =>
      point = .creating job input now create ∧ execution.run = create.row before.draws ∧
        createRun create before.draws before.runs = some (runs, true) := by
  cases follows with
  | created job input now create runs done =>
    cases executes
    exact Or.inr ⟨job, input, now, create, runs, rfl, rfl, done⟩
  | acquired => exact Or.inl ⟨executes, Option.some_ne_none _ |>.symm⟩
  | conflicting => exact Or.inl ⟨executes, Option.some_ne_none _ |>.symm⟩
  | clocked => exact Or.inl ⟨executes, Option.some_ne_none _ |>.symm⟩
  | started execution lock startedAt =>
    refine Or.inl ⟨executes, ?_⟩
    simp [Worker.writes]
  | waiting => exact Or.inl ⟨executes, Option.some_ne_none _ |>.symm⟩
  | succeeded execution lock startedAt completedAt summary =>
    refine Or.inl ⟨executes, ?_⟩
    simp [Worker.writes]
  | _ => cases executes

/-- A worker executes what it executed before, or a run that it has created. -/
theorem Placed.executes (placed : Placed engine before after action id later)
    (executes : later.executes = some execution) :
    (Exists fun worker => before.workers id = some worker ∧ worker.executes = some execution ∧
      worker.writes ≠ some (execution.run.id, .retrying)) ∨
    Exists fun create : CreateRun => execution.run = create.row before.draws ∧
      before.runs.insert (create.row before.draws) = some after.runs := by
  rcases placed.passes (Worker.engaged_of_executes executes) with
    ⟨point, point', caller, stands, rfl, passes⟩
  cases passes with
  | follows isAdvance follows effect =>
    rcases follows.executes executes with ⟨same, unwritten⟩ |
      ⟨job, input, now, create, runs, rfl, isRow, done⟩
    · exact Or.inl ⟨_, stands, same, unwritten⟩
    · exact Or.inr ⟨create, isRow, effect.created_insert done⟩
  | catches message catches =>
    cases catches with
    | succeeding execution lock startedAt completedAt summary =>
      refine Or.inl ⟨_, stands, executes, ?_⟩
      simp [Worker.writes]
    | reportingSuccess => exact Or.inl ⟨_, stands, executes, Option.some_ne_none _ |>.symm⟩
    | failing => cases executes
    | reportingFailure => cases executes
  | settles running lock startedAt handlerStart isHandling settles =>
    subst isHandling
    rcases settles with ⟨summary, rfl⟩ | ⟨message, rfl⟩
    · exact Or.inl ⟨_, stands, executes, Option.some_ne_none _ |>.symm⟩
    · exact Or.inl ⟨_, stands, executes, Option.some_ne_none _ |>.symm⟩

theorem Motion.executes (motion : Motion engine before action after)
    (stands : after.workers id = some later) (executes : later.executes = some execution) :
    (Exists fun worker => before.workers id = some worker ∧ worker.executes = some execution ∧
      (action.performs = some id -> worker.writes ≠ some (execution.run.id, .retrying))) ∨
    (action.mover = some id ∧ Exists fun create : CreateRun => execution.run = create.row before.draws ∧
      before.runs.insert (create.row before.draws) = some after.runs) := by
  rcases motion.workers stands with ⟨standsBefore, elsewhere⟩ | ⟨about, placed⟩
  · refine Or.inl ⟨later, standsBefore, executes, ?_⟩
    intro performs
    exact absurd (mover_of_performs performs) elsewhere
  · rcases placed.executes executes with ⟨worker, standsBefore, same, unwritten⟩ | created
    · exact Or.inl ⟨worker, standsBefore, same, fun _ => unwritten⟩
    · exact Or.inr ⟨about, created⟩

/-- An executed run is in the history, and one worker at most executes it. -/
structure Executed (state : State Locks) : Prop where
  recorded : forall id worker execution, state.workers id = some worker ->
    worker.executes = some execution -> Recorded state execution.run
  alone : forall first firstWorker execution second secondWorker other,
    state.workers first = some firstWorker -> firstWorker.executes = some execution ->
    state.workers second = some secondWorker -> secondWorker.executes = some other ->
    execution.run.id = other.run.id -> first = second

theorem Motion.executed (motion : Motion engine before action after) (executed : Executed before) :
    Executed after := by
  constructor
  · intro id later execution stands executes
    rcases motion.executes stands executes with ⟨worker, standsBefore, same, _⟩ | ⟨_, create, isRow, inserted⟩
    · exact motion.recorded (executed.recorded id worker execution standsBefore same)
    · exact ⟨create.row before.draws, (Table.mem_insert inserted).mpr (Or.inr rfl), by rw [isRow]⟩
  · intro first firstWorker execution second secondWorker other standsFirst executesFirst standsSecond
      executesSecond same
    -- a created run is nobody else's
    have apart : forall {id : Nat} {worker : Worker} {prior : Execution} {create : CreateRun},
        before.workers id = some worker -> worker.executes = some prior ->
        before.runs.insert (create.row before.draws) = some after.runs ->
        (create.row before.draws).id ≠ prior.run.id := by
      intro id worker prior create stands executes inserted isSame
      rcases executed.recorded id worker prior stands executes with ⟨row, member, terms⟩
      exact ne_of_insert_id inserted member ((id_of_terms terms).trans isSame.symm)
    rcases motion.executes standsFirst executesFirst with ⟨one, standsOne, executesOne, _⟩ |
      ⟨aboutFirst, create, isRow, inserted⟩
    · rcases motion.executes standsSecond executesSecond with ⟨two, standsTwo, executesTwo, _⟩ |
        ⟨_, create, isRow, inserted⟩
      · exact executed.alone first one execution second two other standsOne executesOne standsTwo
          executesTwo same
      · rw [isRow] at same
        exact absurd same.symm (apart standsOne executesOne inserted)
    · rcases motion.executes standsSecond executesSecond with ⟨two, standsTwo, executesTwo, _⟩ |
        ⟨aboutSecond, _⟩
      · rw [isRow] at same
        exact absurd same (apart standsTwo executesTwo inserted)
      · rw [aboutFirst, Option.some.injEq] at aboutSecond
        exact aboutSecond

/-! ## Runs that wait for their retry -/

theorem Worker.writes_retrying {runId : Draw} (writes : worker.writes = some (runId, .retrying)) :
    Exists fun execution => worker.executes = some execution ∧ execution.run.id = runId ∧
      execution.run.attempt < execution.job.maxAttempts := by
  cases worker with
  | running point caller =>
    cases point with
    | markingConflict => cases writes
    | starting => cases writes
    | succeeding => cases writes
    | failing execution lock startedAt completedAt message =>
      refine ⟨execution, rfl, congrArg Prod.fst (Option.some.inj writes), ?_⟩
      have status := congrArg Prod.snd (Option.some.inj writes)
      cases retryable : execution.retryable message with
      | true =>
        rw [Execution.retryable, Bool.and_eq_true, decide_eq_true_eq] at retryable
        exact retryable.2
      | false =>
        simp only [retryable, Bool.false_eq_true, if_false] at status
        cases status
    | _ => cases writes
  | abandoning => cases writes
  | _ => cases writes

/-- A run that waits for its retry is executed by nobody, and has attempts
left. -/
structure Waiting (engine : Engine Locks) (state : State Locks) (row : ScheduledJobRun) : Prop where
  idle : forall id worker execution, state.workers id = some worker ->
    worker.executes = some execution -> execution.run.id ≠ row.id
  worthy : Exists fun job => engine.registry.get row.jobKey = some job ∧ row.attempt < job.maxAttempts

def AllWaiting (engine : Engine Locks) (state : State Locks) : Prop :=
  forall row, row ∈ state.runs -> row.status = .retrying -> Waiting engine state row

/-- A worker that executes a run knows the job of the run. -/
theorem Proper.job (proper : Proper engine.registry worker) (executes : worker.executes = some execution) :
    engine.registry.get execution.run.jobKey = some execution.job := by
  rcases proper.executed execution (Worker.execution_of_executes executes) with
    ⟨registered, create, id, draft, isRow⟩
  have sameKey : execution.run.jobKey = execution.input.key := by
    rw [isRow]
    exact draft.jobKey.trans (Registry.key_of_get registered)
  rw [sameKey, registered]

theorem Motion.waiting (motion : Motion engine before action after) (proper : AllProper engine before)
    (executed : Executed before) (waiting : AllWaiting engine before) : AllWaiting engine after := by
  intro row member retrying
  -- nobody starts to execute a run that somebody has left waiting
  have idle : forall old, old ∈ before.runs -> row.id = old.id ->
      (forall id worker execution, before.workers id = some worker -> worker.executes = some execution ->
        execution.run.id = old.id -> action.performs = some id ∧
          worker.writes = some (execution.run.id, .retrying)) ->
      forall id worker execution, after.workers id = some worker -> worker.executes = some execution ->
        execution.run.id ≠ row.id := by
    intro old oldMember sameId only id later execution stands executes same
    rcases motion.executes stands executes with ⟨worker, standsBefore, executesBefore, unwritten⟩ |
      ⟨_, create, isRow, inserted⟩
    · rcases only id worker execution standsBefore executesBefore (same.trans sameId) with ⟨performs, writes⟩
      exact unwritten performs writes
    · rw [isRow] at same
      exact ne_of_insert_id inserted oldMember (sameId.symm.trans same.symm)
  have stays : forall old, old ∈ before.runs -> runTerms row = runTerms old -> old.status = .retrying ->
      Waiting engine after row := by
    intro old oldMember terms oldRetrying
    have waits := waiting old oldMember oldRetrying
    refine ⟨idle old oldMember (id_of_terms terms) ?_, ?_⟩
    · intro id worker execution stands executes same
      exact absurd same (waits.idle id worker execution stands executes)
    · rw [jobKey_of_terms terms, attempt_of_terms terms]
      exact waits.worthy
  rcases motion.performed with same | ⟨id, worker, performed⟩
  · rw [same] at member
    exact stays row member rfl retrying
  · rcases performed.effect.backward member with ⟨old, oldMember, terms, moves⟩ | ⟨create, _, rfl, _⟩
    · cases moves with
      | kept status retryAt => exact stays old oldMember terms (status.symm.trans retrying)
      | consumed consumes wasSource isFailed retryAt =>
        rw [isFailed] at retrying
        cases retrying
      | written writes unretried =>
        rw [retrying] at writes
        rcases Worker.writes_retrying writes with ⟨execution, executes, sameId, left⟩
        have proper := proper id worker performed.stands
        rcases executed.recorded id worker execution performed.stands executes with
          ⟨recorded, recordedMember, recordedTerms⟩
        have isOld : recorded = old :=
          eq_of_id recordedMember oldMember ((id_of_terms recordedTerms).trans sameId)
        subst isOld
        refine ⟨idle recorded oldMember (id_of_terms terms) ?_, execution.job, ?_, ?_⟩
        · intro other otherWorker prior stands executesPrior same
          have isSame := executed.alone other otherWorker prior id worker execution stands executesPrior
            performed.stands executes (same.trans sameId.symm)
          subst isSame
          have isWorker := performed.stands
          rw [stands, Option.some.injEq] at isWorker
          subst isWorker
          rw [same]
          exact ⟨performed.performs, writes⟩
        · rw [jobKey_of_terms terms, jobKey_of_terms recordedTerms]
          exact proper.job executes
        · rw [attempt_of_terms terms, attempt_of_terms recordedTerms]
          exact left
    · cases retrying

end Scheduler
end DigitalSolutions

import DigitalSolutions.Scheduler.Retries

namespace DigitalSolutions
namespace Scheduler

open Foundation Persistence

/-!
# The runs of a window

The runs of a window are its root, under the key of the window, and the
automatic retries that descend from it.  While every tick runs its due jobs
under the key of their window, they form one chain, attempt after attempt.
-/

variable {Locks : Type} {engine : Engine Locks} {before after : State Locks}
variable {action : SchedulerAction} {worker later : Worker}
variable {run : ScheduledJobRun} {job : ScheduledJob}
variable {input : RunJobInput}

/-- The condition: due jobs run under the key of their window.  Operators'
retries and single runs by hand are not part of a window. -/
def Windowed (_ : State Locks) : SchedulerAction -> Prop
  | .runJob _ _ trigger dryRun => trigger.windowed = true ∧ dryRun = false
  | .runDueJobs _ trigger => trigger.windowed = true
  | .retryFailure .. => False
  | _ => True

/-! ## Everything runs on schedule -/

/-- A window's first run, or an automatic retry. -/
def OnSchedule (input : RunJobInput) : Prop :=
  (input.parentRunId = none ∧ input.idempotencyKey = none ∧ input.trigger.windowed = true ∧
    input.dryRun = false) ∨
  Exists fun parentId => Exists fun attempt => input.idempotencyKey = some (.retry parentId attempt)

/-- A run under the key of its window, or of an automatic retry. -/
def KeyedRun (run : ScheduledJobRun) : Prop :=
  (run.parentRunId = none ∧ run.idempotencyKey = .scheduled run.jobKey run.scheduledFor false) ∨
  Exists fun parentId => Exists fun attempt => run.idempotencyKey = .retry parentId attempt

structure Scheduled (state : State Locks) : Prop where
  ticks : forall id worker trigger, state.workers id = some worker -> worker.tick = some trigger ->
    trigger.windowed = true
  unsearching : forall id worker, state.workers id = some worker -> worker.searches = none
  unrequested : forall id worker run actorId, state.workers id = some worker ->
    worker ≠ .requestingRetry run actorId
  requested : forall id worker job input, state.workers id = some worker ->
    worker.requests = some (job, input) -> OnSchedule input
  rows : forall row, row ∈ state.runs -> KeyedRun row

theorem Placed.tick {id : Nat} {trigger : Trigger} (placed : Placed engine before after action id later)
    (windowed : Windowed before action) (scheduled : Scheduled before) (ticks : later.tick = some trigger) :
    trigger.windowed = true := by
  cases placed with
  | called later free idle unlisted tick requests searches =>
    rw [tick trigger ticks] at windowed
    exact windowed
  | proceeded worker later stands isAdvance proceeds effect begun =>
    cases proceeds with
    | inside point point' caller same follows =>
      subst same
      exact scheduled.ticks id _ trigger stands ticks
    | resumed listed later known resumed =>
      rw [resumed.tick] at ticks
      exact scheduled.ticks id worker trigger stands ticks
    | asked job input caller registered asked fewer tick =>
      exact scheduled.ticks id worker trigger stands (tick.symm.trans ticks)
    | reporting now run startedAt retryable rest next same =>
      subst same
      exact scheduled.ticks id _ trigger stands ticks
    | requesting => cases ticks
    | quiet later idle unrequested unlisted tick unsearching =>
      exact scheduled.ticks id worker trigger stands (tick trigger ticks)
  | caught point point' caller message stands catches => exact scheduled.ticks id _ trigger stands ticks
  | resumed worker later stands resumed =>
    rw [resumed.tick] at ticks
    exact scheduled.ticks id worker trigger stands ticks
  | settled execution lock startedAt handlerStart caller point stands settles runs =>
    exact scheduled.ticks id _ trigger stands ticks

theorem Placed.unsearching {id : Nat} (placed : Placed engine before after action id later)
    (windowed : Windowed before action) : later.searches = none := by
  have resumedQuiet : forall {clock : Time} {listed : List ScheduledJobRun} {tick : Option Trigger}
      {worker : Worker}, Resumed engine.registry clock listed tick worker -> worker.searches = none := by
    intro clock listed tick worker resumed
    cases resumed <;> rfl
  cases placed with
  | called later free idle unlisted tick requests searches =>
    cases found : later.searches with
    | none => rfl
    | some runId =>
      rcases searches runId found with ⟨actorId, rfl⟩
      exact windowed.elim
  | proceeded worker later stands isAdvance proceeds effect begun =>
    cases proceeds with
    | resumed listed later known resumed => exact resumedQuiet resumed
    | quiet later idle unrequested unlisted tick unsearching => exact unsearching
    | inside => rfl
    | asked => rfl
    | reporting => rfl
    | requesting => rfl
  | caught => rfl
  | resumed worker later stands resumed => exact resumedQuiet resumed
  | settled => rfl

theorem Placed.unrequested {id : Nat} {actorId : Id}
    (placed : Placed engine before after action id (.requestingRetry run actorId))
    (scheduled : Scheduled before) : False := by
  cases placed with
  | called later free idle => cases idle.bears
  | proceeded worker later stands isAdvance proceeds effect begun =>
    cases proceeds with
    | resumed listed later known resumed => cases resumed
    | requesting run actorId member failed same =>
      subst same
      cases scheduled.unsearching id _ stands
    | quiet later idle => cases idle.bears
  | resumed worker later stands resumed => cases resumed

theorem Asked.onSchedule {id : Nat} (asked : Asked before worker input)
    (stands : before.workers id = some worker) (scheduled : Scheduled before) : OnSchedule input := by
  cases asked with
  | due now trigger definition ticks =>
    exact Or.inl ⟨rfl, rfl, scheduled.ticks id worker trigger stands ticks, rfl⟩
  | abandoned now run rest next isReport => exact Or.inr ⟨run.id, run.attempt + 1, rfl⟩
  | consumed now trigger run rest isConsumption source => exact Or.inr ⟨run.id, run.attempt + 1, rfl⟩
  | manual run actorId isRequest => exact absurd isRequest (scheduled.unrequested id worker run actorId stands)

theorem Placed.onSchedule {id : Nat} (placed : Placed engine before after action id later)
    (windowed : Windowed before action) (scheduled : Scheduled before)
    (requests : later.requests = some (job, input)) : OnSchedule input := by
  rcases placed.requests requests with
    ⟨_, key, trigger, dryRun, isCall, rfl⟩ | ⟨worker, stands, requested | ⟨_, asked⟩⟩
  · rw [isCall] at windowed
    exact Or.inl ⟨rfl, rfl, windowed.1, windowed.2⟩
  · exact scheduled.requested id worker job input stands requested
  · exact asked.onSchedule stands scheduled

theorem scheduledFor_of_terms {row other : ScheduledJobRun} (same : runTerms other = runTerms row) :
    other.scheduledFor = row.scheduledFor := congrArg (fun terms => terms.2.2.2.2.2.1) same

theorem KeyedRun.of_terms {row old : ScheduledJobRun} (keyed : KeyedRun old) (terms : runTerms row = runTerms old) :
    KeyedRun row := by
  rw [KeyedRun, parentRunId_of_terms terms, idempotencyKey_of_terms terms, jobKey_of_terms terms,
    scheduledFor_of_terms terms]
  exact keyed

/-- The row that `runJob` writes out for a call on schedule. -/
theorem DraftOf.keyed {now : Time} {create : CreateRun} (draft : DraftOf job input now create)
    (onSchedule : OnSchedule input) (id : Draw) :
    KeyedRun (create.row id) := by
  rcases onSchedule with ⟨root, unkeyed, windowed, live⟩ | ⟨parentId, attempt, isRetry⟩
  · rcases draft with ⟨draw, number, rfl⟩
    refine Or.inl ⟨root, ?_⟩
    simp only [CreateRun.row, newRun, unkeyed, windowed, live, Option.getD_none, if_true]
  · exact Or.inr ⟨parentId, attempt, draft.idempotencyKey isRetry⟩

theorem Motion.scheduled (motion : Motion engine before action after) (windowed : Windowed before action)
    (proper : AllProper engine before) (scheduled : Scheduled before) : Scheduled after := by
  constructor
  · intro id later trigger stands ticks
    rcases motion.workers stands with ⟨standsBefore, _⟩ | ⟨_, placed⟩
    · exact scheduled.ticks id later trigger standsBefore ticks
    · exact placed.tick windowed scheduled ticks
  · intro id later stands
    rcases motion.workers stands with ⟨standsBefore, _⟩ | ⟨_, placed⟩
    · exact scheduled.unsearching id later standsBefore
    · exact placed.unsearching windowed
  · intro id later run actorId stands isRequest
    subst isRequest
    rcases motion.workers stands with ⟨standsBefore, _⟩ | ⟨_, placed⟩
    · exact scheduled.unrequested id _ run actorId standsBefore rfl
    · exact placed.unrequested scheduled
  · intro id later job input stands requests
    rcases motion.workers stands with ⟨standsBefore, _⟩ | ⟨_, placed⟩
    · exact scheduled.requested id later job input standsBefore requests
    · exact placed.onSchedule windowed scheduled requests
  · intro row member
    rcases motion.came member with ⟨old, oldMember, terms⟩ |
      ⟨id, job, input, now, create, caller, stands, _, rfl, _⟩
    · exact (scheduled.rows old oldMember).of_terms terms
    · exact ((proper id _ stands).drafted job input now create rfl).keyed
        (scheduled.requested id _ job input stands rfl) before.draws

/-! ## Every handler is called once -/

/-- A worker readies what it readied before, or a run that it has created. -/
theorem Placed.readies {id : Nat} {execution : Execution}
    (placed : Placed engine before after action id later) (readies : later.readies = some execution) :
    (Exists fun worker => before.workers id = some worker ∧ worker.readies = some execution ∧
      worker.starts = none) ∨
    Exists fun create : CreateRun => execution.run = create.row before.draws ∧
      before.runs.insert (create.row before.draws) = some after.runs := by
  have engaged := Worker.engaged_of_executes (Worker.executes_of_readies readies)
  rcases placed.passes engaged with ⟨point, point', caller, stands, rfl, passes⟩
  cases passes with
  | follows isAdvance follows effect =>
    cases follows with
    | created job input now create runs done =>
      cases readies
      exact Or.inr ⟨create, rfl, effect.created_insert done⟩
    | acquired => exact Or.inl ⟨_, stands, readies, rfl⟩
    | clocked => exact Or.inl ⟨_, stands, readies, rfl⟩
    | _ => cases readies
  | catches message catches => cases catches <;> cases readies
  | settles execution lock startedAt handlerStart isHandling settles =>
    rcases settles with ⟨summary, rfl⟩ | ⟨message, rfl⟩
    · cases readies
    · cases readies

/-- No handler is called twice for one run. -/
structure Once (state : State Locks) : Prop where
  nodup : state.started.Nodup
  recorded : forall runId, runId ∈ state.started -> Exists fun row => row ∈ state.runs ∧ row.id = runId
  pending : forall id worker execution, state.workers id = some worker ->
    worker.readies = some execution -> execution.run.id ∉ state.started

theorem Worker.readies_of_starts {runId : Draw} (starts : worker.starts = some runId) :
    Exists fun execution => worker.readies = some execution ∧ execution.run.id = runId := by
  cases worker with
  | running point caller =>
    cases point with
    | starting execution lock startedAt => exact ⟨execution, rfl, Option.some.inj starts⟩
    | _ => cases starts
  | _ => cases starts

theorem Motion.once (motion : Motion engine before action after) (executed : Executed before)
    (once : Once before) : Once after := by
  have recorded : forall runId, (Exists fun row => row ∈ before.runs ∧ row.id = runId) ->
      Exists fun row => row ∈ after.runs ∧ row.id = runId := by
    rintro runId ⟨row, member, rfl⟩
    rcases motion.kept member with ⟨later, laterMember, terms⟩
    exact ⟨later, laterMember, id_of_terms terms⟩
  -- whoever readies a run afterwards has readied it before, or has created it
  have pending : forall id later execution, after.workers id = some later ->
      later.readies = some execution -> execution.run.id ∉ before.started := by
    intro id later execution stands readies started
    rcases motion.workers stands with ⟨standsBefore, _⟩ | ⟨_, placed⟩
    · exact once.pending id later execution standsBefore readies started
    · rcases placed.readies readies with ⟨worker, standsBefore, readiesBefore, _⟩ | ⟨create, isRow, inserted⟩
      · exact once.pending id worker execution standsBefore readiesBefore started
      · rcases once.recorded _ started with ⟨row, member, same⟩
        rw [isRow] at same
        exact ne_of_insert_id inserted member same
  rcases motion.started with same | ⟨id, worker, runId, stands, about, starts, began⟩
  · constructor
    · rw [same]
      exact once.nodup
    · intro runId started
      rw [same] at started
      exact recorded runId (once.recorded runId started)
    · intro id later execution standsLater readies
      rw [same]
      exact pending id later execution standsLater readies
  · rcases Worker.readies_of_starts starts with ⟨execution, readies, rfl⟩
    have executes := Worker.executes_of_readies readies
    constructor
    · rw [began]
      exact List.nodup_cons.mpr ⟨once.pending id worker execution stands readies, once.nodup⟩
    · intro other started
      rw [began] at started
      rcases List.mem_cons.mp started with rfl | old
      · rcases executed.recorded id worker execution stands executes with ⟨row, member, terms⟩
        exact recorded _ ⟨row, member, id_of_terms terms⟩
      · exact recorded other (once.recorded other old)
    · intro other later prepared standsLater readiesLater started
      rw [began] at started
      rcases List.mem_cons.mp started with same | old
      · -- the worker that has started the run does not ready it any more
        rcases motion.workers standsLater with ⟨standsBefore, elsewhere⟩ | ⟨_, placed⟩
        · have isSame := executed.alone other later prepared id worker execution standsBefore
            (Worker.executes_of_readies readiesLater) stands executes same
          rw [isSame] at elsewhere
          exact elsewhere about
        · rcases placed.readies readiesLater with ⟨prior, standsBefore, readiesBefore, unstarted⟩ |
            ⟨create, isRow, inserted⟩
          · have isSame := executed.alone other prior prepared id worker execution standsBefore
              (Worker.executes_of_readies readiesBefore) stands executes same
            subst isSame
            rw [stands, Option.some.injEq] at standsBefore
            rw [← standsBefore, starts] at unstarted
            cases unstarted
          · rcases executed.recorded id worker execution stands executes with ⟨row, member, terms⟩
            rw [isRow] at same
            exact ne_of_insert_id inserted member ((id_of_terms terms).trans same.symm)
      · exact pending other later prepared standsLater readiesLater old

/-! ## Chains -/

/-- The runs of a window: its root, and whatever descends from it. -/
inductive OfWindow (runs : Runs) (jobKey : String) (window : Time) : ScheduledJobRun -> Prop
  | root (run : ScheduledJobRun) (member : run ∈ runs) (isRoot : run.parentRunId = none)
    (sameJob : run.jobKey = jobKey) (sameWindow : run.scheduledFor = window) :
    OfWindow runs jobKey window run
  | child (run parent : ScheduledJobRun) (member : run ∈ runs)
    (ofWindow : OfWindow runs jobKey window parent) (isChild : run.parentRunId = some parent.id) :
    OfWindow runs jobKey window run

variable {state : State Locks} {jobKey : String} {window : Time}

theorem OfWindow.member (ofWindow : OfWindow state.runs jobKey window run) :
    run ∈ state.runs := by
  cases ofWindow with
  | root member => assumption
  | child parent member => assumption

/-- A child is one attempt further than its parent. -/
theorem Descended.next_attempt (descended : Descended engine state) {child parent : ScheduledJobRun}
    (childMember : child ∈ state.runs) (parentMember : parent ∈ state.runs)
    (isChild : child.parentRunId = some parent.id) :
    child.attempt = parent.attempt + 1 ∧ child.jobKey = parent.jobKey := by
  rcases descended.rows child childMember with ⟨root, _⟩ | ⟨other, otherMember, isOther, isNext, sameKey⟩
  · rw [isChild] at root
    cases root
  · rw [isChild, Option.some.injEq] at isOther
    rw [eq_of_id parentMember otherMember isOther]
    exact ⟨isNext, sameKey⟩

theorem Descended.root_attempt (descended : Descended engine state) (member : run ∈ state.runs)
    (isRoot : run.parentRunId = none) : run.attempt = 1 := by
  rcases descended.rows run member with ⟨_, first⟩ | ⟨parent, _, isChild, _⟩
  · exact first
  · rw [isRoot] at isChild
    cases isChild

theorem Descended.attempt_pos (descended : Descended engine state) (member : run ∈ state.runs) :
    1 ≤ run.attempt := by
  rcases descended.rows run member with ⟨_, first⟩ | ⟨parent, _, _, isNext, _⟩
  · omega
  · omega

theorem OfWindow.jobKey_eq (descended : Descended engine state)
    (ofWindow : OfWindow state.runs jobKey window run) : run.jobKey = jobKey := by
  induction ofWindow with
  | root run member isRoot sameJob sameWindow => exact sameJob
  | child run parent member ofWindow isChild inductionHypothesis =>
    exact (descended.next_attempt member ofWindow.member isChild).2.trans inductionHypothesis

/-- A run has one child at most. -/
theorem Scheduled.one_child (scheduled : Scheduled state) (descended : Descended engine state)
    {parent first second : ScheduledJobRun} (parentMember : parent ∈ state.runs)
    (firstMember : first ∈ state.runs) (secondMember : second ∈ state.runs)
    (isFirst : first.parentRunId = some parent.id) (isSecond : second.parentRunId = some parent.id) :
    first = second := by
  have retryKey : forall child, child ∈ state.runs -> child.parentRunId = some parent.id ->
      child.idempotencyKey = .retry parent.id (parent.attempt + 1) := by
    intro child member isChild
    rcases scheduled.rows child member with ⟨root, _⟩ | ⟨parentId, attempt, isRetry⟩
    · rw [isChild] at root
      cases root
    · rcases descended.automatic child member parentId attempt isRetry with ⟨isOther, sameAttempt, _⟩
      rw [isChild, Option.some.injEq] at isOther
      rw [isRetry, ← isOther, ← sameAttempt, (descended.next_attempt member parentMember isChild).1]
  refine eq_of_idempotencyKey firstMember secondMember ?_
  rw [retryKey first firstMember isFirst, retryKey second secondMember isSecond]

/-- Within a window, the attempt tells the run. -/
theorem OfWindow.eq_of_attempt (scheduled : Scheduled state) (descended : Descended engine state)
    {first second : ScheduledJobRun} (ofFirst : OfWindow state.runs jobKey window first)
    (ofSecond : OfWindow state.runs jobKey window second) (same : first.attempt = second.attempt) :
    first = second := by
  induction ofFirst generalizing second with
  | root first member isRoot sameJob sameWindow =>
    cases ofSecond with
    | root second otherMember otherRoot otherJob otherWindow =>
      have rootKey : forall run, run ∈ state.runs -> run.parentRunId = none -> run.jobKey = jobKey ->
          run.scheduledFor = window -> run.idempotencyKey = .scheduled jobKey window false := by
        intro run runMember runRoot runJob runWindow
        rcases scheduled.rows run runMember with ⟨_, key⟩ | ⟨parentId, attempt, isRetry⟩
        · rw [key, runJob, runWindow]
        · have isChild := (descended.automatic run runMember parentId attempt isRetry).1
          rw [runRoot] at isChild
          cases isChild
      refine eq_of_idempotencyKey member otherMember ?_
      rw [rootKey first member isRoot sameJob sameWindow,
        rootKey second otherMember otherRoot otherJob otherWindow]
    | child second parent otherMember ofParent isChild =>
      have firstAttempt := descended.root_attempt member isRoot
      have nextAttempt := (descended.next_attempt otherMember ofParent.member isChild).1
      have parentAttempt := descended.attempt_pos ofParent.member
      omega
  | child first parent member ofParent isChild inductionHypothesis =>
    have nextAttempt := (descended.next_attempt member ofParent.member isChild).1
    have parentAttempt := descended.attempt_pos ofParent.member
    cases ofSecond with
    | root second otherMember otherRoot otherJob otherWindow =>
      have firstAttempt := descended.root_attempt otherMember otherRoot
      omega
    | child second other otherMember ofOther isOtherChild =>
      have otherAttempt := (descended.next_attempt otherMember ofOther.member isOtherChild).1
      have sameParent : parent = other := inductionHypothesis ofOther (by omega)
      subst sameParent
      exact scheduled.one_child descended ofParent.member member otherMember isChild isOtherChild

/-- No run is beyond the attempts of its job. -/
theorem Scheduled.attempt_le (scheduled : Scheduled state) (descended : Descended engine state)
    (member : run ∈ state.runs) (registered : engine.registry.get run.jobKey = some job) :
    run.attempt ≤ job.maxAttempts := by
  rcases scheduled.rows run member with ⟨isRoot, _⟩ | ⟨parentId, attempt, isRetry⟩
  · rw [descended.root_attempt member isRoot]
    exact Registry.one_le_maxAttempts (Registry.mem_of_get registered)
  · rcases descended.automatic run member parentId attempt isRetry with ⟨_, sameAttempt, other, isOther, within⟩
    rw [registered, Option.some.injEq] at isOther
    rw [sameAttempt, isOther]
    exact within

theorem OfWindow.length_le (scheduled : Scheduled state) (descended : Descended engine state)
    (registered : engine.registry.get jobKey = some job) {chain : List ScheduledJobRun}
    (distinct : chain.Nodup) (ofWindow : forall run, run ∈ chain -> OfWindow state.runs jobKey window run) :
    chain.length ≤ job.maxAttempts := by
  have attempts : (chain.map ScheduledJobRun.attempt).Nodup := by
    refine List.Nodup.map_on ?_ distinct
    intro first firstMember second secondMember same
    exact (ofWindow first firstMember).eq_of_attempt scheduled descended (ofWindow second secondMember) same
  have within : chain.map ScheduledJobRun.attempt ⊆ List.range' 1 job.maxAttempts := by
    intro attempt member
    rcases List.mem_map.mp member with ⟨run, runMember, rfl⟩
    have ofRun := ofWindow run runMember
    have least := descended.attempt_pos ofRun.member
    have most := scheduled.attempt_le descended ofRun.member
      (by rw [ofRun.jobKey_eq descended]; exact registered)
    rw [List.mem_range'_1]
    omega
  have bound := (List.subperm_of_subset attempts within).length_le
  rw [List.length_map, List.length_range'] at bound
  exact bound

/-- Every run is one of a window. -/
theorem Descended.covers (descended : Descended engine state) (member : run ∈ state.runs) :
    Exists fun window => OfWindow state.runs run.jobKey window run := by
  induction attempt : run.attempt generalizing run with
  | zero =>
    have least := descended.attempt_pos member
    omega
  | succ before inductionHypothesis =>
    rcases descended.rows run member with ⟨isRoot, _⟩ | ⟨parent, parentMember, isChild, isNext, sameKey⟩
    · exact ⟨run.scheduledFor, .root run member isRoot rfl rfl⟩
    · rcases inductionHypothesis parentMember (by omega) with ⟨window, ofParent⟩
      rw [← sameKey] at ofParent
      exact ⟨window, .child run parent member ofParent isChild⟩

/-- The runs of every window are one chain within the attempts of the job, and
each calls its handler once at most. -/
structure Linear (engine : Engine Locks) (state : State Locks) : Prop where
  one_child : forall parent first second, parent ∈ state.runs -> first ∈ state.runs ->
    second ∈ state.runs -> first.parentRunId = some parent.id -> second.parentRunId = some parent.id ->
    first = second
  next_attempt : forall parent child, parent ∈ state.runs -> child ∈ state.runs ->
    child.parentRunId = some parent.id -> child.attempt = parent.attempt + 1
  bounded : forall jobKey window job, engine.registry.get jobKey = some job ->
    forall chain : List ScheduledJobRun, chain.Nodup ->
      (forall run, run ∈ chain -> OfWindow state.runs jobKey window run) -> chain.length ≤ job.maxAttempts
  single : forall jobKey window first second, OfWindow state.runs jobKey window first ->
    OfWindow state.runs jobKey window second -> first.attempt = second.attempt -> first = second
  covered : forall run, run ∈ state.runs -> Exists fun window => OfWindow state.runs run.jobKey window run
  once : state.started.Nodup

/-- While due jobs run under the key of their window, the runs of every window
form one chain. -/
theorem chains_linear (engine : Engine Locks) (now : Time) (locks : Locks) (actions : List SchedulerAction)
    (admitted : (scheduler engine).Admits Windowed (State.opening now locks) actions) :
    Linear engine ((scheduler engine).run (State.opening now locks) actions) := by
  have keeps : forall state action next, (Consistent engine state ∧ Scheduled state ∧ Once state) ->
      Windowed state action -> (scheduler engine).step state action = .ok next ->
      (Consistent engine next ∧ Scheduled next ∧ Once next) := by
    rintro state action next ⟨consistent, scheduled, once⟩ windowed accepted
    have motion := schedulerStep_motion accepted
    exact ⟨motion.consistent consistent, motion.scheduled windowed consistent.proper scheduled,
      motion.once consistent.executed once⟩
  have opening : Consistent engine (State.opening now locks) ∧ Scheduled (State.opening now locks) ∧
      Once (State.opening now locks) := by
    refine ⟨consistent_opening engine now locks, ?_, ?_⟩
    · constructor
      · intro id worker trigger stands
        cases stands
      · intro id worker stands
        cases stands
      · intro id worker run actorId stands
        cases stands
      · intro id worker job input stands
        cases stands
      · exact fun row member => absurd member (Table.not_mem_empty _)
    · constructor
      · exact List.nodup_nil
      · exact fun runId started => absurd started List.not_mem_nil
      · intro id worker execution stands
        cases stands
  rcases Machine.run_invariant_of_admits keeps opening admitted with ⟨consistent, scheduled, once⟩
  have descended := consistent.descended
  constructor
  · intro parent first second parentMember firstMember secondMember isFirst isSecond
    exact scheduled.one_child descended parentMember firstMember secondMember isFirst isSecond
  · intro parent child parentMember childMember isChild
    exact (descended.next_attempt childMember parentMember isChild).1
  · intro jobKey window job registered chain distinct ofWindow
    exact OfWindow.length_le scheduled descended registered distinct ofWindow
  · intro jobKey window first second ofFirst ofSecond same
    exact ofFirst.eq_of_attempt scheduled descended ofSecond same
  · exact fun run member => descended.covers member
  · exact once.nodup

/-- Whatever ticks, retries and dry runs cross: the history and the workers stay
consistent, and each run calls its handler once at most. -/
theorem handlers_called_once (engine : Engine Locks) (now : Time) (locks : Locks)
    (actions : List SchedulerAction) :
    Consistent engine ((scheduler engine).run (State.opening now locks) actions) ∧
    ((scheduler engine).run (State.opening now locks) actions).started.Nodup := by
  have keeps : forall state action next, Consistent engine state ∧ Once state ->
      (scheduler engine).step state action = .ok next -> Consistent engine next ∧ Once next := by
    rintro state action next ⟨consistent, once⟩ accepted
    have motion := schedulerStep_motion accepted
    exact ⟨motion.consistent consistent, motion.once consistent.executed once⟩
  have initially : Once (State.opening now locks) := by
    refine ⟨List.nodup_nil, fun runId started => absurd started List.not_mem_nil, ?_⟩
    intro id worker execution stands
    cases stands
  have holds := Machine.run_invariant keeps ⟨consistent_opening engine now locks, initially⟩ actions
  exact ⟨holds.1, holds.2.nodup⟩

instance (state : State Locks) (action : SchedulerAction) : Decidable (Windowed state action) :=
  match action with
  | .runJob _ _ trigger dryRun => inferInstanceAs (Decidable (trigger.windowed = true ∧ dryRun = false))
  | .runDueJobs _ trigger => inferInstanceAs (Decidable (trigger.windowed = true))
  | .retryFailure .. => isFalse id
  | .recoverAbandonedRuns _ | .setJobEnabled .. | .acknowledgeFailure .. | .advance _ | .throws ..
  | .handlerReturns .. | .handlerThrows .. | .timeout _ | .crash _ | .pass _ => isTrue trivial

theorem chains_linear_after_retryingTick :
    Linear (memoryEngine paymentOperationsRegistry) (paymentOperationsRun (failedTick ++ retryingTick)) :=
  chains_linear (memoryEngine paymentOperationsRegistry) 1000000000 (fun _ => none)
    (failedTick ++ retryingTick) (by decide +kernel)

/-- A cron tick and a tick from the command line find the same job due.  The
second runs it under a key of its own once the first has released the lock. -/
def crossedTicks : List SchedulerAction :=
  [.runDueJobs 0 .cron, .advance 0, .advance 0, .advance 0, .runDueJobs 1 .cli, .advance 1, .advance 1,
    .advance 1, .advance 0, .advance 1] ++ List.replicate 6 (.advance 0) ++
  [.handlerReturns 0 [], .advance 0, .advance 0, .advance 0] ++ List.replicate 6 (.advance 1)

/-- Two runs of one window call the handler at their first attempt. -/
theorem window_run_twice_by_crossedTicks :
    Exists fun first => Exists fun second =>
      OfWindow (paymentOperationsRun crossedTicks).runs "payments.operations" 999900000 first ∧
      OfWindow (paymentOperationsRun crossedTicks).runs "payments.operations" 999900000 second ∧
      first.attempt = 1 ∧ second.attempt = 1 ∧ first.id ≠ second.id ∧
      first.id ∈ (paymentOperationsRun crossedTicks).started ∧
      second.id ∈ (paymentOperationsRun crossedTicks).started := by
  have both : Exists fun first => first ∈ (paymentOperationsRun crossedTicks).runs.rows ∧
      Exists fun second => second ∈ (paymentOperationsRun crossedTicks).runs.rows ∧
        first.parentRunId = none ∧ first.jobKey = "payments.operations" ∧ first.scheduledFor = 999900000 ∧
        second.parentRunId = none ∧ second.jobKey = "payments.operations" ∧
        second.scheduledFor = 999900000 ∧ first.attempt = 1 ∧ second.attempt = 1 ∧ first.id ≠ second.id ∧
        first.id ∈ (paymentOperationsRun crossedTicks).started ∧
        second.id ∈ (paymentOperationsRun crossedTicks).started := by
    decide +kernel
  rcases both with ⟨first, firstMember, second, secondMember, firstRoot, firstJob, firstWindow, secondRoot,
    secondJob, secondWindow, rest⟩
  exact ⟨first, second, .root first firstMember firstRoot firstJob firstWindow,
    .root second secondMember secondRoot secondJob secondWindow, rest⟩

end Scheduler
end DigitalSolutions

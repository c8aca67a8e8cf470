import DigitalSolutions.Scheduler.Records

namespace DigitalSolutions
namespace Scheduler

open Foundation Persistence

/-!
# Where runs come from

A run is a root, or one attempt further than its parent.  The key of an
automatic retry names the parent and the attempt, and the attempt is within
what the job allows.  The identifiers that are drawn are new.
-/

variable {Locks : Type} {engine : Engine Locks} {before after : State Locks}
variable {action : SchedulerAction} {worker later : Worker}
variable {job : ScheduledJob} {input : RunJobInput} {create : CreateRun}

/-! ## What `runJob` is called with -/

/-- A call that names a parent names a run of its job, and the key of an
automatic retry is right about the parent and the attempt. -/
structure Founded (state : State Locks) (job : ScheduledJob) (input : RunJobInput) : Prop where
  parented : forall parentId, input.parentRunId = some parentId ->
    Exists fun parent => parent ∈ state.runs ∧ parent.id = parentId ∧ parent.jobKey = input.key
  automatic : forall parentId attempt, input.idempotencyKey = some (.retry parentId attempt) ->
    input.parentRunId = some parentId ∧ input.dryRun = false ∧ attempt ≤ job.maxAttempts ∧
      Exists fun parent => parent ∈ state.runs ∧ parent.id = parentId ∧ attempt = parent.attempt + 1

theorem Founded.motion (motion : Motion engine before action after) (founded : Founded before job input) :
    Founded after job input := by
  constructor
  · intro parentId named
    rcases founded.parented parentId named with ⟨parent, member, sameId, sameKey⟩
    rcases motion.kept member with ⟨row, rowMember, terms⟩
    exact ⟨row, rowMember, (id_of_terms terms).trans sameId, (jobKey_of_terms terms).trans sameKey⟩
  · intro parentId attempt isRetry
    rcases founded.automatic parentId attempt isRetry with
      ⟨named, live, within, parent, member, sameId, isNext⟩
    rcases motion.kept member with ⟨row, rowMember, terms⟩
    refine ⟨named, live, within, row, rowMember, (id_of_terms terms).trans sameId, ?_⟩
    rw [attempt_of_terms terms]
    exact isNext

/-- A retry of a recorded run that has attempts left. -/
theorem founded_retryInput {state : State Locks} {now : Time} {run : ScheduledJobRun}
    (recorded : Recorded state run) (left : run.attempt < job.maxAttempts) :
    Founded state job (retryInput now run) := by
  rcases recorded with ⟨row, member, terms⟩
  constructor
  · intro parentId named
    cases named
    exact ⟨row, member, id_of_terms terms, jobKey_of_terms terms⟩
  · intro parentId attempt isRetry
    cases isRetry
    exact ⟨rfl, rfl, left, row, member, id_of_terms terms, by rw [attempt_of_terms terms]⟩

theorem Asked.founded {id : Nat} (asked : Asked before worker input)
    (stands : before.workers id = some worker) (registered : engine.registry.get input.key = some job)
    (known : Known engine before) (waiting : AllWaiting engine before) : Founded before job input := by
  cases asked with
  | due now trigger definition ticks =>
    exact ⟨fun _ impossible => (by cases impossible), fun _ _ impossible => (by cases impossible)⟩
  | abandoned now run rest next isReport =>
    subst isReport
    rcases known.promised id now run rest next stands with ⟨promised, isPromised, left⟩
    have same : promised = job := Option.some.inj (isPromised.symm.trans registered)
    subst same
    exact founded_retryInput (known.cited id _ run stands rfl) left
  | consumed now trigger run rest isConsumption source =>
    subst isConsumption
    rcases known.listed id _ run stands List.mem_cons_self with ⟨row, member, terms⟩
    rcases consumesRetrySource_eq_true.mp source with ⟨consumed, consumedMember, sameId, retrying⟩
    have same : consumed = row := eq_of_id consumedMember member (sameId.trans (id_of_terms terms).symm)
    subst same
    rcases (waiting consumed member retrying).worthy with ⟨worthy, isWorthy, left⟩
    rw [jobKey_of_terms terms] at isWorthy
    rw [attempt_of_terms terms] at left
    have same : worthy = job := Option.some.inj (isWorthy.symm.trans registered)
    subst same
    exact founded_retryInput ⟨consumed, member, terms⟩ left
  | manual run actorId isRequest =>
    subst isRequest
    rcases known.cited id _ run stands rfl with ⟨row, member, terms⟩
    constructor
    · intro parentId named
      cases named
      exact ⟨row, member, id_of_terms terms, jobKey_of_terms terms⟩
    · intro parentId attempt isRetry
      cases isRetry

/-- A call of `runJob` that has not created its run is founded. -/
def AllFounded (state : State Locks) : Prop :=
  forall id worker job input, state.workers id = some worker -> worker.requests = some (job, input) ->
    Founded state job input

theorem Placed.founded {id : Nat} (placed : Placed engine before after action id later)
    (requests : later.requests = some (job, input)) (known : Known engine before)
    (waiting : AllWaiting engine before) (founded : AllFounded before) :
    Founded before job input := by
  rcases placed.requests requests with
    ⟨_, key, trigger, dryRun, _, rfl⟩ | ⟨worker, stands, requested | ⟨registered, asked⟩⟩
  · exact ⟨fun _ impossible => (by cases impossible), fun _ _ impossible => (by cases impossible)⟩
  · exact founded id worker job input stands requested
  · exact asked.founded stands registered known waiting

theorem Motion.founded (motion : Motion engine before action after) (known : Known engine before)
    (waiting : AllWaiting engine before) (founded : AllFounded before) : AllFounded after := by
  intro id later job input stands requests
  rcases motion.workers stands with ⟨standsBefore, _⟩ | ⟨_, placed⟩
  · exact (founded id later job input standsBefore requests).motion motion
  · exact (placed.founded requests known waiting founded).motion motion

/-! ## Roots and children -/

/-- The attempt of a row that is written out, or of a run. -/
def Descends (state : State Locks) (parentRunId : Option Draw) (attempt : Nat) (jobKey : String) : Prop :=
  (parentRunId = none ∧ attempt = 1) ∨
  Exists fun parent => parent ∈ state.runs ∧ parentRunId = some parent.id ∧
    attempt = parent.attempt + 1 ∧ jobKey = parent.jobKey

theorem Descends.motion {parentRunId : Option Draw} {attempt : Nat} {jobKey : String}
    (motion : Motion engine before action after) (descends : Descends before parentRunId attempt jobKey) :
    Descends after parentRunId attempt jobKey := by
  rcases descends with root | ⟨parent, member, named, isNext, sameKey⟩
  · exact Or.inl root
  · rcases motion.kept member with ⟨row, rowMember, terms⟩
    refine Or.inr ⟨row, rowMember, ?_, ?_, ?_⟩
    · rw [named, id_of_terms terms]
    · rw [isNext, attempt_of_terms terms]
    · rw [sameKey, jobKey_of_terms terms]

theorem Worker.drafts_of_creates (creates : worker.creates = some create) :
    worker.drafts ≠ none := by
  cases worker with
  | running point caller =>
    cases point with
    | creating => exact Option.some_ne_none _
    | _ => cases creates
  | _ => cases creates

theorem Placed.descends {id : Nat} (placed : Placed engine before after action id later)
    (creates : later.creates = some create) (proper : AllProper engine before)
    (founded : AllFounded before) :
    Descends before create.parentRunId create.attempt create.jobKey := by
  have engaged : later.Engaged := Or.inr (Or.inl (Worker.drafts_of_creates creates))
  rcases placed.passes engaged with ⟨point, point', caller, stands, rfl, passes⟩
  cases passes with
  | follows isAdvance follows effect =>
    cases follows with
    | root job input now parentless =>
      cases creates
      exact Or.inl ⟨parentless, rfl⟩
    | parented job input now draft =>
      cases creates
      have draftOf := (proper id _ stands).drafted job input now draft rfl
      have isKey := ((proper id _ stands).registered rfl).1
      cases named : input.parentRunId with
      | none =>
        refine Or.inl ⟨draftOf.parentRunId.trans named, ?_⟩
        rfl
      | some parentId =>
        rcases (founded id _ job input stands rfl).parented parentId named with
          ⟨parent, member, sameId, sameKey⟩
        refine Or.inr ⟨parent, member, ?_, ?_, isKey.trans sameKey.symm⟩
        · rw [sameId, ← named]
          exact draftOf.parentRunId
        · simp only [Option.bind_some, getRun_eq_some.mpr ⟨member, sameId⟩, Option.map_some,
            Option.getD_some]
    | _ => cases creates
  | catches message catches => cases catches <;> cases creates
  | settles execution lock startedAt handlerStart isHandling settles =>
    rcases settles with ⟨summary, rfl⟩ | ⟨message, rfl⟩
    · cases creates
    · cases creates

/-- Every run, and every run that is about to be created, is a root or a child,
and a run under the key of an automatic retry is within its job's attempts. -/
structure Descended (engine : Engine Locks) (state : State Locks) : Prop where
  rows : forall row, row ∈ state.runs -> Descends state row.parentRunId row.attempt row.jobKey
  drafts : forall id worker create, state.workers id = some worker -> worker.creates = some create ->
    Descends state create.parentRunId create.attempt create.jobKey
  automatic : forall row, row ∈ state.runs -> forall parentId attempt,
    row.idempotencyKey = .retry parentId attempt ->
    row.parentRunId = some parentId ∧ row.attempt = attempt ∧
      Exists fun job => engine.registry.get row.jobKey = some job ∧ attempt ≤ job.maxAttempts

theorem DraftOf.retry {now : Time} (draft : DraftOf job input now create) {parentId : Draw}
    {attempt : Nat} (isRetry : create.idempotencyKey = .retry parentId attempt) :
    input.idempotencyKey = some (.retry parentId attempt) := by
  rcases draft with ⟨draw, number, rfl⟩
  simp only [newRun] at isRetry
  cases given : input.idempotencyKey with
  | some key =>
    rw [given] at isRetry
    rw [← isRetry]
    rfl
  | none =>
    rw [given, Option.getD_none] at isRetry
    split at isRetry <;> cases isRetry

theorem Motion.descended (motion : Motion engine before action after) (proper : AllProper engine before)
    (founded : AllFounded before) (descended : Descended engine before) : Descended engine after := by
  constructor
  · intro row member
    rcases motion.came member with ⟨old, oldMember, terms⟩ |
      ⟨id, job, input, now, create, caller, stands, _, rfl, _⟩
    · rw [parentRunId_of_terms terms, attempt_of_terms terms, jobKey_of_terms terms]
      exact (descended.rows old oldMember).motion motion
    · exact (descended.drafts id _ create stands rfl).motion motion
  · intro id later create stands creates
    rcases motion.workers stands with ⟨standsBefore, _⟩ | ⟨_, placed⟩
    · exact (descended.drafts id later create standsBefore creates).motion motion
    · exact (placed.descends creates proper founded).motion motion
  · intro row member parentId attempt isRetry
    rcases motion.came member with ⟨old, oldMember, terms⟩ |
      ⟨id, job, input, now, create, caller, stands, _, rfl, _⟩
    · rw [idempotencyKey_of_terms terms] at isRetry
      rw [parentRunId_of_terms terms, attempt_of_terms terms, jobKey_of_terms terms]
      exact descended.automatic old oldMember parentId attempt isRetry
    · have draftOf := (proper id _ stands).drafted job input now create rfl
      rcases (proper id _ stands).registered rfl with ⟨isKey, registered⟩
      have isChild : create.parentRunId = input.parentRunId := draftOf.parentRunId
      rcases (founded id _ job input stands rfl).automatic parentId attempt (draftOf.retry isRetry) with
        ⟨named, _, within, parent, parentMember, sameId, isNext⟩
      refine ⟨isChild.trans named, ?_, job, ?_, within⟩
      · rcases descended.drafts id _ create stands rfl with ⟨root, _⟩ | ⟨other, otherMember, isOther, sum, _⟩
        · rw [isChild, named] at root
          cases root
        · rw [isChild, named, Option.some.injEq] at isOther
          have same : other = parent := eq_of_id otherMember parentMember (isOther.symm.trans sameId.symm)
          rw [isNext, ← same]
          exact sum
      · rw [← registered, ← isKey]
        rfl

/-! ## Drawn identifiers -/

/-- The correlation that a worker has drawn for a run it has not created. -/
def Worker.correlates (worker : Worker) : Option Draw :=
  worker.drafts.map (fun draft => draft.2.2.2.correlationId)

/-- No identifier is drawn twice. -/
structure Fresh (state : State Locks) : Prop where
  rows : forall row, row ∈ state.runs -> row.id < state.draws ∧ row.correlationId < state.draws
  drawn : forall id worker draw, state.workers id = some worker -> worker.correlates = some draw ->
    draw < state.draws ∧ forall row, row ∈ state.runs -> row.correlationId ≠ draw
  apart : forall first firstWorker second secondWorker draw, state.workers first = some firstWorker ->
    firstWorker.correlates = some draw -> state.workers second = some secondWorker ->
    secondWorker.correlates = some draw -> first = second

theorem Worker.correlates_of_drafts (undrafted : worker.drafts = none) : worker.correlates = none := by
  rw [Worker.correlates, undrafted, Option.map_none]

/-- A draft keeps its correlation until its run is created. -/
theorem Placed.correlates {id : Nat} {draw : Draw} (placed : Placed engine before after action id later)
    (correlates : later.correlates = some draw) :
    draw = before.draws ∨
    Exists fun worker => before.workers id = some worker ∧ worker.correlates = some draw ∧
      worker.creates = none := by
  have drafts : later.drafts ≠ none := by
    intro undrafted
    rw [Worker.correlates_of_drafts undrafted] at correlates
    cases correlates
  rcases placed.passes (Or.inr (Or.inl drafts)) with ⟨point, point', caller, stands, rfl, passes⟩
  cases passes with
  | follows isAdvance follows effect =>
    cases follows with
    | child =>
      cases correlates
      exact Or.inl rfl
    | root =>
      cases correlates
      exact Or.inl rfl
    | parented job input now create => exact Or.inr ⟨_, stands, correlates, rfl⟩
    | _ => cases correlates
  | catches message catches => cases catches <;> cases correlates
  | settles execution lock startedAt handlerStart isHandling settles =>
    rcases settles with ⟨summary, rfl⟩ | ⟨message, rfl⟩
    · cases correlates
    · cases correlates

theorem Motion.fresh (motion : Motion engine before action after) (fresh : Fresh before) : Fresh after := by
  have grows := motion.draws
  constructor
  · intro row member
    rcases motion.came member with ⟨old, oldMember, terms⟩ |
      ⟨id, job, input, now, create, caller, stands, performs, rfl, _⟩
    · have bound := fresh.rows old oldMember
      have sameCorrelation : row.correlationId = old.correlationId :=
        congrArg (fun terms => terms.2.2.2.2.2.2) terms
      rw [id_of_terms terms, sameCorrelation]
      exact ⟨Nat.lt_of_lt_of_le bound.1 grows.1, Nat.lt_of_lt_of_le bound.2 grows.1⟩
    · have bound := (fresh.drawn id _ create.correlationId stands rfl).1
      constructor
      · rw [grows.2 id (mover_of_performs performs)]
        exact Nat.lt_add_of_pos_right (by decide)
      · exact Nat.lt_of_lt_of_le bound grows.1
  · intro id later draw stands correlates
    have old : forall row, row ∈ before.runs -> row.correlationId < before.draws :=
      fun row member => (fresh.rows row member).2
    rcases motion.workers stands with ⟨standsBefore, elsewhere⟩ | ⟨about, placed⟩
    · have drawn := fresh.drawn id later draw standsBefore correlates
      refine ⟨Nat.lt_of_lt_of_le drawn.1 grows.1, ?_⟩
      intro row member same
      rcases motion.came member with ⟨prior, priorMember, terms⟩ |
        ⟨other, job, input, now, create, caller, standsOther, performs, rfl, _⟩
      · have sameCorrelation : row.correlationId = prior.correlationId :=
          congrArg (fun terms => terms.2.2.2.2.2.2) terms
        exact drawn.2 prior priorMember (sameCorrelation.symm.trans same)
      · have isSame := fresh.apart id later other _ draw standsBefore correlates standsOther
          (congrArg some same)
        rw [isSame] at elsewhere
        exact elsewhere (mover_of_performs performs)
    · rcases placed.correlates correlates with rfl | ⟨worker, standsBefore, correlatesBefore, uncreating⟩
      · refine ⟨?_, ?_⟩
        · rw [grows.2 id about]
          exact Nat.lt_add_of_pos_right (by decide)
        intro row member same
        rcases motion.came member with ⟨prior, priorMember, terms⟩ |
          ⟨other, job, input, now, create, caller, standsOther, performs, rfl, _⟩
        · have sameCorrelation : row.correlationId = prior.correlationId :=
            congrArg (fun terms => terms.2.2.2.2.2.2) terms
          exact absurd (sameCorrelation.symm.trans same) (Nat.ne_of_lt (old prior priorMember))
        · have bound := (fresh.drawn other _ create.correlationId standsOther rfl).1
          exact absurd same (Nat.ne_of_lt bound)
      · have drawn := fresh.drawn id worker draw standsBefore correlatesBefore
        refine ⟨Nat.lt_of_lt_of_le drawn.1 grows.1, ?_⟩
        intro row member same
        rcases motion.came member with ⟨prior, priorMember, terms⟩ |
          ⟨other, job, input, now, create, caller, standsOther, performs, rfl, _⟩
        · have sameCorrelation : row.correlationId = prior.correlationId :=
            congrArg (fun terms => terms.2.2.2.2.2.2) terms
          exact drawn.2 prior priorMember (sameCorrelation.symm.trans same)
        · have isSame := fresh.apart id worker other _ draw standsBefore correlatesBefore standsOther
            (congrArg some same)
          subst isSame
          rw [standsBefore, Option.some.injEq] at standsOther
          rw [standsOther] at uncreating
          cases uncreating
  · intro first firstWorker second secondWorker draw standsFirst correlatesFirst standsSecond
      correlatesSecond
    rcases motion.workers standsFirst with ⟨firstBefore, _⟩ | ⟨aboutFirst, placedFirst⟩
    · rcases motion.workers standsSecond with ⟨secondBefore, _⟩ | ⟨_, placedSecond⟩
      · exact fresh.apart first firstWorker second secondWorker draw firstBefore correlatesFirst
          secondBefore correlatesSecond
      · rcases placedSecond.correlates correlatesSecond with rfl | ⟨worker, secondBefore, correlates, _⟩
        · exact absurd (fresh.drawn first firstWorker _ firstBefore correlatesFirst).1 (Nat.lt_irrefl _)
        · exact fresh.apart first firstWorker second worker draw firstBefore correlatesFirst
            secondBefore correlates
    · rcases motion.workers standsSecond with ⟨secondBefore, _⟩ | ⟨aboutSecond, _⟩
      · rcases placedFirst.correlates correlatesFirst with rfl | ⟨worker, firstBefore, correlates, _⟩
        · exact absurd (fresh.drawn second secondWorker _ secondBefore correlatesSecond).1 (Nat.lt_irrefl _)
        · exact fresh.apart first worker second secondWorker draw firstBefore correlates
            secondBefore correlatesSecond
      · rw [aboutFirst, Option.some.injEq] at aboutSecond
        exact aboutSecond

/-- With new identifiers, `createRun` never throws. -/
theorem Fresh.createRun_isSome {state : State Locks} {id : Nat} (fresh : Fresh state)
    (stands : state.workers id = some worker) (creates : worker.creates = some create) :
    (createRun create state.draws state.runs).isSome = true := by
  have correlates : worker.correlates = some create.correlationId := by
    cases worker with
    | running point caller =>
      cases point with
      | creating => cases creates; rfl
      | _ => cases creates
    | _ => cases creates
  have drawn := fresh.drawn id worker create.correlationId stands correlates
  unfold createRun
  cases outcome : state.runs.insert (create.row state.draws) with
  | some inserted => rfl
  | none =>
    cases found : state.runs.lookup (.idempotencyKey create.idempotencyKey) with
    | some holder => rfl
    | none =>
      have free : forall key, key ∈ Keyed.keys (create.row state.draws) -> state.runs.lookup key = none := by
        intro key isKey
        simp only [Keyed.keys, CreateRun.row, List.mem_cons, List.not_mem_nil, or_false] at isKey
        rcases isKey with rfl | rfl | rfl
        · refine (Table.lookup_eq_none _).mpr ?_
          intro row member common
          simp only [Keyed.keys, List.mem_cons, ScheduledJobRun.Key.id.injEq, reduceCtorEq,
            List.not_mem_nil, or_false] at common
          exact absurd common.symm (Nat.ne_of_lt (fresh.rows row member).1)
        · refine (Table.lookup_eq_none _).mpr ?_
          intro row member common
          simp only [Keyed.keys, List.mem_cons, ScheduledJobRun.Key.correlationId.injEq, reduceCtorEq,
            List.not_mem_nil, or_false, false_or] at common
          exact drawn.2 row member common.symm
        · exact found
      rcases Table.insert_of_free free with ⟨inserted, done⟩
      rw [done] at outcome
      cases outcome

/-! ## Everything together -/

/-- What holds of the history and the workers in every reachable state. -/
structure Consistent (engine : Engine Locks) (state : State Locks) : Prop where
  proper : AllProper engine state
  registered : Registered engine state
  known : Known engine state
  executed : Executed state
  waiting : AllWaiting engine state
  founded : AllFounded state
  descended : Descended engine state
  fresh : Fresh state

theorem Motion.consistent (motion : Motion engine before action after)
    (consistent : Consistent engine before) : Consistent engine after where
  proper := motion.allProper consistent.proper
  registered := motion.registered consistent.proper consistent.registered
  known := motion.known consistent.known
  executed := motion.executed consistent.executed
  waiting := motion.waiting consistent.proper consistent.executed consistent.waiting
  founded := motion.founded consistent.known consistent.waiting consistent.founded
  descended := motion.descended consistent.proper consistent.founded consistent.descended
  fresh := motion.fresh consistent.fresh

theorem consistent_opening (engine : Engine Locks) (now : Time) (locks : Locks) :
    Consistent engine (State.opening now locks) := by
  have nobody : forall id (worker : Worker), (State.opening now locks).workers id ≠ some worker :=
    fun id worker stands => by cases stands
  have nothing : forall row : ScheduledJobRun, ¬ row ∈ (State.opening now locks).runs :=
    fun row member => Table.not_mem_empty _ member
  constructor
  · exact fun id worker stands => absurd stands (nobody id worker)
  · exact fun row member => absurd member (nothing row)
  · exact ⟨fun id worker run stands => absurd stands (nobody id worker),
      fun id worker run stands => absurd stands (nobody id worker),
      fun id now run startedAt retryable rest next stands => absurd stands (nobody id _),
      fun id now run rest next stands => absurd stands (nobody id _)⟩
  · exact ⟨fun id worker execution stands => absurd stands (nobody id worker),
      fun first firstWorker execution second secondWorker other stands =>
        absurd stands (nobody first firstWorker)⟩
  · exact fun row member => absurd member (nothing row)
  · exact fun id worker job input stands => absurd stands (nobody id worker)
  · exact ⟨fun row member => absurd member (nothing row),
      fun id worker create stands => absurd stands (nobody id worker),
      fun row member => absurd member (nothing row)⟩
  · exact ⟨fun row member => absurd member (nothing row),
      fun id worker draw stands => absurd stands (nobody id worker),
      fun first firstWorker second secondWorker draw stands =>
        absurd stands (nobody first firstWorker)⟩

end Scheduler
end DigitalSolutions

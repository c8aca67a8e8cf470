import DigitalSolutions.Scheduler.Exclusion
import DigitalSolutions.Scheduler.Finality

namespace DigitalSolutions
namespace Scheduler

open Foundation Persistence

/-!
# What a call of `runJob` leaves behind

A run is created and its lock acquired before the block whose end releases the
lock and records how the run has ended.  A statement that throws there, or
that throws where the end is recorded, leaves the run or the lock behind.
-/

variable {Locks : Type} {engine : Engine Locks} {before after : State Locks}
variable {action : SchedulerAction} {worker later : Worker} {runId token : Draw}
variable {next : Option Worker} {lock : Lock} {key : String}

/-- Neither terminal nor to be retried. -/
def Unfinished (status : RunStatus) : Prop := status = .queued ∨ status = .running

instance (status : RunStatus) : Decidable (Unfinished status) := inferInstanceAs (Decidable (_ ∨ _))

/-- The run whose outcome the worker has yet to record. -/
def Worker.pursues : Worker -> Option Execution
  | .running (.acquiring execution) _ | .running (.markingConflict execution) _
  | .running (.locked execution _) _ | .running (.starting execution _ _) _
  | .running (.handling execution _ _ _) _ | .running (.succeeding execution _ _ _ _) _
  | .running (.failing execution _ _ _ _) _ => some execution
  | _ => none

/-! ## The condition -/

/-- The statement of the worker leaves a run behind when it throws, after it has
taken effect or before. -/
def Worker.strands (state : State Locks) (runId : Draw) (committed : Bool) : Worker -> Prop
  | .running (.creating ..) _ => committed = true ∧ state.draws = runId
  | .running (.acquiring execution) _ | .running (.starting execution _ _) _ => execution.run.id = runId
  | .running (.markingConflict execution) _ => committed = false ∧ execution.run.id = runId
  | .running (.failing execution _ _ _ _) _ =>
    committed = false ∧ execution.run.id = runId ∧
      Exists fun row => row ∈ state.runs.rows ∧ row.id = runId ∧ Unfinished row.status
  | _ => False

/-- A step by which a worker gives up a run without an outcome. -/
def Strands (runId : Draw) (state : State Locks) : SchedulerAction -> Prop
  | .throws id _ committed => Exists fun worker => worker ∈ state.workers id ∧ worker.strands state runId committed
  | .crash id => Exists fun worker => worker ∈ state.workers id ∧
      Exists fun execution => execution ∈ worker.pursues ∧ execution.run.id = runId
  | _ => False

/-- The statement of the worker leaves a lock behind when it throws. -/
def Worker.loses (state : State Locks) (token : Draw) (committed : Bool) : Worker -> Prop
  | .running (.acquiring _) _ => committed = true ∧ state.draws = token
  | .running (.starting _ lock _) _ => lock.owner = token
  | .running (.failing _ lock _ _ message) _ | .running (.reportingFailure _ lock _ message) _ =>
    releasesLock message = false ∧ lock.owner = token
  | .running (.releasing lock _) _ => committed = false ∧ lock.owner = token
  | _ => False

/-- The lock of the worker is kept on purpose: its handler has timed out. -/
def Worker.keeps (token : Draw) : Worker -> Prop
  | .running (.failing _ lock _ _ message) _ | .running (.reportingFailure _ lock _ message) _ =>
    releasesLock message = false ∧ lock.owner = token
  | _ => False

/-- A step by which a worker gives up a lock without releasing it. -/
def Loses (token : Draw) (state : State Locks) : SchedulerAction -> Prop
  | .advance id => Exists fun worker => worker ∈ state.workers id ∧ worker.keeps token
  | .throws id _ committed => Exists fun worker => worker ∈ state.workers id ∧ worker.loses state token committed
  | .crash id => Exists fun worker => worker ∈ state.workers id ∧
      Exists fun lock => lock ∈ worker.holds ∧ lock.owner = token
  | _ => False

/-! ## Runs that are in a worker's hands -/

def InHand (runId : Draw) (state : State Locks) : Prop :=
  Exists fun id => Exists fun worker => Exists fun execution =>
    state.workers id = some worker ∧ worker.pursues = some execution ∧ execution.run.id = runId

/-- A run without an outcome is in a worker's hands. -/
def Pursued (runId : Draw) (state : State Locks) : Prop :=
  forall row, row ∈ state.runs -> row.id = runId -> Unfinished row.status -> InHand runId state

/-- The statement that throws has taken effect, or has not. -/
theorem throws_cases {id : Nat} {message : String} {committed : Bool}
    (accepted : schedulerStep engine before (.throws id message committed) = .ok after) :
    Exists fun worker => before.workers id = some worker ∧ worker.awaits = true ∧
      ((committed = true ∧ Exists fun done => worker.effect engine id before = some done ∧
          after = done.place id (worker.thrown engine before message)) ∨
        ((committed = false ∨ worker.effect engine id before = none) ∧
          after = before.place id (worker.thrown engine before message))) := by
  simp only [schedulerStep] at accepted
  split at accepted
  · rename_i worker stands
    split at accepted
    · rename_i awaits
      refine ⟨worker, stands, awaits, ?_⟩
      cases accepted
      unfold throwFrom
      cases committed with
      | false => exact .inr ⟨.inl rfl, rfl⟩
      | true =>
        cases effect : worker.effect engine id before with
        | none => exact .inr ⟨.inr rfl, rfl⟩
        | some done => exact .inl ⟨rfl, done, rfl, rfl⟩
    · cases accepted
  · cases accepted

/-- Of the statuses that statements write, only `running` is none to end with. -/
theorem Worker.writes_unfinished {status : RunStatus} (writes : worker.writes = some (runId, status))
    (unended : Unfinished status) : status = .running := by
  rcases unended with rfl | rfl
  · cases worker with
    | running point caller =>
      cases point with
      | failing execution lock startedAt completedAt message =>
        simp only [Worker.writes, Option.some.injEq, Prod.mk.injEq] at writes
        split at writes <;> cases writes.2
      | _ => cases writes
    | _ => cases writes
  · rfl

/-- A run that has no outcome after a statement had none before and was not
written, or is being started, or has just been created. -/
theorem RunEffect.unfinished {draws : Draw} {runs laterRuns : Runs} {row : ScheduledJobRun}
    (effect : RunEffect worker draws runs laterRuns) (member : row ∈ laterRuns) (unended : Unfinished row.status) :
    (Exists fun old => old ∈ runs ∧ old.id = row.id ∧ Unfinished old.status ∧
        forall status, worker.writes ≠ some (row.id, status)) ∨
      worker.writes = some (row.id, .running) ∨
      Exists fun create => worker.creates = some create ∧ row.id = draws ∧
        runs.insert (create.row draws) = some laterRuns := by
  cases effect with
  | kept same unwritten unconsumed taken =>
    rcases same.before member with ⟨old, oldMember, sameState⟩
    simp only [runState, Prod.mk.injEq] at sameState
    refine .inl ⟨old, oldMember, id_of_terms sameState.1, ?_, ?_⟩
    · rw [sameState.2.1]
      exact unended
    · intro status
      rw [unwritten]
      exact Option.some_ne_none _ |>.symm
  | created create creates inserted =>
    have unwritten : worker.writes = none := by
      cases worker with
      | running point caller => cases point <;> first | rfl | cases creates
      | _ => cases creates
    rcases (Table.mem_insert inserted).mp member with old | isNew
    · refine .inl ⟨row, old, rfl, unended, ?_⟩
      intro status
      rw [unwritten]
      exact Option.some_ne_none _ |>.symm
    · exact .inr (.inr ⟨create, creates, by rw [isNew]; rfl, inserted⟩)
  | written runId status writes change rows keeps sets unretried present =>
    rcases (Table.mem_of_rows rows).mp member with ⟨old, oldMember, became⟩
    by_cases chosen : old.id = runId
    · rw [if_pos chosen] at became
      have sameId : row.id = runId := by rw [← became, id_of_terms (keeps old), chosen]
      rw [← became, sets old] at unended
      refine .inr (.inl ?_)
      rw [writes, sameId]
      exact congrArg (fun status => some (runId, status)) (Worker.writes_unfinished writes unended)
    · rw [if_neg chosen] at became
      subst became
      refine .inl ⟨old, oldMember, rfl, unended, ?_⟩
      intro other same
      rw [writes, Option.some.injEq, Prod.mk.injEq] at same
      exact chosen same.1.symm
  | consumed runId consumes rows =>
    have unwritten : worker.writes = none := by
      cases worker with
      | running point caller => cases consumes
      | consuming => rfl
      | _ => cases consumes
    rcases (Table.mem_of_rows rows).mp member with ⟨old, oldMember, became⟩
    by_cases chosen : isRetrySource runId old = true
    · rw [if_pos chosen] at became
      rw [← became] at unended
      exact absurd unended (by simp [Unfinished])
    · rw [if_neg chosen] at became
      subst became
      refine .inl ⟨old, oldMember, rfl, unended, ?_⟩
      intro status
      rw [unwritten]
      exact Option.some_ne_none _ |>.symm

/-- A statement that writes a run does so where the run is. -/
theorem Worker.effect_isSome {id : Nat} {status : RunStatus} {row : ScheduledJobRun}
    (writes : worker.writes = some (runId, status)) (member : row ∈ before.runs) (same : row.id = runId) :
    (worker.effect engine id before).isSome = true := by
  cases worker with
  | running point caller =>
    cases point with
    | markingConflict execution =>
      cases writes
      simp only [Worker.effect, RunPoint.effect, State.withRuns, Option.isSome_map]
      exact updateRun_isSome member same
    | starting execution lock startedAt =>
      cases writes
      simp only [Worker.effect, RunPoint.effect, State.withRuns, Option.isSome_map]
      exact updateRun_isSome member same
    | succeeding execution lock startedAt completedAt summary =>
      cases writes
      simp only [Worker.effect, RunPoint.effect, State.withRuns, Option.isSome_map]
      exact updateRun_isSome member same
    | failing execution lock startedAt completedAt message =>
      have sameId : row.id = execution.run.id := by
        simp only [Worker.writes, Option.some.injEq, Prod.mk.injEq] at writes
        rw [same, writes.1]
      simp only [Worker.effect, RunPoint.effect, State.withRuns, Option.isSome_map]
      exact updateRun_isSome member sameId
    | _ => cases writes
  | abandoning now run startedAt retryable rest next =>
    cases writes
    simp only [Worker.effect, State.withRuns, Option.isSome_map]
    exact updateRun_isSome member same
  | _ => cases writes

/-! ## A step of one worker -/

/-- Where a run goes that is not written. -/
theorem Worker.next_pursues {id : Nat} {execution : Execution} (pursues : worker.pursues = some execution)
    (unwritten : forall status, worker.writes ≠ some (execution.run.id, status)) {done : State Locks}
    (effect : worker.effect engine id before = some done) :
    Exists fun later => worker.next engine before = some later ∧ later.pursues = some execution := by
  cases worker with
  | running point caller =>
    cases point with
    | acquiring other =>
      cases pursues
      simp only [Worker.next, RunPoint.next]
      split
      · exact ⟨_, rfl, rfl⟩
      · exact ⟨_, rfl, rfl⟩
    | locked other lock =>
      cases pursues
      exact ⟨_, rfl, rfl⟩
    | handling other lock startedAt handlerStart =>
      cases pursues
      exact ⟨_, rfl, rfl⟩
    | markingConflict other =>
      cases pursues
      exact absurd rfl (unwritten _)
    | starting other lock startedAt =>
      cases pursues
      exact absurd rfl (unwritten _)
    | succeeding other lock startedAt completedAt summary =>
      cases pursues
      exact absurd rfl (unwritten _)
    | failing other lock startedAt completedAt message =>
      cases pursues
      exact absurd rfl (unwritten _)
    | _ => cases pursues
  | _ => cases pursues

/-- A worker that starts a run goes on with it. -/
theorem Worker.next_starting (writes : worker.writes = some (runId, .running)) :
    (Exists fun later => Exists fun execution => worker.next engine before = some later ∧
        later.pursues = some execution ∧ execution.run.id = runId) ∧
      forall committed, worker.strands before runId committed := by
  cases worker with
  | running point caller =>
    cases point with
    | starting execution lock startedAt =>
      cases writes
      exact ⟨⟨_, execution, rfl, rfl, rfl⟩, fun _ => rfl⟩
    | failing execution lock startedAt completedAt message =>
      simp only [Worker.writes, Option.some.injEq, Prod.mk.injEq] at writes
      split at writes <;> cases writes.2
    | _ => cases writes
  | _ => cases writes

/-- A worker that creates a run goes on with it. -/
theorem Worker.next_creating {create : CreateRun} {runs : Runs} (creates : worker.creates = some create)
    (inserted : before.runs.insert (create.row before.draws) = some runs) :
    (Exists fun later => Exists fun execution => worker.next engine before = some later ∧
        later.pursues = some execution ∧ execution.run.id = before.draws) ∧
      worker.strands before before.draws true := by
  cases worker with
  | running point caller =>
    cases point with
    | creating job input now other =>
      cases creates
      refine ⟨?_, rfl, rfl⟩
      simp only [Worker.next, RunPoint.next, createRun, inserted]
      exact ⟨_, _, rfl, rfl, rfl⟩
    | _ => cases creates
  | _ => cases creates

theorem Worker.pursues_effect {id : Nat} {execution : Execution} (pursues : worker.pursues = some execution)
    {row : ScheduledJobRun} (member : row ∈ before.runs) (same : row.id = execution.run.id) :
    (worker.effect engine id before).isSome = true := by
  cases writes : worker.writes with
  | some written =>
    have own : written.1 = execution.run.id := by
      cases worker with
      | running point caller =>
        cases point <;> first | (cases pursues; cases writes; rfl) | cases writes
      | _ => cases pursues
    exact Worker.effect_isSome (show worker.writes = some (execution.run.id, written.2) by rw [writes, ← own])
      member same
  | none =>
    cases worker with
    | running point caller =>
      cases point with
      | acquiring other =>
        simp only [Worker.effect, RunPoint.effect]
        split <;> rfl
      | locked => rfl
      | handling => rfl
      | markingConflict => cases writes
      | starting => cases writes
      | succeeding => cases writes
      | failing => cases writes
      | _ => cases pursues
    | _ => cases pursues

/-- A worker that pursues a run catches an exception, or strands the run. -/
theorem Worker.thrown_pursues {id : Nat} {execution : Execution} (pursues : worker.pursues = some execution)
    (awaits : worker.awaits = true) {message : String} {committed : Bool}
    (vain : committed = false ∨ worker.effect engine id before = none) {row : ScheduledJobRun}
    (member : row ∈ before.runs) (same : row.id = execution.run.id) (unended : Unfinished row.status) :
    (Exists fun later => worker.thrown engine before message = some later ∧ later.pursues = some execution) ∨
      worker.strands before execution.run.id committed := by
  have uncommitted : committed = false := by
    obtain uncommitted | failed := vain
    · exact uncommitted
    · have done : (worker.effect engine id before).isSome = true := Worker.pursues_effect pursues member same
      rw [failed] at done
      cases done
  subst uncommitted
  cases worker with
  | running point caller =>
    cases point with
    | succeeding other lock startedAt completedAt summary =>
      cases pursues
      exact .inl ⟨_, rfl, rfl⟩
    | acquiring other =>
      cases pursues
      exact .inr rfl
    | starting other lock startedAt =>
      cases pursues
      exact .inr rfl
    | markingConflict other =>
      cases pursues
      exact .inr ⟨rfl, rfl⟩
    | failing other lock startedAt completedAt original =>
      cases pursues
      exact .inr ⟨rfl, rfl, row, member, same, unended⟩
    | locked => cases awaits
    | handling => cases awaits
    | _ => cases pursues
  | _ => cases pursues

/-- Whoever does not move still has the run in hand. -/
theorem InHand.elsewhere {moved id : Nat} {execution : Execution}
    (workers : after.workers = Function.update before.workers moved next)
    (stands : before.workers id = some worker) (pursues : worker.pursues = some execution)
    (same : execution.run.id = runId) (different : id ≠ moved) : InHand runId after := by
  refine ⟨id, worker, execution, ?_, pursues, same⟩
  rw [workers, Function.update_of_ne different]
  exact stands

theorem InHand.moved {moved : Nat} {execution : Execution}
    (workers : after.workers = Function.update before.workers moved (some later))
    (pursues : later.pursues = some execution) (same : execution.run.id = runId) : InHand runId after :=
  ⟨moved, later, execution, by rw [workers, Function.update_self], pursues, same⟩

/-- A run of which a statement has taken effect: where it was in hand before. -/
theorem InHand.of_effect {id : Nat} {done : State Locks} (pursued : Pursued runId before)
    (stands : before.workers id = some worker) (effect : worker.effect engine id before = some done)
    (workers : after.workers = Function.update before.workers id next) {row : ScheduledJobRun}
    (member : row ∈ done.runs) (same : row.id = runId) (unended : Unfinished row.status)
    (goesOn : forall execution, worker.pursues = some execution -> execution.run.id = runId ->
      (forall status, worker.writes ≠ some (runId, status)) ->
      Exists fun later => next = some later ∧ later.pursues = some execution)
    (starting : worker.writes = some (runId, .running) -> InHand runId after)
    (creating : forall create, worker.creates = some create -> before.draws = runId ->
      before.runs.insert (create.row before.draws) = some done.runs -> InHand runId after) :
    InHand runId after := by
  have written : RunEffect worker before.draws before.runs done.runs := Worker.runEffect effect
  obtain ⟨old, oldMember, oldId, oldOpen, unwritten⟩ | starts | ⟨create, creates, isNew, inserted⟩ :=
    written.unfinished member unended
  · obtain ⟨other, otherWorker, execution, otherStands, pursues, sameRun⟩ :=
      pursued old oldMember (oldId.trans same) oldOpen
    by_cases isSame : other = id
    · subst isSame
      rw [stands, Option.some.injEq] at otherStands
      subst otherStands
      rw [same] at unwritten
      obtain ⟨later, isNext, laterPursues⟩ := goesOn execution pursues sameRun unwritten
      exact InHand.moved (workers.trans (by rw [isNext])) laterPursues sameRun
    · exact InHand.elsewhere workers otherStands pursues sameRun isSame
  · rw [same] at starts
    exact starting starts
  · exact creating create creates (isNew.symm.trans same) inserted

/-- A statement that throws strands a run, or leaves it in hand. -/
theorem pursued_throws {id : Nat} {message : String} {committed : Bool}
    (accepted : schedulerStep engine before (.throws id message committed) = .ok after)
    (kept : ¬ Strands runId before (.throws id message committed)) (pursued : Pursued runId before) :
    Pursued runId after := by
  intro row member same unended
  obtain ⟨worker, stands, awaits, ⟨rfl, done, effect, rfl⟩ | ⟨vain, rfl⟩⟩ := throws_cases accepted
  · have workers : (done.place id (worker.thrown engine before message)).workers =
        Function.update before.workers id (worker.thrown engine before message) := by
      simp only [State.place, (Worker.framed effect).workers]
    have unstranded (strands : worker.strands before runId true) : False := kept ⟨worker, stands, strands⟩
    refine InHand.of_effect pursued stands effect workers member same unended ?_ ?_ ?_
    · intro execution pursues sameRun unwritten
      cases worker with
      | running point caller =>
        cases point with
        | acquiring => cases pursues; exact (unstranded sameRun).elim
        | starting => cases pursues; exact (unstranded sameRun).elim
        | succeeding => cases pursues; exact ⟨_, rfl, rfl⟩
        | markingConflict => cases pursues; exact absurd (by rw [← sameRun]; rfl) (unwritten _)
        | failing => cases pursues; exact absurd (by rw [← sameRun]; rfl) (unwritten _)
        | locked => cases awaits
        | handling => cases awaits
        | _ => cases pursues
      | _ => cases pursues
    · intro starts
      exact (unstranded ((@Worker.next_starting _ engine before worker runId starts).2 true)).elim
    · intro create creates isNew inserted
      subst isNew
      exact (unstranded (@Worker.next_creating _ engine before worker create _ creates inserted).2).elim
  · have workers : (before.place id (worker.thrown engine before message)).workers =
        Function.update before.workers id (worker.thrown engine before message) := rfl
    obtain ⟨other, otherWorker, execution, otherStands, pursues, sameRun⟩ := pursued row member same unended
    by_cases isSame : other = id
    · subst isSame
      rw [stands, Option.some.injEq] at otherStands
      subst otherStands
      obtain ⟨later, thrown, laterPursues⟩ | strands :=
        @Worker.thrown_pursues _ engine before worker other execution pursues awaits message committed vain row
          member (same.trans sameRun.symm) unended
      · exact InHand.moved (workers.trans (by rw [thrown])) laterPursues sameRun
      · rw [sameRun] at strands
        exact (kept ⟨worker, stands, strands⟩).elim
    · exact InHand.elsewhere workers otherStands pursues sameRun isSame

/-- A run that no step strands stays in hand until it has an outcome. -/
theorem pursued_step (accepted : schedulerStep engine before action = .ok after)
    (kept : ¬ Strands runId before action) (pursued : Pursued runId before) : Pursued runId after := by
  by_cases isThrow : Exists fun id => Exists fun message => Exists fun committed =>
      action = .throws id message committed
  · obtain ⟨id, message, committed, rfl⟩ := isThrow
    exact pursued_throws accepted kept pursued
  · intro row member same unended
    have still : row ∈ before.runs -> InHand runId before := fun inBefore => pursued row inBefore same unended
    cases schedulerStep_motion accepted with
    | called id worker free call =>
      obtain ⟨other, otherWorker, execution, stands, pursues, sameRun⟩ := still member
      refine InHand.elsewhere rfl stands pursues sameRun ?_
      rintro rfl
      rw [free] at stands
      cases stands
    | advanced id worker done isAdvance stands effect =>
      have workers : ((done.begun worker.starts).place id (worker.next engine before)).workers =
          Function.update before.workers id (worker.next engine before) := by
        simp only [State.place, State.begun, (Worker.framed effect).workers]
      have memberDone : row ∈ done.runs := member
      refine InHand.of_effect pursued stands effect workers memberDone same unended ?_ ?_ ?_
      · intro execution pursues sameRun unwritten
        subst sameRun
        exact Worker.next_pursues pursues unwritten effect
      · intro starts
        obtain ⟨later, execution, isNext, pursues, sameRun⟩ :=
          (@Worker.next_starting _ engine before worker runId starts).1
        exact InHand.moved (workers.trans (by rw [isNext])) pursues sameRun
      · intro create creates isNew inserted
        obtain ⟨later, execution, isNext, pursues, sameRun⟩ :=
          (@Worker.next_creating _ engine before worker create _ creates inserted).1
        exact InHand.moved (workers.trans (by rw [isNext])) pursues (sameRun.trans isNew)
    | thrown id worker message stands awaits how =>
      obtain ⟨isAdvance, failed⟩ | ⟨committed, throws⟩ := how
      · obtain ⟨other, otherWorker, execution, otherStands, pursues, sameRun⟩ := still member
        refine InHand.elsewhere rfl otherStands pursues sameRun ?_
        rintro rfl
        rw [stands, Option.some.injEq] at otherStands
        subst otherStands
        have done : (worker.effect engine other before).isSome = true :=
          Worker.pursues_effect pursues member (same.trans sameRun.symm)
        rw [failed] at done
        cases done
      · exact absurd ⟨id, message, committed, throws⟩ isThrow
    | lost id worker done message stands awaits effect throws => exact absurd ⟨id, message, true, throws⟩ isThrow
    | settled id execution lock startedAt handlerStart caller point moves unperformed stands settles =>
      obtain ⟨other, otherWorker, otherExecution, otherStands, pursues, sameRun⟩ := still member
      by_cases isSame : other = id
      · subst isSame
        rw [stands, Option.some.injEq] at otherStands
        subst otherStands
        cases pursues
        refine ⟨other, .running point caller, execution, Function.update_self .., ?_, sameRun⟩
        obtain ⟨summary, rfl⟩ | ⟨message, rfl⟩ := settles <;> rfl
      · exact InHand.elsewhere rfl otherStands pursues sameRun isSame
    | crashed id isCrash =>
      obtain ⟨other, otherWorker, execution, stands, pursues, sameRun⟩ := still member
      refine InHand.elsewhere rfl stands pursues sameRun ?_
      rintro rfl
      rw [isCrash] at kept
      exact kept ⟨otherWorker, stands, execution, pursues, sameRun⟩
    | passed moment isPass forward =>
      obtain ⟨other, otherWorker, execution, stands, rest⟩ := still member
      exact ⟨other, otherWorker, execution, stands, rest⟩

/-! ## Locks that are in a worker's hands -/

def Held (engine : Engine Locks) (token : Draw) (key : String) (state : State Locks) : Prop :=
  Exists fun id => Exists fun worker => Exists fun lock =>
    state.workers id = some worker ∧ worker.holds = some lock ∧ lock.owner = token ∧
      engine.lockKey lock.jobKey = key

/-- What is locked under a token was so from the start, or is in a worker's hands. -/
def Guarded (engine : Engine Locks) (locks : Locks) (token : Draw) (state : State Locks) : Prop :=
  forall key expiry, engine.locks.holder state.locks key = some (token, expiry) ->
    engine.locks.holder locks key = some (token, expiry) ∨ Held engine token key state

/-- The run that a worker is to start is there. -/
def Startable (state : State Locks) : Prop :=
  forall id worker execution, state.workers id = some worker -> worker.prepares = some execution ->
    Exists fun row => row ∈ state.runs ∧ row.id = execution.run.id

theorem Motion.row_kept (motion : Motion engine before action after) {row : ScheduledJobRun}
    (member : row ∈ before.runs) : Exists fun later => later ∈ after.runs ∧ later.id = row.id := by
  obtain same | ⟨id, worker, performs, stands, effect⟩ := motion.runs
  · exact ⟨row, by rw [same]; exact member, rfl⟩
  · obtain ⟨later, laterMember, terms, _⟩ := effect.forward member
    exact ⟨later, laterMember, id_of_terms terms⟩

theorem startable_step (accepted : schedulerStep engine before action = .ok after)
    (startable : Startable before) : Startable after := by
  have motion := schedulerStep_motion accepted
  intro id later execution stands prepares
  have forward {worker : Worker} (standsBefore : before.workers id = some worker)
      (preparesBefore : worker.prepares = some execution) :
      Exists fun row => row ∈ after.runs ∧ row.id = execution.run.id := by
    obtain ⟨row, member, same⟩ := startable id worker execution standsBefore preparesBefore
    obtain ⟨kept, keptMember, keptId⟩ := motion.row_kept member
    exact ⟨kept, keptMember, keptId.trans same⟩
  obtain ⟨standsBefore, _⟩ | ⟨_, placed⟩ := motion.workers stands
  · exact forward standsBefore prepares
  · obtain ⟨point, point', caller, standsBefore, rfl, isAdvance, follows, effect⟩ := placed.prepares prepares
    obtain ⟨preparesBefore, _⟩ | ⟨job, input, now, create, runs, rfl, isNew, done⟩ := follows.prepares prepares
    · exact forward standsBefore preparesBefore
    · have inserted := effect.created_insert done
      refine ⟨create.row before.draws, (Table.mem_insert inserted).mpr (.inr rfl), ?_⟩
      rw [isNew]

/-- A lock stays with its worker, is released, or is kept on purpose. -/
theorem Worker.next_holds (holds : worker.holds = some lock) :
    (Exists fun later => worker.next engine before = some later ∧ later.holds = some lock) ∨
      worker.keeps lock.owner ∨
      Exists fun rethrows => Exists fun caller => worker = .running (.releasing lock rethrows) caller := by
  cases worker with
  | running point caller =>
    cases point with
    | locked => cases holds; exact .inl ⟨_, rfl, rfl⟩
    | starting => cases holds; exact .inl ⟨_, rfl, rfl⟩
    | handling => cases holds; exact .inl ⟨_, rfl, rfl⟩
    | succeeding execution own startedAt completedAt summary =>
      cases holds
      simp only [Worker.next, RunPoint.next]
      split
      · exact .inl ⟨_, rfl, rfl⟩
      · exact .inl ⟨_, rfl, rfl⟩
    | reportingSuccess => cases holds; exact .inl ⟨_, rfl, rfl⟩
    | failing => cases holds; exact .inl ⟨_, rfl, rfl⟩
    | reportingFailure execution own retryable message =>
      cases holds
      cases releases : releasesLock message with
      | true =>
        simp only [Worker.next, RunPoint.next, finish, releases, if_true]
        exact .inl ⟨_, rfl, rfl⟩
      | false => exact .inr (.inl ⟨releases, rfl⟩)
    | releasing own rethrows => cases holds; exact .inr (.inr ⟨rethrows, caller, rfl⟩)
    | _ => cases holds
  | _ => cases holds

/-- An exception leaves the lock with its worker, or is one that loses it. -/
theorem Worker.thrown_holds (holds : worker.holds = some lock) (awaits : worker.awaits = true)
    (message : String) (committed : Bool) :
    (Exists fun later => worker.thrown engine before message = some later ∧ later.holds = some lock) ∨
      worker.loses before lock.owner committed ∨
      (committed = true ∧ Exists fun rethrows => Exists fun caller =>
        worker = .running (.releasing lock rethrows) caller) := by
  cases worker with
  | running point caller =>
    cases point with
    | locked => cases awaits
    | handling => cases awaits
    | starting => cases holds; exact .inr (.inl rfl)
    | succeeding => cases holds; exact .inl ⟨_, rfl, rfl⟩
    | reportingSuccess => cases holds; exact .inl ⟨_, rfl, rfl⟩
    | failing execution own startedAt completedAt original =>
      cases holds
      cases releases : releasesLock original with
      | true =>
        simp only [Worker.thrown, RunPoint.thrown, finish, releases, if_true]
        exact .inl ⟨_, rfl, rfl⟩
      | false => exact .inr (.inl ⟨releases, rfl⟩)
    | reportingFailure execution own retryable original =>
      cases holds
      cases releases : releasesLock original with
      | true =>
        simp only [Worker.thrown, RunPoint.thrown, finish, releases, if_true]
        exact .inl ⟨_, rfl, rfl⟩
      | false => exact .inr (.inl ⟨releases, rfl⟩)
    | releasing own rethrows =>
      cases holds
      cases committed with
      | false => exact .inr (.inl ⟨rfl, rfl⟩)
      | true => exact .inr (.inr ⟨rfl, rethrows, caller, rfl⟩)
    | _ => cases holds
  | _ => cases holds

/-- A statement of which the store throws leaves the lock with its worker. -/
theorem Worker.failed_holds {id : Nat} (holds : worker.holds = some lock)
    (failed : worker.effect engine id before = none)
    (present : forall execution, worker.prepares = some execution ->
      Exists fun row => row ∈ before.runs ∧ row.id = execution.run.id) (message : String) :
    (Exists fun later => worker.thrown engine before message = some later ∧ later.holds = some lock) ∨
      worker.keeps lock.owner := by
  cases worker with
  | running point caller =>
    cases point with
    | starting execution own startedAt =>
      obtain ⟨row, member, same⟩ := present execution rfl
      have done : ((Worker.running (.starting execution own startedAt) caller).effect engine id before).isSome =
          true := Worker.effect_isSome rfl member same
      rw [failed] at done
      cases done
    | succeeding => cases holds; exact .inl ⟨_, rfl, rfl⟩
    | failing execution own startedAt completedAt original =>
      cases holds
      cases releases : releasesLock original with
      | true =>
        simp only [Worker.thrown, RunPoint.thrown, finish, releases, if_true]
        exact .inl ⟨_, rfl, rfl⟩
      | false => exact .inr ⟨releases, rfl⟩
    | locked => cases failed
    | handling => cases failed
    | reportingSuccess => cases failed
    | reportingFailure => cases failed
    | releasing => cases failed
    | _ => cases holds
  | _ => cases holds

/-- A lock that is there after a statement was there before and is not the one
that the statement releases, or has just been acquired. -/
theorem LockEffect.holder {id : Nat} {expiry : Int} (lawful : engine.locks.Lawful)
    (effect : worker.effect engine id before = some after)
    (held : engine.locks.holder after.locks key = some (token, expiry)) :
    (engine.locks.holder before.locks key = some (token, expiry) ∧
      forall lock rethrows caller, worker = .running (.releasing lock rethrows) caller -> lock.owner = token ->
        engine.lockKey lock.jobKey ≠ key) ∨
    Exists fun execution => Exists fun caller => Exists fun locks =>
      worker = .running (.acquiring execution) caller ∧
        engine.locks.acquire before.now (engine.lockKey execution.job.key)
          (milliseconds execution.job.lockSeconds) before.draws before.locks = some locks ∧
        before.draws = token ∧ engine.lockKey execution.job.key = key := by
  by_cases releasing : Exists fun lock => Exists fun rethrows => Exists fun caller =>
      worker = .running (.releasing lock rethrows) caller
  · obtain ⟨lock, rethrows, caller, rfl⟩ := releasing
    cases effect
    simp only [lawful.holder_release] at held
    split at held
    · cases held
    · rename_i other
      refine .inl ⟨held, ?_⟩
      rintro _ _ _ ⟨⟩ owner same
      apply other
      rw [same, held, owner]
      exact ⟨rfl, rfl⟩
  · have unreleased : forall lock rethrows caller, worker = .running (.releasing lock rethrows) caller ->
        lock.owner = token -> engine.lockKey lock.jobKey ≠ key := by
      intro lock rethrows caller isReleasing
      exact absurd ⟨lock, rethrows, caller, isReleasing⟩ releasing
    cases Worker.lockEffect effect with
    | kept locks acquired =>
      rw [locks] at held
      exact .inl ⟨held, unreleased⟩
    | released lock rethrows caller stands => exact absurd ⟨lock, rethrows, caller, stands⟩ releasing
    | acquired execution caller stands done acquired =>
      rw [lawful.holder_acquire done] at held
      by_cases same : key = engine.lockKey execution.job.key
      · rw [same, Function.update_self, Option.some.injEq, Prod.mk.injEq] at held
        exact .inr ⟨execution, caller, _, stands, done, held.1, same.symm⟩
      · rw [Function.update_of_ne same] at held
        exact .inl ⟨held, unreleased⟩

theorem Held.elsewhere {moved id : Nat}
    (workers : after.workers = Function.update before.workers moved next)
    (stands : before.workers id = some worker) (holds : worker.holds = some lock)
    (isLock : lock.owner = token ∧ engine.lockKey lock.jobKey = key) (different : id ≠ moved) :
    Held engine token key after := by
  refine ⟨id, worker, lock, ?_, holds, isLock⟩
  rw [workers, Function.update_of_ne different]
  exact stands

theorem Held.moved {moved : Nat}
    (workers : after.workers = Function.update before.workers moved (some later))
    (holds : later.holds = some lock) (isLock : lock.owner = token ∧ engine.lockKey lock.jobKey = key) :
    Held engine token key after :=
  ⟨moved, later, lock, by rw [workers, Function.update_self], holds, isLock⟩

/-- Where the locks are as they were, and the worker that moves keeps its own. -/
theorem Guarded.of_holds {locks : Locks} {id : Nat} {expiry : Int}
    (guarded : Guarded engine locks token before)
    (held : engine.locks.holder before.locks key = some (token, expiry))
    (workers : after.workers = Function.update before.workers id next)
    (goesOn : forall worker lock, before.workers id = some worker -> worker.holds = some lock ->
      lock.owner = token -> engine.lockKey lock.jobKey = key ->
      Exists fun later => next = some later ∧ later.holds = some lock) :
    engine.locks.holder locks key = some (token, expiry) ∨ Held engine token key after := by
  obtain initial | ⟨other, worker, lock, stands, holds, isLock⟩ := guarded key expiry held
  · exact .inl initial
  · refine .inr ?_
    by_cases isSame : other = id
    · subst isSame
      obtain ⟨later, isNext, laterHolds⟩ := goesOn worker lock stands holds isLock.1 isLock.2
      exact Held.moved (workers.trans (by rw [isNext])) laterHolds isLock
    · exact Held.elsewhere workers stands holds isLock isSame

/-- A statement that throws loses a lock, or leaves it in hand. -/
theorem guarded_throws {locks : Locks} {id : Nat} {message : String} {committed : Bool}
    (lawful : engine.locks.Lawful)
    (accepted : schedulerStep engine before (.throws id message committed) = .ok after)
    (kept : ¬ Loses token before (.throws id message committed)) (guarded : Guarded engine locks token before) :
    Guarded engine locks token after := by
  intro key expiry held
  obtain ⟨worker, stands, awaits, ⟨rfl, done, effect, rfl⟩ | ⟨vain, rfl⟩⟩ := throws_cases accepted
  · have workers : (done.place id (worker.thrown engine before message)).workers =
        Function.update before.workers id (worker.thrown engine before message) := by
      simp only [State.place, (Worker.framed effect).workers]
    obtain ⟨heldBefore, unreleased⟩ | ⟨execution, caller, newLocks, rfl, done, isNew, same⟩ :=
      LockEffect.holder lawful effect held
    · refine guarded.of_holds heldBefore workers ?_
      intro other lock otherStands holds owner isKey
      rw [stands, Option.some.injEq] at otherStands
      subst otherStands
      obtain goesOn | loses | ⟨_, rethrows, caller, isReleasing⟩ :=
        @Worker.thrown_holds _ engine before worker lock holds awaits message true
      · exact goesOn
      · rw [owner] at loses
        exact (kept ⟨worker, stands, loses⟩).elim
      · exact (unreleased lock rethrows caller isReleasing owner isKey).elim
    · exact (kept ⟨_, stands, rfl, isNew⟩).elim
  · refine guarded.of_holds held rfl ?_
    intro other lock otherStands holds owner isKey
    rw [stands, Option.some.injEq] at otherStands
    subst otherStands
    obtain goesOn | loses | ⟨isCommitted, rethrows, caller, rfl⟩ :=
      @Worker.thrown_holds _ engine before worker lock holds awaits message committed
    · exact goesOn
    · rw [owner] at loses
      exact (kept ⟨worker, stands, loses⟩).elim
    · obtain uncommitted | failed := vain
      · rw [isCommitted] at uncommitted
        cases uncommitted
      · cases failed

/-- A lock that no step loses is released, or in a worker's hands. -/
theorem guarded_step {locks : Locks} (lawful : engine.locks.Lawful)
    (accepted : schedulerStep engine before action = .ok after) (startable : Startable before)
    (kept : ¬ Loses token before action) (guarded : Guarded engine locks token before) :
    Guarded engine locks token after := by
  by_cases isThrow : Exists fun id => Exists fun message => Exists fun committed =>
      action = .throws id message committed
  · obtain ⟨id, message, committed, rfl⟩ := isThrow
    exact guarded_throws lawful accepted kept guarded
  · intro key expiry held
    cases schedulerStep_motion accepted with
    | called id worker free call =>
      refine guarded.of_holds held rfl ?_
      intro other lock stands
      rw [free] at stands
      cases stands
    | advanced id worker done isAdvance stands effect =>
      subst isAdvance
      have workers : ((done.begun worker.starts).place id (worker.next engine before)).workers =
          Function.update before.workers id (worker.next engine before) := by
        simp only [State.place, State.begun, (Worker.framed effect).workers]
      obtain ⟨heldBefore, unreleased⟩ | ⟨execution, caller, newLocks, rfl, done, isNew, same⟩ :=
        LockEffect.holder lawful effect held
      · refine guarded.of_holds heldBefore workers ?_
        intro other lock otherStands holds owner isKey
        rw [stands, Option.some.injEq] at otherStands
        subst otherStands
        obtain goesOn | keeps | ⟨rethrows, caller, isReleasing⟩ :=
          @Worker.next_holds _ engine before worker lock holds
        · exact goesOn
        · rw [owner] at keeps
          exact (kept ⟨worker, stands, keeps⟩).elim
        · exact (unreleased lock rethrows caller isReleasing owner isKey).elim
      · have next : (Worker.running (.acquiring execution) caller).next engine before =
            some (.running (.locked execution ⟨execution.job.key, before.draws, before.now⟩) caller) := by
          simp only [Worker.next, RunPoint.next, done]
        exact .inr (Held.moved (workers.trans (by rw [next])) rfl ⟨isNew, same⟩)
    | thrown id worker message stands awaits how =>
      obtain ⟨rfl, failed⟩ | ⟨committed, throws⟩ := how
      · refine guarded.of_holds held rfl ?_
        intro other lock otherStands holds owner isKey
        rw [stands, Option.some.injEq] at otherStands
        subst otherStands
        have present : forall execution, worker.prepares = some execution ->
            Exists fun row => row ∈ before.runs ∧ row.id = execution.run.id := by
          intro execution prepares
          exact startable id worker execution stands prepares
        obtain goesOn | keeps := Worker.failed_holds holds failed present message
        · exact goesOn
        · rw [owner] at keeps
          exact (kept ⟨worker, stands, keeps⟩).elim
      · exact absurd ⟨id, message, committed, throws⟩ isThrow
    | lost id worker done message stands awaits effect throws => exact absurd ⟨id, message, true, throws⟩ isThrow
    | settled id execution lock startedAt handlerStart caller point moves unperformed stands settles =>
      refine guarded.of_holds held rfl ?_
      intro other own otherStands holds owner isKey
      rw [stands, Option.some.injEq] at otherStands
      subst otherStands
      cases holds
      obtain ⟨summary, rfl⟩ | ⟨message, rfl⟩ := settles
      · exact ⟨_, rfl, rfl⟩
      · exact ⟨_, rfl, rfl⟩
    | crashed id isCrash =>
      subst isCrash
      refine guarded.of_holds held rfl ?_
      intro other lock stands holds owner isKey
      exact (kept ⟨other, stands, lock, holds, owner⟩).elim
    | passed moment isPass forward =>
      obtain initial | ⟨other, worker, lock, rest⟩ := guarded key expiry held
      · exact .inl initial
      · exact .inr ⟨other, worker, lock, rest⟩

/-! ## Runs -/

/-- In every run of the scheduler, a run without an outcome is in the hands of
a worker, unless a step has stranded it; and a lock is in the hands of the
worker that has acquired it, unless it is released or a step has lost it. -/
theorem nothing_left_behind (engine : Engine Locks) (lawful : engine.locks.Lawful) (now : Time) (locks : Locks)
    (runId token : Draw) (actions : List SchedulerAction) :
    ((scheduler engine).Admits (fun state action => ¬ Strands runId state action) (State.opening now locks) actions ->
      Pursued runId ((scheduler engine).run (State.opening now locks) actions)) ∧
    ((scheduler engine).Admits (fun state action => ¬ Loses token state action) (State.opening now locks) actions ->
      Guarded engine locks token ((scheduler engine).run (State.opening now locks) actions)) := by
  refine ⟨?_, ?_⟩
  · intro admitted
    apply Machine.run_invariant_of_admits _ _ admitted
    · intro state action next pursued kept accepted
      exact pursued_step accepted kept pursued
    · intro row member
      exact absurd member (Table.not_mem_empty row)
  · intro admitted
    have keeps : forall state action next, Startable state ∧ Guarded engine locks token state ->
        ¬ Loses token state action -> (scheduler engine).step state action = .ok next ->
        Startable next ∧ Guarded engine locks token next := by
      intro state action next holds kept accepted
      exact ⟨startable_step accepted holds.1, guarded_step lawful accepted holds.1 kept holds.2⟩
    have opening : Startable (State.opening now locks) ∧ Guarded engine locks token (State.opening now locks) := by
      refine ⟨?_, ?_⟩
      · intro id worker execution stands
        cases stands
      · intro key expiry held
        exact .inl held
    exact (Machine.run_invariant_of_admits keeps opening admitted).2

private def existsInside {Value : Type} {condition : Value -> Prop} [DecidablePred condition] :
    (inside : Option Value) -> Decidable (Exists fun value => value ∈ inside ∧ condition value)
  | none => isFalse (by rintro ⟨value, isInside, _⟩; cases isInside)
  | some value => decidable_of_iff (condition value) (by simp)

instance (state : State Locks) (committed : Bool) : DecidablePred (Worker.strands state runId committed) := by
  intro worker
  unfold Worker.strands
  split <;> infer_instance

instance (state : State Locks) (committed : Bool) : DecidablePred (Worker.loses state token committed) := by
  intro worker
  unfold Worker.loses
  split <;> infer_instance

instance : DecidablePred (Worker.keeps token) := by
  intro worker
  unfold Worker.keeps
  split <;> infer_instance

instance (state : State Locks) (action : SchedulerAction) : Decidable (Strands runId state action) :=
  match action with
  | .throws id _ _ => existsInside (state.workers id)
  | .crash id =>
    @existsInside Worker (fun worker => Exists fun execution => execution ∈ worker.pursues ∧ execution.run.id = runId)
      (fun worker => existsInside worker.pursues) (state.workers id)
  | .runJob .. | .runDueJobs .. | .recoverAbandonedRuns _ | .setJobEnabled .. | .acknowledgeFailure ..
  | .retryFailure .. | .advance _ | .handlerReturns .. | .handlerThrows .. | .timeout _ | .pass _ =>
    isFalse id

instance (state : State Locks) (action : SchedulerAction) : Decidable (Loses token state action) :=
  match action with
  | .advance id => existsInside (state.workers id)
  | .throws id _ _ => existsInside (state.workers id)
  | .crash id =>
    @existsInside Worker (fun worker => Exists fun lock => lock ∈ worker.holds ∧ lock.owner = token)
      (fun worker => existsInside worker.holds) (state.workers id)
  | .runJob .. | .runDueJobs .. | .recoverAbandonedRuns _ | .setJobEnabled .. | .acknowledgeFailure ..
  | .retryFailure .. | .handlerReturns .. | .handlerThrows .. | .timeout _ | .pass _ => isFalse id

/-- The handler returns, its success cannot be recorded, and the failure that is
recorded instead cannot be reported. -/
def caughtTick : List SchedulerAction :=
  handledTick ++ [.handlerReturns 0 [], .throws 0 "connection lost" false, .advance 0,
    .throws 0 "connection lost" true, .advance 0]

theorem nothing_left_by_caughtTick :
    (Exists fun row => row ∈ (paymentOperationsRun caughtTick).runs.rows ∧ row.id = 14 ∧ row.status = .retrying) ∧
      (paymentOperationsRun caughtTick).workers 0 = none ∧ (16, 0) ∈ (paymentOperationsRun caughtTick).acquired ∧
      Pursued 14 (paymentOperationsRun caughtTick) ∧
      Guarded (memoryEngine paymentOperationsRegistry) (fun _ => none) 16 (paymentOperationsRun caughtTick) := by
  have clean := nothing_left_behind (memoryEngine paymentOperationsRegistry) LeaseStore.ofMap_lawful 1000000000
    (fun _ => none) 14 16 caughtTick
  exact ⟨by decide +kernel, by decide +kernel, by decide +kernel, clean.1 (by decide +kernel),
    clean.2 (by decide +kernel)⟩

/-- The mark that the run is running cannot be written.  The next tick of the
window finds the run and returns. -/
def failedStart : List SchedulerAction :=
  (.runDueJobs 0 .cron :: List.replicate 9 (.advance 0)) ++ [.throws 0 "connection lost" false] ++
    (.runDueJobs 1 .cron :: List.replicate 8 (.advance 1))

/-- Both ticks have returned; the run is queued, no handler was ever called, and
the lock is held. -/
theorem left_behind_by_failedStart :
    (paymentOperationsRun failedStart).workers 0 = none ∧ (paymentOperationsRun failedStart).workers 1 = none ∧
      (paymentOperationsRun failedStart).runs.rows.map (fun row => (row.id, row.status)) = [(14, .queued)] ∧
      (paymentOperationsRun failedStart).started = [] ∧
      (paymentOperationsRun failedStart).acquired = [(16, 0)] ∧
      (paymentOperationsRun failedStart).locks "bke:scheduler:lock:payments.operations" =
        some (16, 1000360000) := by
  decide +kernel

end Scheduler
end DigitalSolutions

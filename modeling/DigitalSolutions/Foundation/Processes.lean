import DigitalSolutions.Foundation.Machine

namespace DigitalSolutions
namespace Foundation

/-!
# Processes on a shared store

Processes work on one store by single accesses: what a process does between
two of them is no step of its own, and anything may happen to the store
meanwhile.  A process stands at a point of its program, which holds what it
has read so far.  It may be stopped at any point, and never goes on.

An outline gives the store an invariant and every point an assertion.  It is
sound when a process that advances establishes the assertion of its next
point, and what others do spares the assertions of the points that they do
not move.
-/

/-- What processes do: where a call enters, and what one access does at a
point.  Ambient events change the store without a process. -/
structure Protocol (Store Call Point Input Ambient Refusal : Type) where
  enter : Call -> Point
  advance : Store -> Point -> Input -> Except Refusal (Store × Option Point)
  ambient : Store -> Ambient -> Except Refusal Store

structure Crowd (Store Point : Type) where
  store : Store
  processes : Nat -> Option Point

inductive CrowdMove (Call Input Ambient : Type)
  | start (process : Nat) (call : Call)
  | advance (process : Nat) (input : Input)
  | stop (process : Nat)
  | ambient (event : Ambient)

inductive CrowdRefusal (Refusal : Type)
  | busy | idle
  | refused (reason : Refusal)
  deriving DecidableEq

namespace Crowd

variable {Store Call Point Input Ambient Refusal : Type}
variable {move : CrowdMove Call Input Ambient} {process : Nat}

/-- A store that no process works on. -/
def opening (store : Store) : Crowd Store Point := ⟨store, fun _ => none⟩

def place (crowd : Crowd Store Point) (store : Store) (process : Nat) (point : Option Point) :
    Crowd Store Point :=
  ⟨store, Function.update crowd.processes process point⟩

end Crowd

namespace Protocol

variable {Store Call Point Input Ambient Refusal : Type}
variable (protocol : Protocol Store Call Point Input Ambient Refusal)

def step (crowd : Crowd Store Point) :
    CrowdMove Call Input Ambient -> Except (CrowdRefusal Refusal) (Crowd Store Point)
  | .start process call =>
    match crowd.processes process with
    | none => .ok (crowd.place crowd.store process (some (protocol.enter call)))
    | some _ => .error .busy
  | .advance process input =>
    match crowd.processes process with
    | none => .error .idle
    | some point =>
      match protocol.advance crowd.store point input with
      | .ok (store, next) => .ok (crowd.place store process next)
      | .error reason => .error (.refused reason)
  | .stop process =>
    match crowd.processes process with
    | none => .error .idle
    | some _ => .ok (crowd.place crowd.store process none)
  | .ambient event =>
    match protocol.ambient crowd.store event with
    | .ok store => .ok { crowd with store }
    | .error reason => .error (.refused reason)

def machine :
    Machine (Crowd Store Point) (CrowdMove Call Input Ambient) (CrowdRefusal Refusal) where
  step := protocol.step

variable {protocol}
variable {crowd next : Crowd Store Point}

/-! ## What one move does -/

theorem step_start {call : Call} (accepted : protocol.machine.step crowd (.start process call) = .ok next) :
    crowd.processes process = none ∧
      next = crowd.place crowd.store process (some (protocol.enter call)) := by
  simp only [machine, step] at accepted
  split at accepted
  · rename_i idle
    cases accepted
    exact ⟨idle, rfl⟩
  · cases accepted

theorem step_advance {input : Input}
    (accepted : protocol.machine.step crowd (.advance process input) = .ok next) :
    Exists fun point => Exists fun store => Exists fun later =>
      crowd.processes process = some point ∧
      protocol.advance crowd.store point input = .ok (store, later) ∧
      next = crowd.place store process later := by
  simp only [machine, step] at accepted
  split at accepted
  · cases accepted
  · rename_i point here
    split at accepted
    · rename_i store later advanced
      cases accepted
      exact ⟨point, store, later, here, advanced, rfl⟩
    · cases accepted

theorem step_stop (accepted : protocol.machine.step crowd (.stop process) = .ok next) :
    next = crowd.place crowd.store process none := by
  simp only [machine, step] at accepted
  split at accepted
  · cases accepted
  · cases accepted
    rfl

theorem step_ambient {event : Ambient}
    (accepted : protocol.machine.step crowd (.ambient event) = .ok next) :
    protocol.ambient crowd.store event = .ok next.store ∧ next.processes = crowd.processes := by
  simp only [machine, step] at accepted
  split at accepted
  · rename_i store changed
    cases accepted
    exact ⟨changed, rfl⟩
  · cases accepted

/-- What a move does to the store: nothing, one access, or what happens without
a process. -/
theorem step_store (accepted : protocol.machine.step crowd move = .ok next) :
    next.store = crowd.store ∨
      (Exists fun process => Exists fun input => Exists fun point => Exists fun later =>
        move = .advance process input ∧ crowd.processes process = some point ∧
        protocol.advance crowd.store point input = .ok (next.store, later)) ∨
      Exists fun event => move = .ambient event ∧ protocol.ambient crowd.store event = .ok next.store := by
  cases move with
  | start process call =>
    rcases step_start accepted with ⟨_, rfl⟩
    exact Or.inl rfl
  | advance process input =>
    rcases step_advance accepted with ⟨point, store, later, here, advanced, rfl⟩
    exact Or.inr (Or.inl ⟨process, input, point, later, rfl, here, advanced⟩)
  | stop process =>
    rw [step_stop accepted]
    exact Or.inl rfl
  | ambient event => exact Or.inr (Or.inr ⟨event, rfl, (step_ambient accepted).1⟩)

/-- A process stays where it is while it neither advances nor is stopped. -/
theorem attempt_elsewhere {point : Point} (here : crowd.processes process = some point)
    (notAdvanced : forall input, move ≠ .advance process input) (notStopped : move ≠ .stop process) :
    (protocol.machine.attempt crowd move).processes process = some point := by
  have elsewhere : forall other store next, other ≠ process ->
      (crowd.place store other next).processes process = some point := by
    intro other store next different
    exact (Function.update_of_ne different.symm next crowd.processes).trans here
  refine Machine.attempt_elim (motive := fun next : Crowd Store Point => next.processes process = some point)
    here ?_
  intro next accepted
  cases move with
  | start other call =>
    rcases step_start accepted with ⟨idle, rfl⟩
    apply elsewhere
    rintro rfl
    rw [idle] at here
    cases here
  | advance other input =>
    rcases step_advance accepted with ⟨_, store, later, _, _, rfl⟩
    apply elsewhere
    rintro rfl
    exact notAdvanced input rfl
  | stop other =>
    rw [step_stop accepted]
    apply elsewhere
    rintro rfl
    exact notStopped rfl
  | ambient event =>
    rw [(step_ambient accepted).2]
    exact here

/-- Accesses that throw change nothing and end the process; the others take the
step. -/
def Throwing (protocol : Protocol Store Call Point Input Ambient Refusal) (throws : Input -> Bool)
    (access : Store -> Input -> Point -> Store × Option Point) : Prop :=
  forall store point input, protocol.advance store point input =
    .ok (if throws input then (store, none) else access store input point)

theorem Throwing.store {throws : Input -> Bool} {access : Store -> Input -> Point -> Store × Option Point}
    (throwing : Throwing protocol throws access) (accepted : protocol.machine.step crowd move = .ok next) :
    next.store = crowd.store ∨
      (Exists fun process => Exists fun input => Exists fun point => move = .advance process input ∧
        crowd.processes process = some point ∧ throws input = false ∧
        next.store = (access crowd.store input point).1) ∨
      Exists fun event => move = .ambient event ∧ protocol.ambient crowd.store event = .ok next.store := by
  rcases step_store accepted with same | ⟨process, input, point, later, isAdvance, here, advanced⟩ | ambient
  · exact Or.inl same
  · rw [throwing] at advanced
    cases thrown : throws input with
    | true =>
      simp only [thrown, if_true, Except.ok.injEq, Prod.mk.injEq] at advanced
      exact Or.inl advanced.1.symm
    | false =>
      simp only [thrown, Bool.false_eq_true, if_false, Except.ok.injEq] at advanced
      refine Or.inr (Or.inl ⟨process, input, point, isAdvance, here, thrown, ?_⟩)
      rw [advanced]
  · exact Or.inr (Or.inr ambient)

/-! ## One process on its own -/

/-- The process can go from the point to the end of its program, with no other
process in between. -/
inductive Finishes (protocol : Protocol Store Call Point Input Ambient Refusal) :
    Store -> Point -> Store -> Prop
  | last {store after : Store} {point : Point} (input : Input)
      (advanced : protocol.advance store point input = .ok (after, none)) : Finishes protocol store point after
  | next {store middle after : Store} {point later : Point} (input : Input)
      (advanced : protocol.advance store point input = .ok (middle, some later))
      (rest : Finishes protocol middle later after) : Finishes protocol store point after

theorem attempt_advance {point : Point} {input : Input} {store : Store} {later : Option Point}
    (here : crowd.processes process = some point)
    (advanced : protocol.advance crowd.store point input = .ok (store, later)) :
    protocol.machine.attempt crowd (.advance process input) = crowd.place store process later := by
  apply Machine.attempt_ok
  simp only [machine, step, here, advanced]

theorem Finishes.run {store after : Store} {point : Point}
    (finishes : Finishes protocol store point after) (isStore : crowd.store = store)
    (here : crowd.processes process = some point) :
    Exists fun inputs : List Input =>
      (protocol.machine.run crowd (inputs.map (.advance process))).store = after := by
  induction finishes generalizing crowd with
  | last input advanced =>
    subst isStore
    refine ⟨[input], ?_⟩
    rw [List.map_singleton, Machine.run_cons, attempt_advance here advanced]
    rfl
  | @next store middle after point later input advanced rest inductionHypothesis =>
    subst isStore
    have stands : (crowd.place middle process (some later)).processes process = some later :=
      Function.update_self ..
    rcases inductionHypothesis rfl stands with ⟨inputs, reached⟩
    refine ⟨input :: inputs, ?_⟩
    rw [List.map_cons, Machine.run_cons, attempt_advance here advanced]
    exact reached

/-- A process that is idle starts a call and goes to the end of it. -/
theorem Finishes.start {call : Call} {after : Store}
    (finishes : Finishes protocol crowd.store (protocol.enter call) after)
    (idle : crowd.processes process = none) : Exists fun inputs : List Input =>
      (protocol.machine.run crowd (.start process call :: inputs.map (.advance process))).store = after := by
  have started : protocol.machine.attempt crowd (.start process call) =
      crowd.place crowd.store process (some (protocol.enter call)) := by
    apply Machine.attempt_ok
    simp only [machine, step, idle]
  have stands : (crowd.place crowd.store process (some (protocol.enter call))).processes process =
      some (protocol.enter call) :=
    Function.update_self ..
  have isStore : (crowd.place crowd.store process (some (protocol.enter call))).store = crowd.store := rfl
  rcases finishes.run isStore stands with ⟨inputs, reached⟩
  refine ⟨inputs, ?_⟩
  rw [Machine.run_cons, started]
  exact reached

/-! ## Outlines -/

/-- The invariant holds of the store, and each process stands where its
assertion holds. -/
structure Holds (invariant : Store -> Prop) (assertion : Store -> Nat -> Point -> Prop)
    (crowd : Crowd Store Point) : Prop where
  store : invariant crowd.store
  points : forall process point, crowd.processes process = some point ->
    assertion crowd.store process point

/-- An outline whose assertions no allowed move interferes with. -/
structure Outlined (protocol : Protocol Store Call Point Input Ambient Refusal)
    (allowed : Crowd Store Point -> CrowdMove Call Input Ambient -> Prop)
    (invariant : Store -> Prop) (assertion : Store -> Nat -> Point -> Prop) : Prop where
  enters : forall crowd process call, Holds invariant assertion crowd ->
    allowed crowd (.start process call) -> assertion crowd.store process (protocol.enter call)
  advances : forall crowd process point input after later, Holds invariant assertion crowd ->
    allowed crowd (.advance process input) -> crowd.processes process = some point ->
    protocol.advance crowd.store point input = .ok (after, later) ->
    invariant after ∧ forall next, later = some next -> assertion after process next
  spares : forall crowd process point input after later, Holds invariant assertion crowd ->
    allowed crowd (.advance process input) -> crowd.processes process = some point ->
    protocol.advance crowd.store point input = .ok (after, later) ->
    forall other bystander, other ≠ process -> crowd.processes other = some bystander ->
      assertion after other bystander
  ambient : forall crowd event after, Holds invariant assertion crowd ->
    allowed crowd (.ambient event) -> protocol.ambient crowd.store event = .ok after ->
    invariant after ∧ forall other bystander, crowd.processes other = some bystander ->
      assertion after other bystander

namespace Outlined

variable {allowed : Crowd Store Point -> CrowdMove Call Input Ambient -> Prop}
variable {invariant : Store -> Prop} {assertion : Store -> Nat -> Point -> Prop}

theorem step (outlined : Outlined protocol allowed invariant assertion)
    (holds : Holds invariant assertion crowd) (allows : allowed crowd move)
    (accepted : protocol.machine.step crowd move = .ok next) :
    Holds invariant assertion next := by
  cases move with
  | start process call =>
    rcases step_start accepted with ⟨_, rfl⟩
    refine ⟨holds.store, ?_⟩
    intro other point stands
    rcases eq_some_of_update rfl stands with ⟨rfl, isPoint⟩ | ⟨_, before⟩
    · cases isPoint
      exact outlined.enters crowd _ call holds allows
    · exact holds.points other point before
  | advance process input =>
    rcases step_advance accepted with ⟨point, store, later, here, advanced, rfl⟩
    have moved := outlined.advances crowd process point input store later holds allows here advanced
    refine ⟨moved.1, ?_⟩
    intro other bystander stands
    rcases eq_some_of_update rfl stands with ⟨rfl, isPoint⟩ | ⟨different, before⟩
    · exact moved.2 bystander isPoint
    · exact outlined.spares crowd process point input store later holds allows here advanced other
        bystander different before
  | stop process =>
    rw [step_stop accepted]
    refine ⟨holds.store, ?_⟩
    intro other point stands
    rcases eq_some_of_update rfl stands with ⟨_, isPoint⟩ | ⟨_, before⟩
    · cases isPoint
    · exact holds.points other point before
  | ambient event =>
    rcases step_ambient accepted with ⟨changed, same⟩
    have kept := outlined.ambient crowd event next.store holds allows changed
    exact ⟨kept.1, fun other point stands => kept.2 other point (same ▸ stands)⟩

/-- What an outline says holds throughout every run of allowed moves. -/
theorem run (outlined : Outlined protocol allowed invariant assertion)
    (initially : Holds invariant assertion crowd) {moves : List (CrowdMove Call Input Ambient)}
    (admitted : protocol.machine.Admits allowed crowd moves) :
    Holds invariant assertion (protocol.machine.run crowd moves) :=
  Machine.run_invariant_of_admits
    (fun _ _ _ holds allows accepted => outlined.step holds allows accepted) initially admitted

end Outlined

theorem holds_opening {invariant : Store -> Prop} {assertion : Store -> Nat -> Point -> Prop}
    {store : Store} (initially : invariant store) : Holds invariant assertion (Crowd.opening store) := by
  refine ⟨initially, ?_⟩
  intro process point stands
  cases stands

/-! ## Finitely many processes -/

/-- Every process of the crowd is below the bound. -/
def Below (bound : Nat) (crowd : Crowd Store Point) : Prop :=
  forall process point, crowd.processes process = some point -> process < bound

/-- The move starts no process from the bound on. -/
def startsBelow (bound : Nat) : CrowdMove Call Input Ambient -> Bool
  | .start process _ => process < bound
  | _ => true

theorem below_opening (bound : Nat) (store : Store) :
    Below bound (Crowd.opening store : Crowd Store Point) := by
  intro process point stands
  cases stands

theorem below_step {bound : Nat} (below : Below bound crowd) (starts : startsBelow bound move = true)
    (accepted : protocol.machine.step crowd move = .ok next) : Below bound next := by
  intro other bystander stands
  cases move with
  | start process call =>
    rcases step_start accepted with ⟨_, rfl⟩
    rcases eq_some_of_update rfl stands with ⟨rfl, _⟩ | ⟨_, before⟩
    · exact of_decide_eq_true starts
    · exact below other bystander before
  | advance process input =>
    rcases step_advance accepted with ⟨point, store, later, here, _, rfl⟩
    rcases eq_some_of_update rfl stands with ⟨rfl, _⟩ | ⟨_, before⟩
    · exact below _ point here
    · exact below other bystander before
  | stop process =>
    rw [step_stop accepted] at stands
    rcases eq_some_of_update rfl stands with ⟨_, isPoint⟩ | ⟨_, before⟩
    · cases isPoint
    · exact below other bystander before
  | ambient event => exact below other bystander ((step_ambient accepted).2 ▸ stands)

/-- With all its processes below a bound, a schedule is checked on these
alone. -/
theorem admits_below {bound : Nat} {allowed : Crowd Store Point -> CrowdMove Call Input Ambient -> Prop}
    {moves : List (CrowdMove Call Input Ambient)} (starts : moves.all (startsBelow bound) = true)
    (below : Below bound crowd) (admitted : protocol.machine.Admits allowed crowd moves) :
    protocol.machine.Admits (fun crowd move => Below bound crowd ∧ allowed crowd move) crowd moves := by
  induction moves generalizing crowd with
  | nil => trivial
  | cons move rest inductionHypothesis =>
    rw [List.all_cons, Bool.and_eq_true] at starts
    refine ⟨⟨below, admitted.1⟩, inductionHypothesis starts.2 ?_ admitted.2⟩
    exact Machine.attempt_elim below fun next accepted => below_step below starts.1 accepted

end Protocol
end Foundation
end DigitalSolutions

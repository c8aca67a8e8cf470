import Mathlib

namespace DigitalSolutions
namespace Foundation

/-!
# Machines whose steps may be refused

A machine takes one action at a time.  An action is either accepted, and
then moves the machine to one next state, or refused, and then leaves the
state as it was: this is a transaction that commits or rolls back.  Whatever
the environment chooses (who acts next, the clock, fresh identifiers) is part
of the action, so a schedule is a list of actions and "every interleaving"
is "every list".

The rules below are the only places where a schedule is taken by induction.
A result about a system supplies what one accepted step does.
-/

/-- A system given by what each action does to a state. -/
structure Machine (State Action Refusal : Type) where
  step : State -> Action -> Except Refusal State

namespace Machine

variable {State Action Refusal : Type} (machine : Machine State Action Refusal)
variable {allowed : State -> Action -> Prop} {state : State} {actions : List Action}
variable {marked : State -> Action -> Bool}

/-- The state after an attempted action; a refused action changes nothing. -/
def attempt (state : State) (action : Action) : State :=
  match machine.step state action with
  | .ok next => next
  | .error _ => state

/-- The state after a schedule of attempted actions. -/
def run : State -> List Action -> State
  | state, [] => state
  | state, action :: rest => run (machine.attempt state action) rest

@[simp] theorem run_nil (state : State) : machine.run state [] = state := rfl

@[simp] theorem run_cons (state : State) (action : Action) (rest : List Action) :
    machine.run state (action :: rest) = machine.run (machine.attempt state action) rest := rfl

theorem run_append (state : State) (first second : List Action) :
    machine.run state (first ++ second) = machine.run (machine.run state first) second := by
  induction first generalizing state with
  | nil => rfl
  | cons action rest inductionHypothesis => exact inductionHypothesis _

theorem run_concat (state : State) (actions : List Action) (action : Action) :
    machine.run state (actions ++ [action]) = machine.attempt (machine.run state actions) action :=
  machine.run_append state actions [action]

variable {machine}

theorem attempt_ok {next : State} {action : Action} (accepted : machine.step state action = .ok next) :
    machine.attempt state action = next := by
  simp only [attempt, accepted]

/-- A fact about the state that holds before an attempt and after every
accepted step holds after the attempt. -/
theorem attempt_elim {motive : State -> Prop} {action : Action} (refused : motive state)
    (accepted : forall next, machine.step state action = .ok next -> motive next) :
    motive (machine.attempt state action) := by
  unfold attempt
  split
  · rename_i next outcome
    exact accepted next outcome
  · exact refused

/-! ## Invariants of a schedule -/

theorem run_invariant {invariant : State -> Prop}
    (preserved : forall state action next, invariant state ->
      machine.step state action = .ok next -> invariant next) (initially : invariant state)
    (actions : List Action) :
    invariant (machine.run state actions) := by
  induction actions generalizing state with
  | nil => exact initially
  | cons action rest inductionHypothesis =>
    exact inductionHypothesis (attempt_elim initially (preserved state action · initially))

/-- What does not hold at first and holds in the end was established by one
attempt of the schedule. -/
theorem established {property : State -> Prop} {state : State} {actions : List Action}
    (initially : ¬ property state) (finally' : property (machine.run state actions)) :
    Exists fun before => Exists fun action => Exists fun after =>
      actions = before ++ action :: after ∧ ¬ property (machine.run state before) ∧
        property (machine.attempt (machine.run state before) action) := by
  induction actions generalizing state with
  | nil => exact absurd finally' initially
  | cons action rest inductionHypothesis =>
    by_cases now : property (machine.attempt state action)
    · exact ⟨[], action, rest, rfl, initially, now⟩
    · rcases inductionHypothesis now finally' with ⟨before, later, after, split, unheld, held⟩
      exact ⟨action :: before, later, after, congrArg (List.cons action) split, unheld, held⟩

variable (machine) in
/-- Every action of the schedule is allowed in the state it is attempted in. -/
def Admits (allowed : State -> Action -> Prop) : State -> List Action -> Prop
  | _, [] => True
  | state, action :: rest => allowed state action ∧ Admits allowed (machine.attempt state action) rest

instance decidableAdmits (allowed : State -> Action -> Prop)
    [forall state action, Decidable (allowed state action)] (state : State) :
    (actions : List Action) -> Decidable (machine.Admits allowed state actions)
  | [] => isTrue trivial
  | action :: rest =>
    @instDecidableAnd _ _ _ (decidableAdmits allowed (machine.attempt state action) rest)

theorem admits_iff :
    machine.Admits allowed state actions ↔
      forall past action rest, actions = past ++ action :: rest -> allowed (machine.run state past) action := by
  induction actions generalizing state with
  | nil =>
    refine iff_of_true trivial ?_
    intro past action rest nothing
    cases List.append_eq_nil_iff.mp nothing.symm with
    | intro _ isEmpty => cases isEmpty
  | cons first later inductionHypothesis =>
    rw [Admits, inductionHypothesis]
    constructor
    · rintro ⟨here, behind⟩ past action rest split
      cases past with
      | nil =>
        cases split
        exact here
      | cons head tail =>
        cases split
        exact behind tail action rest rfl
    · intro every
      refine ⟨every [] first later rfl, ?_⟩
      rintro past action rest rfl
      exact every (first :: past) action rest rfl

theorem run_invariant_of_admits {invariant : State -> Prop}
    (preserved : forall state action next, invariant state -> allowed state action ->
      machine.step state action = .ok next -> invariant next) (initially : invariant state)
    (admitted : machine.Admits allowed state actions) :
    invariant (machine.run state actions) := by
  induction actions generalizing state with
  | nil => exact initially
  | cons action rest inductionHypothesis =>
    exact inductionHypothesis
      (attempt_elim initially (preserved state action · initially admitted.1)) admitted.2

/-- A schedule that meets a condition meets every weaker one. -/
theorem Admits.mono {strict : State -> Action -> Prop}
    (weaker : forall state action, strict state action -> allowed state action)
    (admitted : machine.Admits strict state actions) :
    machine.Admits allowed state actions := by
  induction actions generalizing state with
  | nil => trivial
  | cons action rest inductionHypothesis =>
    exact ⟨weaker state action admitted.1, inductionHypothesis admitted.2⟩

/-- A condition that every action meets, every schedule meets. -/
theorem admits_all (all : forall state action, allowed state action) (state : State)
    (actions : List Action) : machine.Admits allowed state actions := by
  induction actions generalizing state with
  | nil => trivial
  | cons action rest inductionHypothesis => exact ⟨all state action, inductionHypothesis _⟩

theorem Admits.append {first second : List Action} (before : machine.Admits allowed state first)
    (after : machine.Admits allowed (machine.run state first) second) :
    machine.Admits allowed state (first ++ second) := by
  induction first generalizing state with
  | nil => exact after
  | cons action rest inductionHypothesis => exact ⟨before.1, inductionHypothesis before.2 after⟩

theorem Admits.left {first second : List Action}
    (admitted : machine.Admits allowed state (first ++ second)) :
    machine.Admits allowed state first := by
  induction first generalizing state with
  | nil => trivial
  | cons action rest inductionHypothesis => exact ⟨admitted.1, inductionHypothesis admitted.2⟩

theorem Admits.right {first second : List Action}
    (admitted : machine.Admits allowed state (first ++ second)) :
    machine.Admits allowed (machine.run state first) second := by
  induction first generalizing state with
  | nil => exact admitted
  | cons action rest inductionHypothesis => exact inductionHypothesis admitted.2

/-! ## Counting effects -/

variable (machine) in
/-- How many attempts of the schedule are marked in the state they meet. -/
def occurrences (marked : State -> Action -> Bool) : State -> List Action -> Nat
  | _, [] => 0
  | state, action :: rest =>
    (if marked state action then 1 else 0) + occurrences marked (machine.attempt state action) rest

theorem occurrences_eq_zero {closed : State -> Prop}
    (unmarked : forall state action, closed state -> allowed state action ->
      marked state action = false)
    (preserved : forall state action next, closed state -> allowed state action ->
      machine.step state action = .ok next -> closed next) (initially : closed state)
    (admitted : machine.Admits allowed state actions) :
    machine.occurrences marked state actions = 0 := by
  induction actions generalizing state with
  | nil => rfl
  | cons action rest inductionHypothesis =>
    have later := inductionHypothesis
      (attempt_elim initially (preserved state action · initially admitted.1)) admitted.2
    simp only [occurrences, unmarked state action initially admitted.1, later,
      Bool.false_eq_true, if_false]

/-- A marked attempt that closes a door it cannot pass again happens at most
once.  The invariant is what the schedule keeps while the door is open. -/
theorem occurrences_le_one {invariant closed : State -> Prop}
    (preserved : forall state action next, invariant state -> allowed state action ->
      machine.step state action = .ok next -> invariant next)
    (closes : forall state action, invariant state -> allowed state action ->
      marked state action = true -> closed (machine.attempt state action))
    (unmarked : forall state action, invariant state -> closed state -> allowed state action ->
      marked state action = false)
    (stays : forall state action next, invariant state -> closed state -> allowed state action ->
      machine.step state action = .ok next -> closed next) (initially : invariant state)
    (admitted : machine.Admits allowed state actions) :
    machine.occurrences marked state actions ≤ 1 := by
  induction actions generalizing state with
  | nil => exact Nat.zero_le 1
  | cons action rest inductionHypothesis =>
    have kept : invariant (machine.attempt state action) :=
      attempt_elim initially (preserved state action · initially admitted.1)
    by_cases mark : marked state action = true
    · have shut := closes state action initially admitted.1 mark
      have unmarkedBoth : forall state action, invariant state ∧ closed state ->
          allowed state action -> marked state action = false :=
        fun state action both allows => unmarked state action both.1 both.2 allows
      have staysBoth : forall state action next, invariant state ∧ closed state ->
          allowed state action -> machine.step state action = .ok next ->
          invariant next ∧ closed next :=
        fun state action next both allows outcome =>
          ⟨preserved state action next both.1 allows outcome,
            stays state action next both.1 both.2 allows outcome⟩
      have later := occurrences_eq_zero unmarkedBoth staysBoth ⟨kept, shut⟩ admitted.2
      simp only [occurrences, mark, if_true, later, Nat.le_refl]
    · simp only [occurrences, mark, Bool.false_eq_true, if_false, Nat.zero_add]
      exact inductionHypothesis kept admitted.2

/-- Marked attempts are at most what a measure has grown by that each of them
increases and no attempt decreases. -/
theorem occurrences_le_growth {invariant : State -> Prop} {measure : State -> Nat}
    (preserved : forall state action next, invariant state -> allowed state action ->
      machine.step state action = .ok next -> invariant next)
    (grows : forall state action, invariant state -> allowed state action ->
      measure state + (if marked state action then 1 else 0) ≤ measure (machine.attempt state action))
    (initially : invariant state) (admitted : machine.Admits allowed state actions) :
    measure state + machine.occurrences marked state actions ≤ measure (machine.run state actions) := by
  induction actions generalizing state with
  | nil => exact Nat.le_refl _
  | cons action rest inductionHypothesis =>
    have kept : invariant (machine.attempt state action) :=
      attempt_elim initially (preserved state action · initially admitted.1)
    have now := grows state action initially admitted.1
    have later := inductionHypothesis kept admitted.2
    simp only [occurrences, run_cons]
    omega

variable (machine) in
/-- The weights of the attempts of a schedule, added up. -/
def total (weight : State -> Action -> Int) : State -> List Action -> Int
  | _, [] => 0
  | state, action :: rest => weight state action + total weight (machine.attempt state action) rest

/-- A measure that each attempt changes by its weight has changed by the total
of the schedule. -/
theorem measure_eq_total {weight : State -> Action -> Int} {invariant : State -> Prop}
    {measure : State -> Int}
    (changes : forall state action, invariant state -> allowed state action ->
      invariant (machine.attempt state action) ∧
        measure (machine.attempt state action) = measure state + weight state action)
    (initially : invariant state) (admitted : machine.Admits allowed state actions) :
    measure (machine.run state actions) = measure state + machine.total weight state actions := by
  induction actions generalizing state with
  | nil => exact (Int.add_zero _).symm
  | cons action rest inductionHypothesis =>
    have now := changes state action initially admitted.1
    have later := inductionHypothesis now.1 admitted.2
    simp only [total, run_cons]
    omega

/-! ## Refinement of an abstract system -/

/-- Every accepted step is, seen through an abstraction, a sequence of moves
of an abstract transition system. -/
structure Refines (machine : Machine State Action Refusal) {Abstract : Type}
    (abstraction : State -> Abstract) (move : Abstract -> Abstract -> Prop)
    (invariant : State -> Prop) : Prop where
  keeps : forall state action next, invariant state ->
    machine.step state action = .ok next -> invariant next
  simulates : forall state action next, invariant state -> machine.step state action = .ok next ->
    Relation.ReflTransGen move (abstraction state) (abstraction next)

namespace Refines

variable {Abstract : Type} {abstraction : State -> Abstract} {move : Abstract -> Abstract -> Prop}
variable {invariant : State -> Prop}

theorem attempt (refines : machine.Refines abstraction move invariant) (holds : invariant state)
    (action : Action) :
    Relation.ReflTransGen move (abstraction state)
      (abstraction (machine.attempt state action)) :=
  attempt_elim
    (motive := fun next => Relation.ReflTransGen move (abstraction state) (abstraction next))
    Relation.ReflTransGen.refl (refines.simulates state action · holds)

end Refines

end Machine

/-! ## Processes under numbers -/

/-- Who stands where after one process has moved. -/
theorem eq_some_of_update {Process : Type} {before after : Nat -> Option Process} {moved other : Nat}
    {next : Option Process} {process : Process} (update : after = Function.update before moved next)
    (stands : after other = some process) :
    (other = moved ∧ next = some process) ∨ (other ≠ moved ∧ before other = some process) := by
  rw [update] at stands
  by_cases same : other = moved
  · subst same
    rw [Function.update_self] at stands
    exact Or.inl ⟨rfl, stands⟩
  · rw [Function.update_of_ne same] at stands
    exact Or.inr ⟨same, stands⟩

end Foundation
end DigitalSolutions

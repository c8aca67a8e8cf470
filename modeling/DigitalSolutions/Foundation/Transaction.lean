import DigitalSolutions.Foundation.Machine

namespace DigitalSolutions
namespace Foundation

/-!
# Transactions and capabilities

A transaction reads and writes a store and either commits with a value or
fails.  A failed transaction has no final store at all: rolling back is not a
behaviour that a transaction could get wrong.

A capability that somebody else wrote reaches the store only through the
ports it is handed.  It is represented by the program it runs over these
ports, so a statement about every capability of a type is a statement about
every finite sequence of port calls, chosen in the light of earlier answers.
-/

/-- A computation over a store that commits with a value or fails. -/
abbrev Transaction (Failure Store Value : Type) := StateT Store (Except Failure) Value

namespace Transaction

variable {Failure Store Value Result : Type}

/-- The transaction, started in `before`, commits `value` and leaves `after`. -/
def Commits (transaction : Transaction Failure Store Value) (before : Store) (value : Value)
    (after : Store) : Prop :=
  transaction.run before = .ok (value, after)

variable {before after : Store} {value : Value} {result : Result}

/-! ## What a committed transaction did -/

@[simp] theorem commits_pure {stored : Value} :
    (pure stored : Transaction Failure Store Value).Commits before value after ↔
      stored = value ∧ before = after := by
  unfold Commits
  rw [StateT.run_pure]
  simp only [pure, Except.pure, Except.ok.injEq, Prod.mk.injEq]

@[simp] theorem commits_bind {first : Transaction Failure Store Value}
    {rest : Value -> Transaction Failure Store Result} :
    (first >>= rest).Commits before result after ↔
      Exists fun value => Exists fun middle =>
        first.Commits before value middle ∧ (rest value).Commits middle result after := by
  unfold Commits
  rw [StateT.run_bind]
  cases outcome : first.run before with
  | error failure => simp [bind, Except.bind]
  | ok pair =>
    constructor
    · intro committed
      exact ⟨pair.1, pair.2, rfl, committed⟩
    · rintro ⟨value, middle, same, committed⟩
      cases same
      exact committed

@[simp] theorem commits_map {first : Transaction Failure Store Value} {function : Value -> Result} :
    (function <$> first).Commits before result after ↔
      Exists fun value => first.Commits before value after ∧ function value = result := by
  rw [map_eq_pure_bind, commits_bind]
  constructor
  · rintro ⟨value, middle, done, same⟩
    rw [commits_pure] at same
    exact ⟨value, same.2 ▸ done, same.1⟩
  · rintro ⟨value, done, same⟩
    exact ⟨value, after, done, commits_pure.mpr ⟨same, rfl⟩⟩

@[simp] theorem commits_get {read : Store} :
    (get : Transaction Failure Store Store).Commits before read after ↔
      before = read ∧ before = after := by
  simp only [Commits, StateT.run_get, pure, Except.pure, Except.ok.injEq, Prod.mk.injEq]

/-- Reading the store first hands it to the rest. -/
theorem commits_get_bind {rest : Store -> Transaction Failure Store Result} :
    (get >>= rest).Commits before result after ↔ (rest before).Commits before result after := by
  simp only [commits_bind, commits_get, and_assoc, ↓existsAndEq, true_and]

@[simp] theorem commits_set {written : Store} {answer : PUnit} :
    (set written : Transaction Failure Store PUnit).Commits before answer after ↔ written = after := by
  simp only [Commits, StateT.run_set, pure, Except.pure, Except.ok.injEq, Prod.mk.injEq, true_and]

@[simp] theorem commits_modify {change : Store -> Store} {answer : PUnit} :
    (modify change : Transaction Failure Store PUnit).Commits before answer after ↔
      change before = after := by
  simp only [Commits, StateT.run_modify, pure, Except.pure, Except.ok.injEq, Prod.mk.injEq,
    true_and]

@[simp] theorem not_commits_throw {failure : Failure} :
    ¬ (throw failure : Transaction Failure Store Value).Commits before value after := by
  intro commits
  cases commits

theorem commits_ite {condition : Prop} [Decidable condition]
    {first second : Transaction Failure Store Value} :
    (if condition then first else second).Commits before value after ↔
      condition ∧ first.Commits before value after ∨
        ¬ condition ∧ second.Commits before value after := by
  by_cases holds : condition
  · simp only [holds, if_true, true_and, not_true_eq_false, false_and, or_false]
  · simp only [holds, if_false, false_and, not_false_eq_true, true_and, false_or]

theorem Commits.unique {transaction : Transaction Failure Store Value} {otherValue : Value}
    {otherAfter : Store} (first : transaction.Commits before value after)
    (second : transaction.Commits before otherValue otherAfter) :
    value = otherValue ∧ after = otherAfter := by
  have same := first.symm.trans second
  simpa only [Except.ok.injEq, Prod.mk.injEq] using same

/-! ## Parts of a store -/

/-- A part of a store that a transaction can be confined to. -/
structure Part (Whole Inner : Type) where
  get : Whole -> Inner
  set : Inner -> Whole -> Whole

/-- Run a transaction on a part of the store; the rest is out of its reach. -/
def within {Whole : Type} (part : Part Whole Store) (transaction : Transaction Failure Store Value) :
    Transaction Failure Whole Value :=
  StateT.mk fun whole =>
    match transaction.run (part.get whole) with
    | .ok (value, inner) => .ok (value, part.set inner whole)
    | .error failure => .error failure

@[simp] theorem commits_within {Whole : Type} {part : Part Whole Store}
    {transaction : Transaction Failure Store Value} {wholeBefore wholeAfter : Whole} :
    (transaction.within part).Commits wholeBefore value wholeAfter ↔
      Exists fun inner => transaction.Commits (part.get wholeBefore) value inner ∧
        part.set inner wholeBefore = wholeAfter := by
  unfold Commits within
  rw [StateT.run_mk]
  cases outcome : transaction.run (part.get wholeBefore) with
  | error failure => simp
  | ok pair =>
    rcases pair with ⟨stored, inner⟩
    simp only [Except.ok.injEq, Prod.mk.injEq]
    constructor
    · rintro ⟨sameValue, sameStore⟩
      exact ⟨inner, ⟨sameValue, rfl⟩, sameStore⟩
    · rintro ⟨other, ⟨sameValue, sameInner⟩, sameStore⟩
      exact ⟨sameValue, sameInner ▸ sameStore⟩

/-- A step that must succeed for the transaction to go on. -/
def orFail (failure : Failure) : Option Value -> Transaction Failure Store Value
  | some value => pure value
  | none => throw failure

@[simp] theorem commits_orFail {failure : Failure} {outcome : Option Value} :
    (orFail failure outcome : Transaction Failure Store Value).Commits before value after ↔
      outcome = some value ∧ before = after := by
  cases outcome with
  | none => simp only [orFail, not_commits_throw, reduceCtorEq, false_and]
  | some stored => simp only [orFail, commits_pure, Option.some.injEq]

@[simp] theorem commits_liftM {outcome : Except Failure Value} :
    (liftM outcome : Transaction Failure Store Value).Commits before value after ↔
      outcome = .ok value ∧ before = after := by
  cases outcome with
  | error failure =>
    simp only [reduceCtorEq, false_and, iff_false]
    intro commits
    cases commits
  | ok stored =>
    rw [Except.ok.injEq]
    exact commits_pure

end Transaction

/-! ## Capabilities over ports -/

/-- What a capability does: it returns, or calls a port and goes on with the
answer. -/
inductive Program (Port : Type) (Answer : Port -> Type) (Value : Type) : Type
  | done (value : Value)
  | call (port : Port) (proceed : Answer port -> Program Port Answer Value)

namespace Program

variable {Port Value Failure Store : Type} {Answer : Port -> Type}

/-- Connect a capability to the implementation of its ports.  A port that
fails ends the surrounding transaction. -/
def connect (handle : (port : Port) -> Transaction Failure Store (Answer port)) :
    Program Port Answer Value -> Transaction Failure Store Value
  | done value => pure value
  | call port proceed => do
    let answer <- handle port
    connect handle (proceed answer)

/-- What every port call does to the store, a whole program does. -/
theorem connect_related {handle : (port : Port) -> Transaction Failure Store (Answer port)}
    (related : Store -> Store -> Prop) (reflexive : forall store, related store store)
    (transitive : forall first second third, related first second -> related second third ->
      related first third)
    (everyPort : forall port before answer after,
      (handle port).Commits before answer after -> related before after)
    (program : Program Port Answer Value) {before after : Store} {value : Value}
    (commits : (program.connect handle).Commits before value after) : related before after := by
  induction program generalizing before with
  | done stored =>
    rw [connect, Transaction.commits_pure] at commits
    exact commits.2 ▸ reflexive before
  | call port proceed inductionHypothesis =>
    rw [connect, Transaction.commits_bind] at commits
    rcases commits with ⟨answer, middle, called, rest⟩
    exact transitive before middle after (everyPort port before answer middle called)
      (inductionHypothesis answer rest)

/-- A capability with one port that checks its input and then hands it on.
Whenever it accepts, it has called its port once, with the input as it came,
and reports the answer. -/
def Relays {Input PortAnswer Value : Type}
    (capability : Input -> Program Input (fun _ => PortAnswer) Value)
    (accepts : Value -> Prop) (reports : PortAnswer -> Value -> Prop) : Prop :=
  forall {Failure Store : Type} (handle : Input -> Transaction Failure Store PortAnswer)
    (input : Input) (before after : Store) (value : Value),
    ((capability input).connect handle).Commits before value after -> accepts value ->
    Exists fun answer => (handle input).Commits before answer after ∧ reports answer value

/-- The capability that does nothing but call its port. -/
def relay {Input PortAnswer Value : Type} (report : PortAnswer -> Value) (input : Input) :
    Program Input (fun _ => PortAnswer) Value :=
  .call input (fun answer => .done (report answer))

theorem relays_relay {Input PortAnswer Value : Type} (report : PortAnswer -> Value)
    (accepts : Value -> Prop) :
    Relays (relay report : Input -> Program Input (fun _ => PortAnswer) Value) accepts
      (fun answer value => report answer = value) := by
  intro Failure Store handle input before after value commits _
  unfold relay connect at commits
  rw [Transaction.commits_bind] at commits
  rcases commits with ⟨answer, middle, called, returned⟩
  rw [connect, Transaction.commits_pure] at returned
  exact ⟨answer, returned.2 ▸ called, returned.1⟩

end Program

/-! ## Loops over a list -/

/-- A loop took one step for each element of a list, in order. -/
inductive Steps {Item Store : Type} (step : Item -> Store -> Store -> Prop) :
    List Item -> Store -> Store -> Prop
  | nil (store : Store) : Steps step [] store store
  | cons {item : Item} {rest : List Item} {before middle after : Store}
    (first : step item before middle) (later : Steps step rest middle after) :
    Steps step (item :: rest) before after

namespace Steps

variable {Item Store : Type} {step : Item -> Store -> Store -> Prop}
variable {items : List Item} {before after : Store}

/-- What every step does to the store, the loop does. -/
theorem related (loop : Steps step items before after) (relation : Store -> Store -> Prop)
    (reflexive : forall store, relation store store)
    (transitive : forall first second third, relation first second -> relation second third ->
      relation first third)
    (everyStep : forall item, item ∈ items -> forall before after, step item before after ->
      relation before after) : relation before after := by
  induction loop with
  | nil store => exact reflexive store
  | @cons item rest before middle after first later inductionHypothesis =>
    have tail : relation middle after :=
      inductionHypothesis (fun other member => everyStep other (List.mem_cons_of_mem item member))
    exact transitive before middle after (everyStep item List.mem_cons_self before middle first) tail

/-- A property that every step keeps survives the loop. -/
theorem invariant {holds : Store -> Prop} (loop : Steps step items before after)
    (everyStep : forall item, item ∈ items -> forall before after, holds before ->
      step item before after -> holds after) (initially : holds before) : holds after := by
  induction loop with
  | nil store => exact initially
  | @cons item rest before middle after first later inductionHypothesis =>
    exact inductionHypothesis
      (fun other member => everyStep other (List.mem_cons_of_mem item member))
      (everyStep item List.mem_cons_self before middle initially first)

/-- What one step achieves for its element, and later steps keep, holds for
every element at the end. -/
theorem achieved (loop : Steps step items before after) (achieves : Item -> Store -> Prop)
    (does : forall item, item ∈ items -> forall before after, step item before after ->
      achieves item after)
    (keeps : forall item other, other ∈ items -> forall before after, step other before after ->
      achieves item before -> achieves item after) {item : Item} (member : item ∈ items) :
    achieves item after := by
  induction loop with
  | nil store => cases member
  | @cons head rest before middle after first later inductionHypothesis =>
    rcases List.mem_cons.mp member with same | inRest
    · subst same
      exact later.invariant
        (fun other inRest before after holds stepped =>
          keeps item other (List.mem_cons_of_mem item inRest) before after stepped holds)
        (does item List.mem_cons_self before middle first)
    · exact inductionHypothesis
        (fun other inRest => does other (List.mem_cons_of_mem head inRest))
        (fun item other inRest => keeps item other (List.mem_cons_of_mem head inRest)) inRest

/-- Every element has its turn, at a store that the steps before it have led
to. -/
theorem reached (loop : Steps step items before after) (relation : Store -> Store -> Prop)
    (reflexive : forall store, relation store store)
    (transitive : forall first second third, relation first second -> relation second third ->
      relation first third)
    (everyStep : forall item before after, step item before after -> relation before after)
    {item : Item} (member : item ∈ items) :
    Exists fun first => Exists fun second => relation before first ∧ step item first second := by
  induction loop with
  | nil store => cases member
  | @cons head rest before middle after first later inductionHypothesis =>
    rcases List.mem_cons.mp member with same | inRest
    · subst same
      exact ⟨before, middle, reflexive before, first⟩
    · rcases inductionHypothesis inRest with ⟨start, next, related, stepped⟩
      exact ⟨start, next, transitive _ _ _ (everyStep head before middle first) related, stepped⟩

/-- A loop seen through a projection of its store. -/
theorem map {Inner : Type} {innerStep : Item -> Inner -> Inner -> Prop}
    (loop : Steps step items before after) (project : Store -> Inner)
    (everyStep : forall item before after, step item before after ->
      innerStep item (project before) (project after)) :
    Steps innerStep items (project before) (project after) := by
  induction loop with
  | nil store => exact Steps.nil _
  | cons first later inductionHypothesis => exact Steps.cons (everyStep _ _ _ first) inductionHypothesis

end Steps

/-! ## Machines of transactions -/

/-- The machine whose actions run transactions: a commit is accepted, and a
failure is a refusal. -/
def Machine.ofTransactions {Failure Store Action : Type}
    (commit : Action -> Transaction Failure Store Unit) : Machine Store Action Failure where
  step store action := Prod.snd <$> (commit action).run store

theorem Machine.ofTransactions_step {Failure Store Action : Type}
    {commit : Action -> Transaction Failure Store Unit} {before after : Store} {action : Action} :
    (Machine.ofTransactions commit).step before action = .ok after ↔
      (commit action).Commits before () after := by
  change Prod.snd <$> (commit action).run before = .ok after ↔ (commit action).run before = _
  cases outcome : (commit action).run before with
  | error failure => simp only [Functor.map, Except.map, reduceCtorEq]
  | ok pair =>
    rcases pair with ⟨answer, store⟩
    simp only [Functor.map, Except.map, Except.ok.injEq, Prod.mk.injEq, true_and]

end Foundation
end DigitalSolutions

import DigitalSolutions.Foundation.Transaction

namespace DigitalSolutions
namespace Foundation

/-!
# Serializable sessions

Processes run transactions against one store at the isolation level
SERIALIZABLE.  A transaction sees the store as it was when it began.  It can
commit when what it has seen leads to the answer that the current store gives,
and then has the effect that it has on the current store; otherwise it is
refused, as it is when it fails.  A process may also give up at any time.

A commit is therefore one run of the transaction on the current store.  The
rules say what follows for every schedule of processes from what one run does.
-/

/-- A transaction under way: what it runs, and the store it began with. -/
structure Session (Store Call : Type) where
  call : Call
  snapshot : Store

structure Shared (Store Call : Type) where
  store : Store
  sessions : Nat -> Option (Session Store Call)

inductive SessionMove (Call : Type)
  | begin (process : Nat) (call : Call)
  | commit (process : Nat)
  | abandon (process : Nat)

inductive SessionRefusal (Failure : Type)
  | busy | idle | conflict
  | failed (failure : Failure)

namespace SessionMove

def process {Call : Type} : SessionMove Call -> Nat
  | begin process _ | commit process | abandon process => process

end SessionMove

namespace Shared

variable {Failure Store Call Answer : Type} [DecidableEq Answer]

def set (state : Shared Store Call) (process : Nat) (session : Option (Session Store Call)) :
    Shared Store Call :=
  { state with sessions := Function.update state.sessions process session }

/-- A store that no transaction works on. -/
def opening (store : Store) : Shared Store Call := ⟨store, fun _ => none⟩

/-- How a session ends: with an answer and the store it leaves, or refused. -/
def conclude (transaction : Call -> Transaction Failure Store Answer) (store : Store)
    (session : Session Store Call) : Except (SessionRefusal Failure) (Answer × Store) :=
  match (transaction session.call).run session.snapshot, (transaction session.call).run store with
  | .ok (seen, _), .ok (answer, after) => if seen = answer then .ok (answer, after) else .error .conflict
  | .error failure, _ => .error (.failed failure)
  | .ok _, .error _ => .error .conflict

def step (transaction : Call -> Transaction Failure Store Answer) (state : Shared Store Call) :
    SessionMove Call -> Except (SessionRefusal Failure) (Shared Store Call)
  | .begin process call =>
    match state.sessions process with
    | none => .ok (state.set process (some ⟨call, state.store⟩))
    | some _ => .error .busy
  | .commit process =>
    match state.sessions process with
    | none => .error .idle
    | some session =>
      match conclude transaction state.store session with
      | .ok (_, after) => .ok ({ state with store := after }.set process none)
      | .error refusal => .error refusal
  | .abandon process =>
    match state.sessions process with
    | none => .error .idle
    | some _ => .ok (state.set process none)

def machine (transaction : Call -> Transaction Failure Store Answer) :
    Machine (Shared Store Call) (SessionMove Call) (SessionRefusal Failure) where
  step := step transaction

variable {transaction : Call -> Transaction Failure Store Answer}

/-- A session that concludes has run its transaction on the current store. -/
theorem commits_of_conclude {store after : Store} {session : Session Store Call} {answer : Answer}
    (concluded : conclude transaction store session = .ok (answer, after)) :
    (transaction session.call).Commits store answer after ∧
      Exists fun unseen => (transaction session.call).Commits session.snapshot answer unseen := by
  unfold conclude at concluded
  split at concluded
  · rename_i seen unseen answered left seenRun run
    split at concluded
    · rename_i same
      cases concluded
      exact ⟨run, unseen, same ▸ seenRun⟩
    · cases concluded
  · cases concluded
  · cases concluded

theorem conclude_of_commits {store after unseen : Store} {session : Session Store Call} {answer : Answer}
    (seen : (transaction session.call).Commits session.snapshot answer unseen)
    (commits : (transaction session.call).Commits store answer after) :
    conclude transaction store session = .ok (answer, after) := by
  unfold Transaction.Commits at seen commits
  simp only [conclude, seen, commits, if_true]

/-! ## What one move does -/

/-- What an accepted move does to the store: nothing, or what one run of a
transaction does. -/
theorem step_store {state next : Shared Store Call} {move : SessionMove Call}
    (accepted : (machine transaction).step state move = .ok next) :
    next.store = state.store ∨
      Exists fun session => Exists fun answer => state.sessions move.process = some session ∧
        move = .commit move.process ∧
        conclude transaction state.store session = .ok (answer, next.store) := by
  cases move with
  | begin process call =>
    simp only [machine, step] at accepted
    split at accepted
    · cases accepted
      exact Or.inl rfl
    · cases accepted
  | commit process =>
    simp only [machine, step] at accepted
    split at accepted
    · cases accepted
    · rename_i session found
      split at accepted
      · rename_i answer after concluded
        cases accepted
        exact Or.inr ⟨session, answer, found, rfl, concluded⟩
      · cases accepted
  | abandon process =>
    simp only [machine, step] at accepted
    split at accepted
    · cases accepted
    · cases accepted
      exact Or.inl rfl

theorem step_other_session {state next : Shared Store Call} {move : SessionMove Call}
    (accepted : (machine transaction).step state move = .ok next) {process : Nat}
    (other : move.process ≠ process) : next.sessions process = state.sessions process := by
  have elsewhere : forall stored,
      Function.update state.sessions move.process stored process = state.sessions process := by
    intro stored
    exact Function.update_of_ne (Ne.symm other) stored state.sessions
  cases move with
  | begin mover call =>
    simp only [machine, step] at accepted
    split at accepted
    · cases accepted
      exact elsewhere _
    · cases accepted
  | commit mover =>
    simp only [machine, step] at accepted
    split at accepted
    · cases accepted
    · split at accepted
      · cases accepted
        exact elsewhere _
      · cases accepted
  | abandon mover =>
    simp only [machine, step] at accepted
    split at accepted
    · cases accepted
    · cases accepted
      exact elsewhere _

/-! ## What a schedule does -/

/-- What other processes do leaves a session open. -/
theorem run_session {state : Shared Store Call} {process : Nat} {moves : List (SessionMove Call)}
    (others : forall move, move ∈ moves -> move.process ≠ process) :
    ((machine transaction).run state moves).sessions process = state.sessions process := by
  induction moves generalizing state with
  | nil => rfl
  | cons move rest inductionHypothesis =>
    rw [Machine.run_cons]
    have here : ((machine transaction).attempt state move).sessions process = state.sessions process := by
      have accepted : forall next, (machine transaction).step state move = .ok next ->
          next.sessions process = state.sessions process :=
        fun next done => step_other_session done (others move List.mem_cons_self)
      exact Machine.attempt_elim
        (motive := fun next : Shared Store Call => next.sessions process = state.sessions process) rfl accepted
    rw [inductionHypothesis fun later member => others later (List.mem_cons_of_mem move member), here]

/-- A property of the store that every transaction keeps holds throughout. -/
theorem run_invariant {invariant : Store -> Prop}
    (preserved : forall call before answer after, invariant before ->
      (transaction call).Commits before answer after -> invariant after)
    {state : Shared Store Call} (initially : invariant state.store) (moves : List (SessionMove Call)) :
    invariant ((machine transaction).run state moves).store := by
  have everyStep : forall state move next, invariant (Shared.store state) ->
      (machine transaction).step state move = .ok next -> invariant next.store := by
    intro state move next holds accepted
    rcases step_store accepted with same | ⟨session, answer, _, _, concluded⟩
    · exact same ▸ holds
    · exact preserved session.call _ answer _ holds (commits_of_conclude concluded).1
  exact Machine.run_invariant everyStep initially moves

/-- A relation that holds across every transaction holds across a schedule. -/
theorem run_related {related : Store -> Store -> Prop} (reflexive : forall store, related store store)
    (transitive : forall first second third, related first second -> related second third ->
      related first third)
    {invariant : Store -> Prop}
    (preserved : forall call before answer after, invariant before ->
      (transaction call).Commits before answer after -> invariant after ∧ related before after)
    {state : Shared Store Call} (initially : invariant state.store) (moves : List (SessionMove Call)) :
    related state.store ((machine transaction).run state moves).store := by
  have everyStep : forall later move next,
      invariant (Shared.store later) ∧ related state.store later.store ->
      (machine transaction).step later move = .ok next ->
      invariant next.store ∧ related state.store next.store := by
    intro later move next holds accepted
    rcases step_store accepted with same | ⟨session, answer, _, _, concluded⟩
    · exact same ▸ holds
    · have done := preserved session.call _ answer _ holds.1 (commits_of_conclude concluded).1
      exact ⟨done.1, transitive _ _ _ holds.2 done.2⟩
  exact (Machine.run_invariant everyStep ⟨initially, reflexive state.store⟩ moves).2

end Shared
end Foundation
end DigitalSolutions

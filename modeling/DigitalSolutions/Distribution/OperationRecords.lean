import DigitalSolutions.Distribution.UpdateRollback

namespace DigitalSolutions
namespace Distribution

open Foundation Persistence

/-!
# Operation records

A call that comes again under its operation id is answered from the record of
the operation.  The record is there as soon as the effect is, and no later
call changes it, so the effect of an operation id is committed at most once.
-/

variable {platform : UpdatePlatform}

/-! ## Requests and their canonical form -/

/-- Two listings of the same keys that hold the same entries are the same. -/
theorem entries_eq_of_perm {Key Value : Type} {first second : List (Key × Value)}
    (sameKeys : first.map Prod.fst = second.map Prod.fst) (distinct : (first.map Prod.fst).Nodup)
    (permuted : first.Perm second) : first = second := by
  induction first generalizing second with
  | nil => exact (List.nil_perm.mp permuted).symm
  | cons head rest inductionHypothesis =>
    cases second with
    | nil => cases sameKeys
    | cons other others =>
      rcases head with ⟨key, value⟩
      rcases other with ⟨otherKey, otherValue⟩
      rw [List.map_cons, List.map_cons, List.cons.injEq] at sameKeys
      rw [List.map_cons, List.nodup_cons] at distinct
      rcases sameKeys with ⟨sameKey, sameRest⟩
      have isHead : (key, value) = (otherKey, otherValue) := by
        rcases List.mem_cons.mp (permuted.subset List.mem_cons_self) with isFirst | later
        · exact isFirst
        · have listed : key ∈ others.map Prod.fst := List.mem_map_of_mem later
          exact absurd (sameRest ▸ listed) distinct.1
      rw [isHead] at permuted ⊢
      rw [inductionHypothesis sameRest distinct.2 permuted.cons_inv]

/-- The keys of the request of an action. -/
def requestKeys : UpdateAction -> List String
  | .keyStaged => ["keyId", "publicKey", "trustedFromVersion"]
  | .keyActivated | .keyRetired => ["keyId"]
  | .releaseRegistered => ["version", "minimumSupportedVersion", "revision", "audience"]
  | .releaseActivated | .releaseDeactivated => ["releaseId"]

theorem requestKeys_nodup (action : UpdateAction) : (requestKeys action).Nodup := by
  cases action <;> decide

namespace UpdateCall

/-- A request is a flat object with the keys of its action. -/
theorem request_entries (localeCompare : String -> String -> Int) (call : UpdateCall) :
    Exists fun entries => call.request = .object entries ∧
      entries.map Prod.fst = requestKeys call.action ∧
      canonicalFields localeCompare entries = entries := by
  rcases call with ⟨context, mutation⟩
  cases mutation with
  | registerKey keyId publicKey trustedFromVersion => exact ⟨_, rfl, rfl, rfl⟩
  | activateKey keyId => exact ⟨_, rfl, rfl, rfl⟩
  | retireKey keyId => exact ⟨_, rfl, rfl, rfl⟩
  | registerRelease version minimumSupportedVersion revision => exact ⟨_, rfl, rfl, rfl⟩
  | activateRelease releaseId => exact ⟨_, rfl, rfl, rfl⟩
  | deactivateRelease releaseId => exact ⟨_, rfl, rfl, rfl⟩

/-- Requests of one action that `canonical` writes alike are the same. -/
theorem request_eq_of_canonical {localeCompare : String -> String -> Int} {first second : UpdateCall}
    (sameAction : first.action = second.action)
    (written : canonical localeCompare first.request = canonical localeCompare second.request) :
    first.request = second.request := by
  rcases first.request_entries localeCompare with ⟨entries, isRequest, keys, fixed⟩
  rcases second.request_entries localeCompare with ⟨otherEntries, isOther, otherKeys, otherFixed⟩
  rw [isRequest, isOther, canonical, canonical, fixed, otherFixed, Json.object.injEq] at written
  rw [isRequest, isOther]
  have permuted : entries.Perm otherEntries :=
    (List.perm_insertionSort _ entries).symm.trans (written ▸ List.perm_insertionSort _ otherEntries)
  apply congrArg Json.object
  apply entries_eq_of_perm _ _ permuted
  · rw [keys, otherKeys, sameAction]
  · rw [keys]
    exact requestKeys_nodup first.action

/-- The same action with the same request. -/
def Repeats (call first : UpdateCall) : Prop :=
  call.action = first.action ∧ call.request = first.request

/-- What is checked before the transaction is part of the request. -/
theorem Repeats.admissible {call first : UpdateCall} (repeats : call.Repeats first)
    (admissible : first.Admissible platform) : call.Admissible platform := by
  rcases call with ⟨context, mutation⟩
  rcases first with ⟨firstContext, firstMutation⟩
  rcases repeats with ⟨sameAction, sameRequest⟩
  cases mutation with
  | activateKey keyId => trivial
  | retireKey keyId => trivial
  | activateRelease releaseId => trivial
  | deactivateRelease releaseId => trivial
  | registerKey keyId publicKey trustedFromVersion =>
    cases firstMutation with
    | registerKey firstKeyId firstPublicKey firstVersion =>
      simp only [request, keyRegistrationRequest, Json.object.injEq, List.cons.injEq, Prod.mk.injEq,
        Json.string.injEq, true_and, and_true] at sameRequest
      rcases sameRequest with ⟨rfl, rfl, rfl⟩
      exact admissible
    | _ => cases sameAction
  | registerRelease version minimumSupportedVersion revision =>
    cases firstMutation with
    | registerRelease firstVersion firstMinimum firstRevision =>
      simp only [request, releaseRegistrationRequest, Json.object.injEq, List.cons.injEq, Prod.mk.injEq,
        Json.string.injEq, Json.number.injEq, Int.toString_eq_repr, Int.repr_inj, true_and,
        and_true] at sameRequest
      rcases sameRequest with ⟨rfl, rfl, rfl, _⟩
      exact admissible
    | _ => cases sameAction

end UpdateCall

/-! ## Answers -/

/-- Whatever the transaction commits with is an object. -/
def AnswersObject (transaction : UpdateTx Json) : Prop :=
  forall before answer after, transaction.Commits before answer after ->
    Exists fun entries => answer = .object entries

namespace AnswersObject

theorem object (entries : List (String × Json)) : AnswersObject (pure (.object entries)) := by
  intro before answer after commits
  exact ⟨entries, (Transaction.commits_pure.mp commits).1.symm⟩

theorem bind {Value : Type} {first : UpdateTx Value} {rest : Value -> UpdateTx Json}
    (every : forall value, AnswersObject (rest value)) : AnswersObject (first >>= rest) := by
  intro before answer after commits
  rcases Transaction.commits_bind.mp commits with ⟨value, middle, _, later⟩
  exact every value middle answer after later

theorem ite {condition : Prop} [Decidable condition] {first second : UpdateTx Json}
    (holds : AnswersObject first) (fails : AnswersObject second) :
    AnswersObject (if condition then first else second) := by
  split
  · exact holds
  · exact fails

end AnswersObject

theorem execute_answersObject (call : UpdateCall) : AnswersObject (call.execute platform) := by
  rcases call with ⟨context, mutation⟩
  cases mutation with
  | registerKey keyId publicKey trustedFromVersion =>
    iterate 6 refine .bind fun _ => ?_
    exact .object _
  | activateKey keyId =>
    iterate 6 refine .bind fun _ => ?_
    exact .object _
  | retireKey keyId =>
    iterate 2 refine .bind fun _ => ?_
    refine .ite (.object _) ?_
    iterate 2 refine .bind fun _ => ?_
    exact .object _
  | registerRelease version minimumSupportedVersion revision =>
    iterate 6 refine .bind fun _ => ?_
    exact .object _
  | activateRelease releaseId =>
    iterate 3 refine .bind fun _ => ?_
    refine .ite (.object _) ?_
    iterate 6 refine .bind fun _ => ?_
    exact .object _
  | deactivateRelease releaseId =>
    iterate 5 refine .bind fun _ => ?_
    exact .object _

/-! ## The record of an operation -/

/-- The store holds the record of a call, with what it answered. -/
def Recorded (platform : UpdatePlatform) (store : UpdateStore) (call : UpdateCall) (answer : Json) :
    Prop :=
  Exists fun existing =>
    store.operations.lookup (.operationId call.context.operationId) = some existing ∧
    existing.action = call.action ∧
    canonical platform.localeCompare existing.metadata.request =
      canonical platform.localeCompare call.request ∧
    existing.metadata.result = answer ∧ truthy answer = true

namespace Recorded

variable {store before after : UpdateStore} {call first : UpdateCall} {answer other : Json}

/-- A committed call leaves a record of its answer. -/
theorem of_commits (commits : (perform platform call).Commits before answer after) :
    Recorded platform after call answer := by
  have mutated := (perform_commits.mp commits).2
  rcases mutation_commits.mp mutated with ⟨existing, found, replayed, answered, same⟩ |
    ⟨_, middle, executed, operations, inserted, written⟩
  · simp only [replays, Bool.and_eq_true, decide_eq_true_eq] at replayed
    rcases replayed with ⟨⟨sameAction, sameRequest⟩, hasResult⟩
    exact ⟨existing, same ▸ found, sameAction, sameRequest, answered, answered ▸ hasResult⟩
  · rcases execute_answersObject call before answer middle executed with ⟨entries, isObject⟩
    refine ⟨recorded call.context call.action call.request answer, ?_, rfl, rfl, rfl, isObject ▸ rfl⟩
    rw [← written]
    change operations.lookup _ = _
    rw [Table.lookup_insert inserted, if_pos]
    exact List.mem_cons_of_mem _ List.mem_cons_self

/-- What a call under the id of a record comes to: it repeats the recorded
call and is answered as that one was, or it does not commit. -/
theorem commits_iff (holds : Recorded platform store first answer)
    (admissible : first.Admissible platform)
    (sameId : call.context.operationId = first.context.operationId) :
    (perform platform call).Commits store other after ↔
      call.Repeats first ∧ other = answer ∧ after = store := by
  rcases holds with ⟨existing, found, action, request, result, hasResult⟩
  rw [← sameId] at found
  rw [perform_commits, mutation_commits]
  simp only [found, Option.some.injEq, reduceCtorEq, false_and, or_false, exists_eq_left', replays,
    Bool.and_eq_true, decide_eq_true_eq]
  constructor
  · rintro ⟨_, ⟨⟨sameAction, sameRequest⟩, _⟩, answered, kept⟩
    have repeatsAction : call.action = first.action := sameAction.symm.trans action
    refine ⟨⟨repeatsAction, ?_⟩, answered.symm.trans result, kept.symm⟩
    exact UpdateCall.request_eq_of_canonical repeatsAction (sameRequest.symm.trans request)
  · rintro ⟨repeats, isAnswer, isStore⟩
    refine ⟨repeats.admissible admissible, ⟨⟨?_, ?_⟩, ?_⟩, ?_, isStore.symm⟩
    · exact action.trans repeats.1.symm
    · rw [request, repeats.2]
    · exact result.symm ▸ hasResult
    · exact result.trans isAnswer.symm

/-- No call takes a record away. -/
theorem kept (holds : Recorded platform before first answer)
    (commits : (perform platform call).Commits before other after) :
    Recorded platform after first answer := by
  rcases holds with ⟨existing, found, rest⟩
  refine ⟨existing, ?_, rest⟩
  rcases mutation_commits.mp (perform_commits.mp commits).2 with ⟨_, _, _, _, same⟩ |
    ⟨unrecorded, middle, executed, operations, inserted, written⟩
  · exact same ▸ found
  · have sameRecords := (execute_effect (perform_commits.mp commits).1 executed).operations
    rw [sameRecords] at inserted
    rw [← written]
    change operations.lookup _ = _
    rw [Table.lookup_insert inserted, if_neg, found]
    intro taken
    have member := before.operations.lookup_mem found
    have fits := Table.fits_of_insert inserted existing member
    exact fits _ (before.operations.lookup_key found) taken

/-- A record stays through every schedule. -/
theorem run {state : Shared UpdateStore UpdateCall} (holds : Recorded platform state.store first answer)
    (moves : List (SessionMove UpdateCall)) :
    Recorded platform ((updateMachine platform).run state moves).store first answer := by
  have everyCall : forall call before other after, Recorded platform before first answer ->
      (perform platform call).Commits before other after -> Recorded platform after first answer :=
    fun _ _ _ _ before commits => before.kept commits
  exact Shared.run_invariant everyCall holds moves

end Recorded

/-! ## Calls under one operation id -/

/-- The session of a process ends with its call committed and answered. -/
structure Concludes (platform : UpdatePlatform) (state next : Shared UpdateStore UpdateCall)
    (process : Nat) (call : UpdateCall) (answer : Json) : Prop where
  accepted : (updateMachine platform).step state (.commit process) = .ok next
  answered : Exists fun snapshot => state.sessions process = some ⟨call, snapshot⟩ ∧
    Shared.conclude (perform platform) state.store ⟨call, snapshot⟩ = .ok (answer, next.store)

namespace Concludes

variable {state next : Shared UpdateStore UpdateCall} {process : Nat} {call : UpdateCall} {answer : Json}

theorem commits (concludes : Concludes platform state next process call answer) :
    (perform platform call).Commits state.store answer next.store := by
  rcases concludes.answered with ⟨snapshot, _, concluded⟩
  exact (Shared.commits_of_conclude concluded).1

/-- A session whose transaction gives one answer, on what it saw and on the
store as it is, can be concluded. -/
theorem of_commits {snapshot after unseen : UpdateStore}
    (session : state.sessions process = some ⟨call, snapshot⟩)
    (seen : (perform platform call).Commits snapshot answer unseen)
    (commits : (perform platform call).Commits state.store answer after) :
    Exists fun next => Concludes platform state next process call answer ∧ next.store = after := by
  have concluded : Shared.conclude (perform platform) state.store ⟨call, snapshot⟩ = .ok (answer, after) :=
    Shared.conclude_of_commits seen commits
  refine ⟨({ state with store := after }.set process none), ⟨?_, snapshot, session, concluded⟩, rfl⟩
  simp only [updateMachine, Shared.machine, Shared.step, session, concluded]

end Concludes

/-- After a call has committed, whatever the processes do next: another call
under its id commits only as a repetition, with the same answer and without an
effect; every repetition that begins from then on can commit; a call that asks
for something else is refused. -/
structure Settles (platform : UpdatePlatform) (state : Shared UpdateStore UpdateCall)
    (first : UpdateCall) (answer : Json) : Prop where
  once : forall process call other next, Concludes platform state next process call other ->
    call.context.operationId = first.context.operationId ->
    call.Repeats first ∧ other = answer ∧ next.store = state.store
  replayed : forall process call, state.sessions process = none ->
    call.context.operationId = first.context.operationId -> call.Repeats first ->
    forall meanwhile : List (SessionMove UpdateCall),
      (forall move, move ∈ meanwhile -> move.process ≠ process) ->
      Exists fun next => Concludes platform
          ((updateMachine platform).run state (.begin process call :: meanwhile)) next process call answer ∧
        next.store = ((updateMachine platform).run state (.begin process call :: meanwhile)).store
  mismatched : forall process session, state.sessions process = some session ->
    session.call.context.operationId = first.context.operationId -> ¬ session.call.Repeats first ->
    (updateMachine platform).attempt state (.commit process) = state

theorem Recorded.settles {state : Shared UpdateStore UpdateCall} {first : UpdateCall} {answer : Json}
    (holds : Recorded platform state.store first answer) (admissible : first.Admissible platform) :
    Settles platform state first answer where
  once process call other next concludes sameId :=
    (holds.commits_iff admissible sameId).mp concludes.commits
  replayed process call idle sameId repeats meanwhile others := by
    have began : (updateMachine platform).attempt state (.begin process call) =
        state.set process (some ⟨call, state.store⟩) := by
      apply Machine.attempt_ok
      simp only [updateMachine, Shared.machine, Shared.step, idle]
    rw [Machine.run_cons, began]
    have session : ((updateMachine platform).run (state.set process (some ⟨call, state.store⟩))
        meanwhile).sessions process = some ⟨call, state.store⟩ := by
      rw [updateMachine, Shared.run_session others]
      exact Function.update_self _ _ _
    have later : Recorded platform ((updateMachine platform).run
        (state.set process (some ⟨call, state.store⟩)) meanwhile).store first answer := by
      apply Recorded.run
      exact holds
    exact Concludes.of_commits session
      ((holds.commits_iff admissible sameId).mpr ⟨repeats, rfl, rfl⟩)
      ((later.commits_iff admissible sameId).mpr ⟨repeats, rfl, rfl⟩)
  mismatched process session found sameId differs := by
    apply Machine.attempt_elim (motive := fun next => next = state) rfl
    intro next accepted
    simp only [updateMachine, Shared.machine, Shared.step, found] at accepted
    split at accepted
    · rename_i answer after concluded
      have commits := (Shared.commits_of_conclude concluded).1
      exact absurd ((holds.commits_iff admissible sameId).mp commits).1 differs
    · cases accepted

/-- A call whose body fails on what the transaction sees is refused: it leaves
the store, with its records, as it was.  Whatever call comes next under an id
without a record is executed. -/
structure FailsClean (platform : UpdatePlatform) (state : Shared UpdateStore UpdateCall) : Prop where
  refused : forall process session, state.sessions process = some session ->
    session.snapshot.operations.lookup (.operationId session.call.context.operationId) = none ->
    (forall answer after, ¬ (session.call.execute platform).Commits session.snapshot answer after) ->
    (updateMachine platform).attempt state (.commit process) = state
  retried : forall process call answer after, state.sessions process = none ->
    state.store.operations.lookup (.operationId call.context.operationId) = none ->
    state.store.operations.lookup (.id (call.context.draw .operation)) = none ->
    call.Admissible platform -> (call.execute platform).Commits state.store answer after ->
    Exists fun next => Concludes platform
        ((updateMachine platform).attempt state (.begin process call)) next process call answer ∧
      next.store = { after with operations := next.store.operations } ∧
      Recorded platform next.store call answer

theorem failsClean (state : Shared UpdateStore UpdateCall) : FailsClean platform state where
  refused process session found unrecorded fails := by
    apply Machine.attempt_elim (motive := fun next => next = state) rfl
    intro next accepted
    simp only [updateMachine, Shared.machine, Shared.step, found] at accepted
    split at accepted
    · rename_i answer after concluded
      rcases (Shared.commits_of_conclude concluded).2 with ⟨unseen, seen⟩
      rcases mutation_commits.mp (perform_commits.mp seen).2 with ⟨existing, present, _⟩ |
        ⟨_, middle, executed, _⟩
      · rw [unrecorded] at present
        cases present
      · exact absurd executed (fails answer middle)
    · cases accepted
  retried process call answer after idle unrecorded fresh admissible executed := by
    have began : (updateMachine platform).attempt state (.begin process call) =
        state.set process (some ⟨call, state.store⟩) := by
      apply Machine.attempt_ok
      simp only [updateMachine, Shared.machine, Shared.step, idle]
    have sameRecords := (execute_effect admissible executed).operations
    have fits : after.operations.Fits (recorded call.context call.action call.request answer) := by
      rw [sameRecords]
      intro existing member key inExisting isNew
      simp only [recorded, Keyed.keys, List.mem_cons, List.not_mem_nil, or_false] at isNew
      rcases isNew with rfl | rfl
      · exact (Table.lookup_eq_none _).mp fresh existing member inExisting
      · exact (Table.lookup_eq_none _).mp unrecorded existing member inExisting
    rcases Option.isSome_iff_exists.mp (Table.insert_isSome.mpr fits) with ⟨operations, inserted⟩
    have commits : (perform platform call).Commits state.store answer { after with operations } :=
      perform_commits.mpr ⟨admissible, mutation_commits.mpr
        (Or.inr ⟨unrecorded, after, executed, operations, inserted, rfl⟩)⟩
    rw [began]
    have session : (state.set process (some ⟨call, state.store⟩)).sessions process =
        some ⟨call, state.store⟩ := Function.update_self _ _ _
    rcases Concludes.of_commits session commits commits with ⟨next, concludes, isAfter⟩
    refine ⟨next, concludes, ?_, ?_⟩
    · rw [isAfter]
    · exact isAfter ▸ Recorded.of_commits commits

/-- Mutations are idempotent in their operation id, under every interleaving
of calls: what an id has committed once settles it, and what fails leaves no
trace of it. -/
theorem mutations_idempotent (platform : UpdatePlatform) (moves : List (SessionMove UpdateCall)) :
    FailsClean platform (afterMoves platform moves) ∧
      forall process first answer next,
        Concludes platform (afterMoves platform moves) next process first answer ->
        forall later, Settles platform ((updateMachine platform).run next later) first answer := by
  refine ⟨failsClean _, ?_⟩
  intro process first answer next concludes later
  have holds := Recorded.of_commits concludes.commits
  exact (holds.run later).settles (perform_commits.mp concludes.commits).1

end Distribution
end DigitalSolutions

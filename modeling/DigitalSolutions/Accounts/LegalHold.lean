import DigitalSolutions.Accounts.CustomerLifecycle

namespace DigitalSolutions
namespace Accounts

open Foundation Persistence

/-!
# Deletion under legal hold

The legal hold of a user is read with the rest, before the transaction that
deletes.  A hold that is placed between the two is not seen.  As long as none
is, no deletion step commits for a user under hold.
-/

variable {policies : CustomerPolicies}
variable {store before : CustomerStore} {now : Time}
variable {after : CustomerStore} {deed : LifecycleDeed} {call : LifecycleCall} {userId : Id}

/-- A step towards deletion, unlike the placing of a hold. -/
def LifecycleDeed.deletes : LifecycleDeed -> Bool
  | .legalHold _ _ _ => false
  | _ => true

def Unheld (store : CustomerStore) (userId : Id) : Prop :=
  forall user, user ∈ store.users -> user.id = userId -> user.legalHoldAt = none

/-- No deletion step of a user under legal hold can commit. -/
def HoldsRespected (policies : CustomerPolicies) (crowd : Crowd CustomerStore LifecyclePoint) : Prop :=
  forall process call deed now after, crowd.processes process = some (.writing call deed) ->
    deed.deletes = true -> (commitDeed policies call now deed).Commits crowd.store () after ->
    Unheld crowd.store call.userId

/-- Minimization is about personal data: it leaves a user the same user, and
places no hold. -/
def CustomerPolicies.KeepsHolds (policies : CustomerPolicies) : Prop :=
  forall userId email now row,
    ((policies.planPrivacyCustomerMinimization userId email now).userUpdate row).id = row.id ∧
      (row.legalHoldAt = none ->
        ((policies.planPrivacyCustomerMinimization userId email now).userUpdate row).legalHoldAt = none)

/-! ## What the transactions do to the holds -/

theorem Unheld.of_user {user : User} (member : user ∈ store.users) (free : user.legalHoldAt = none) :
    Unheld store user.id := by
  intro other otherMember sameId
  have userKey : User.Key.id user.id ∈ Keyed.keys user := List.mem_cons_self
  have otherKey : User.Key.id user.id ∈ Keyed.keys other := sameId ▸ List.mem_cons_self
  rw [store.users.eq_of_common_key otherMember member otherKey userKey]
  exact free

theorem findUser_ok {user : User} (found : findUser userId store = .ok user) :
    user ∈ store.users ∧ user.id = userId := by
  unfold findUser at found
  split at found
  · rename_i row lookedUp
    cases found
    have listed := store.users.lookup_key lookedUp
    simp only [Keyed.keys, List.mem_cons, User.Key.id.injEq, reduceCtorEq, List.not_mem_nil,
      or_self, or_false] at listed
    exact ⟨store.users.lookup_mem lookedUp, listed.symm⟩
  · cases found

theorem updateUser_commits {data : User -> User}
    {keeps : forall user, (data user).id = user.id ∧ (data user).email = user.email} {done : Unit}
    (commits : (updateUser userId data keeps).Commits before done after) {row : User}
    (member : row ∈ after.users) : Exists fun old => old ∈ before.users ∧
      (if old.id = userId then data old else old) = row := by
  simp only [updateUser, Transaction.commits_bind, Transaction.commits_get, Transaction.commits_orFail,
    Transaction.commits_set] at commits
  rcases commits with ⟨_, _, ⟨rfl, rfl⟩, _, _, ⟨_, rfl⟩, rfl⟩
  rw [← Table.mem_rows] at member
  rcases List.mem_map.mp member with ⟨old, oldMember, isRow⟩
  exact ⟨old, oldMember, by simpa only [decide_eq_true_eq] using isRow⟩

/-- The columns that hold a user are written by the placing of a hold only. -/
theorem commitDeed_users (keeps : policies.KeepsHolds)
    (commits : (commitDeed policies call now deed).Commits before () after) {row : User}
    (member : row ∈ after.users) : Exists fun old => old ∈ before.users ∧ old.id = row.id ∧
      (old.legalHoldAt = none -> row.legalHoldAt = none ∨ row.id = call.userId ∧
        Exists fun enabled => Exists fun hold => Exists fun accountIds =>
          deed = .legalHold enabled hold accountIds ∧ row.legalHoldAt = hold.legalHoldAt) := by
  cases deed with
  | privacyReview requestedAt retentionExpiresAt accountIds =>
    simp only [commitDeed, writePrivacyReview, Transaction.commits_bind, Transaction.commits_modify]
      at commits
    rcases commits with ⟨_, _, rfl, _, _, updated, _, _, rfl, rfl⟩
    rcases updateUser_commits updated member with ⟨old, oldMember, isRow⟩
    refine ⟨old, oldMember, ?_⟩
    subst isRow
    split
    · exact ⟨rfl, fun free => Or.inl free⟩
    · exact ⟨rfl, fun free => Or.inl free⟩
  | legalHold enabled hold accountIds =>
    simp only [commitDeed, writeLegalHold, Transaction.commits_bind, Transaction.commits_modify] at commits
    rcases commits with ⟨_, _, updated, _, _, rfl, rfl⟩
    rcases updateUser_commits updated member with ⟨old, oldMember, isRow⟩
    refine ⟨old, oldMember, ?_⟩
    subst isRow
    split
    · rename_i chosen
      exact ⟨rfl, fun _ => Or.inr ⟨chosen, enabled, hold, accountIds, rfl, rfl⟩⟩
    · exact ⟨rfl, fun free => Or.inl free⟩
  | pseudonymization report =>
    simp only [commitDeed, writePseudonymization, Transaction.commits_get, Transaction.commits_bind,
      Transaction.commits_orFail, Transaction.commits_liftM, Transaction.commits_set] at commits
    rcases commits with ⟨_, _, ⟨rfl, rfl⟩, user, _, ⟨_, rfl⟩, _, _, ⟨_, rfl⟩, users, _, ⟨written, rfl⟩,
      _, _, ⟨_, rfl⟩, rfl⟩
    rcases (Table.mem_amend _ written).mp member with ⟨old, oldMember, isRow⟩
    refine ⟨old, oldMember, ?_⟩
    subst isRow
    have kept := keeps user.id user.email now old
    split
    · exact ⟨kept.1.symm, fun free => Or.inl (kept.2 free)⟩
    · exact ⟨rfl, fun free => Or.inl free⟩
  | purgeEligibility report =>
    simp only [commitDeed, writePurgeEligibility, Transaction.commits_bind, Transaction.commits_modify]
      at commits
    rcases commits with ⟨_, _, updated, _, _, rfl, rfl⟩
    rcases updateUser_commits updated member with ⟨old, oldMember, isRow⟩
    refine ⟨old, oldMember, ?_⟩
    subst isRow
    split
    · exact ⟨rfl, fun free => Or.inl free⟩
    · exact ⟨rfl, fun free => Or.inl free⟩
  | finalPurge confirmation report =>
    simp only [commitDeed, writeFinalPurge, Transaction.commits_get, Transaction.commits_bind,
      Transaction.commits_orFail, Transaction.commits_liftM, Transaction.commits_ite,
      Transaction.not_commits_throw, Transaction.commits_set, and_false, false_or] at commits
    rcases commits with ⟨_, _, ⟨rfl, rfl⟩, user, _, ⟨_, rfl⟩, _, _, ⟨_, rfl⟩, _, rfl⟩
    have kept : row ∈ before.users := ((Table.mem_delete _).mp member).1
    exact ⟨row, kept, rfl, fun free => Or.inl free⟩

/-! ## Holds and decisions -/

/-- The decision is one that was taken for a user under hold. -/
def LifecycleDeed.Doomed (policies : CustomerPolicies) : LifecycleDeed -> Prop
  | .pseudonymization report | .finalPurge _ report =>
    Exists fun facts => facts.legalHold = true ∧ policies.evaluate facts = .ok report
  | _ => False

theorem LifecycleDeed.Doomed.not_commits (refuses : policies.RefusesHeld) (doomed : deed.Doomed policies) :
    ¬ (commitDeed policies call now deed).Commits before () after := by
  intro commits
  cases deed with
  | privacyReview requestedAt retentionExpiresAt accountIds => exact doomed
  | legalHold enabled hold accountIds => exact doomed
  | purgeEligibility report => exact doomed
  | pseudonymization report =>
    rcases doomed with ⟨facts, held, evaluated⟩
    simp only [commitDeed, writePseudonymization, Transaction.commits_get, Transaction.commits_bind,
      Transaction.commits_orFail, Transaction.commits_liftM] at commits
    rcases commits with ⟨_, _, ⟨rfl, rfl⟩, user, _, ⟨_, rfl⟩, _, _, ⟨decided, _⟩, _⟩
    rcases refuses.pseudonymize facts report user.lifecycleState held evaluated with ⟨failure, refused⟩
    rw [refused] at decided
    cases decided
  | finalPurge confirmation report =>
    rcases doomed with ⟨facts, held, evaluated⟩
    simp only [commitDeed, writeFinalPurge, Transaction.commits_get, Transaction.commits_bind,
      Transaction.commits_orFail, Transaction.commits_liftM] at commits
    rcases commits with ⟨_, _, ⟨rfl, rfl⟩, user, _, ⟨_, rfl⟩, _, _, ⟨decided, _⟩, _⟩
    rcases refuses.finalPurge facts report call.userId confirmation user.lifecycleState held evaluated
      with ⟨failure, refused⟩
    rw [refused] at decided
    cases decided

theorem customerRetentionBlockers_ok {report : RetentionBlockerReport}
    (reported : customerRetentionBlockers policies userId now store = .ok report) :
    Exists fun user => user ∈ store.users ∧ user.id = userId ∧
      policies.evaluate (retentionFacts user now store) = .ok report := by
  unfold customerRetentionBlockers at reported
  cases found : findUser userId store with
  | error failure =>
    rw [found] at reported
    cases reported
  | ok user =>
    rw [found] at reported
    simp only [bind, Except.bind] at reported
    split at reported
    · rename_i result evaluated
      cases reported
      exact ⟨user, (findUser_ok found).1, (findUser_ok found).2, evaluated⟩
    · cases reported

/-- A report is for a user that is free, or is one for a user under hold. -/
theorem report_free_or_held {report : RetentionBlockerReport}
    (reported : customerRetentionBlockers policies userId now store = .ok report) :
    Unheld store userId ∨
      Exists fun facts => facts.legalHold = true ∧ policies.evaluate facts = .ok report := by
  rcases customerRetentionBlockers_ok reported with ⟨user, member, rfl, evaluated⟩
  cases held : user.legalHoldAt with
  | none => exact Or.inl (Unheld.of_user member held)
  | some since =>
    refine Or.inr ⟨_, ?_, evaluated⟩
    simp only [retentionFacts, held, Option.isSome_some, Bool.true_or]

theorem prepare_deletion (refuses : policies.RefusesHeld) {request : LifecycleRequest}
    (prepared : prepare policies call request now store = .ok deed) (deletes : deed.deletes = true) :
    Unheld store call.userId ∨ deed.Doomed policies := by
  cases request with
  | requestPrivacyDeletion retentionExpiresAt =>
    simp only [prepare, bind, Except.bind] at prepared
    split at prepared
    · cases prepared
    · split at prepared
      · cases prepared
      · rename_i user found
        split at prepared
        · cases prepared
        · rename_i decision decided
          rcases findUser_ok found with ⟨member, sameId⟩
          left
          cases held : user.legalHoldAt with
          | none => exact sameId ▸ Unheld.of_user member held
          | some since =>
            rcases refuses.privacyDeletion
              ⟨user.role = .admin, user.legalHoldAt.isSome, retentionExpiresAt, now⟩
              (by simp only [held, Option.isSome_some]) with ⟨failure, refused⟩
            rw [refused] at decided
            cases decided
  | setLegalHold enabled reason =>
    simp only [prepare, bind, Except.bind] at prepared
    split at prepared
    · cases prepared
    · split at prepared
      · cases prepared
      · cases prepared
        cases deletes
  | pseudonymizeCustomer =>
    simp only [prepare, bind, Except.bind] at prepared
    split at prepared
    · cases prepared
    · rename_i report reported
      cases prepared
      exact report_free_or_held reported
  | markPurgeEligible =>
    simp only [prepare, bind, Except.bind] at prepared
    split at prepared
    · cases prepared
    · rename_i report reported
      split at prepared
      · cases prepared
      · rename_i decision decided
        cases prepared
        rcases report_free_or_held reported with free | ⟨facts, held, evaluated⟩
        · exact Or.inl free
        · rcases refuses.markPurgeEligible facts report held evaluated with ⟨failure, refused⟩
          rw [refused] at decided
          cases decided
  | executeFinalPurge confirmation =>
    simp only [prepare, bind, Except.bind] at prepared
    split at prepared
    · cases prepared
    · split at prepared
      · cases prepared
      · rename_i report reported
        cases prepared
        exact report_free_or_held reported

/-! ## Runs -/

/-- A step does not place a hold on a user whose deletion has been decided and
is yet to be written. -/
def Uncrossed (crowd : Crowd CustomerStore LifecyclePoint) :
    CrowdMove (LifecycleCall × LifecycleRequest) Time CustomerStore -> Prop
  | .advance process _ =>
    forall call enabled hold accountIds,
      crowd.processes process = some (.writing call (.legalHold enabled hold accountIds)) ->
      hold.legalHoldAt.isSome = true ->
      forall other otherCall deed, crowd.processes other = some (.writing otherCall deed) ->
        deed.deletes = true -> otherCall.userId ≠ call.userId
  | _ => True

/-- What is decided and not yet written is decided for a free user, or will
not be written. -/
def StillDecided (policies : CustomerPolicies) (store : CustomerStore) (_ : Nat) : LifecyclePoint -> Prop
  | .called _ _ => True
  | .writing call deed => deed.deletes = true -> Unheld store call.userId ∨ deed.Doomed policies

theorem lifecycle_outlined (refuses : policies.RefusesHeld) (keeps : policies.KeepsHolds) :
    (lifecycleProtocol policies).Outlined Uncrossed (fun _ => True) (StillDecided policies) where
  enters _ _ _ _ _ := trivial
  advances crowd process point now after later holds allows here advanced := by
    refine ⟨trivial, ?_⟩
    intro next isNext
    subst isNext
    cases point with
    | called call request =>
      simp only [lifecycleProtocol, advanceLifecycle] at advanced
      split at advanced
      · rename_i deed prepared
        cases advanced
        intro deletes
        exact prepare_deletion refuses prepared deletes
      · cases advanced
    | writing call deed =>
      simp only [lifecycleProtocol, advanceLifecycle] at advanced
      split at advanced
      · cases advanced
      · cases advanced
  spares crowd process point now after later holds allows here advanced other bystander different stands := by
    have assertion := holds.points other bystander stands
    cases bystander with
    | called otherCall request => trivial
    | writing otherCall deed =>
      intro deletes
      rcases assertion deletes with free | doomed
      · left
        cases point with
        | called call request =>
          simp only [lifecycleProtocol, advanceLifecycle] at advanced
          split at advanced
          · cases advanced
            exact free
          · cases advanced
            exact free
        | writing call mine =>
          simp only [lifecycleProtocol, advanceLifecycle] at advanced
          split at advanced
          · rename_i committed ran
            cases advanced
            intro row member sameId
            rcases commitDeed_users keeps ran member with ⟨old, oldMember, isOld, written⟩
            rcases written (free old oldMember (isOld.trans sameId)) with unchanged | ⟨mineId, enabled,
              hold, accountIds, isHold, isPlaced⟩
            · exact unchanged
            · subst isHold
              cases placed : hold.legalHoldAt with
              | none => rw [isPlaced, placed]
              | some since =>
                have spared := allows call enabled hold accountIds here
                  (by simp only [placed, Option.isSome_some]) other otherCall deed stands deletes
                exact absurd (sameId.symm.trans mineId) spared
          · cases advanced
            exact free
      · exact Or.inr doomed
  ambient crowd elsewhere after holds allows changed := by
    refine ⟨trivial, ?_⟩
    simp only [lifecycleProtocol] at changed
    split at changed
    · rename_i unplaced
      cases changed
      intro other bystander stands
      have assertion := holds.points other bystander stands
      cases bystander with
      | called otherCall request => trivial
      | writing otherCall deed =>
        intro deletes
        rcases assertion deletes with free | doomed
        · left
          intro row member sameId
          have everyRow := List.all_eq_true.mp unplaced row member
          simp only [Bool.or_eq_true, Option.isNone_iff_eq_none, List.any_eq_true, Bool.and_eq_true,
            decide_eq_true_eq] at everyRow
          rcases everyRow with isFree | ⟨old, oldMember, isOld, held⟩
          · exact isFree
          · have wasFree := free old oldMember (isOld.trans sameId)
            rw [wasFree] at held
            cases held
        · exact Or.inr doomed
    · cases changed

/-- As long as no hold is placed between the decision and the transaction of a
deletion step, no such step commits for a user under legal hold. -/
theorem holds_respected_of_uncrossed (refuses : policies.RefusesHeld) (keeps : policies.KeepsHolds)
    (store : CustomerStore) (moves : List (CrowdMove (LifecycleCall × LifecycleRequest) Time CustomerStore))
    (uncrossed : (lifecycleProtocol policies).machine.Admits Uncrossed (Crowd.opening store) moves) :
    HoldsRespected policies ((lifecycleProtocol policies).machine.run (Crowd.opening store) moves) := by
  intro process call deed now after stands deletes commits
  have holds := (lifecycle_outlined refuses keeps).run (Protocol.holds_opening trivial) uncrossed
  rcases holds.points process (.writing call deed) stands deletes with free | doomed
  · exact free
  · exact absurd commits (doomed.not_commits refuses)

/-! ## A hold that is not seen -/

/-- Policies that look at the hold and the confirmation only. -/
def plainPolicies : CustomerPolicies where
  evaluate facts := .ok ⟨facts.userId, if facts.legalHold then ["LEGAL_HOLD"] else [],
    !facts.legalHold, !facts.legalHold, !facts.legalHold⟩
  requestPrivacyDeletion facts := if facts.legalHold then .error ⟨"LEGAL_HOLD", []⟩ else .ok ()
  legalHold facts := .ok (if facts.enabled then ⟨some facts.now, facts.reason⟩ else ⟨none, none⟩)
  pseudonymize _ allowed blockers := if allowed then .ok () else .error ⟨"RETENTION_BLOCKED", blockers⟩
  markPurgeEligible allowed blockers := if allowed then .ok () else .error ⟨"RETENTION_BLOCKED", blockers⟩
  finalPurge facts :=
    if facts.confirmation = "PURGE " ++ facts.userId then
      if facts.canPurge then .ok () else .error ⟨"RETENTION_BLOCKED", facts.blockers⟩
    else .error ⟨"PURGE_CONFIRMATION_REQUIRED", []⟩
  planPrivacyCustomerMinimization userId email now :=
    { normalizedEmailHashSource := email
      emailOutboxUpdate := ⟨"removed+" ++ userId ++ "@privacy.invalid", .object []⟩
      userUpdate := fun user =>
        { user with
          email := "removed+" ++ userId ++ "@privacy.invalid"
          name := none
          emailVerified := none
          lifecycleState := .pseudonymized
          pseudonymizedAt := some now }
      customerAccountUpdate := fun account =>
        { account with lifecycleState := .pseudonymized, pseudonymizedAt := some now, taxId := none }
      auditAction := "CUSTOMER_PSEUDONYMIZED"
      auditTargetType := "User"
      auditMetadata := .object [] }
  hmacSha256 text := text

theorem plainPolicies_refusesHeld : plainPolicies.RefusesHeld where
  privacyDeletion facts held := by simp only [plainPolicies, held, if_true, Except.error.injEq, exists_eq']
  pseudonymize facts report state held evaluated := by
    simp only [plainPolicies, held, Except.ok.injEq] at evaluated
    subst evaluated
    exact ⟨_, rfl⟩
  markPurgeEligible facts report held evaluated := by
    simp only [plainPolicies, held, Except.ok.injEq] at evaluated
    subst evaluated
    exact ⟨_, rfl⟩
  finalPurge facts report userId confirmation state held evaluated := by
    simp only [plainPolicies, held, Except.ok.injEq] at evaluated
    subst evaluated
    simp only [plainPolicies]
    split
    · exact ⟨_, rfl⟩
    · exact ⟨_, rfl⟩

theorem plainPolicies_keepsHolds : plainPolicies.KeepsHolds :=
  fun _ _ _ _ => ⟨rfl, fun free => free⟩

/-- A customer who may be purged, and has nothing that must be kept. -/
def purgeableStore : CustomerStore where
  __ := CustomerStore.empty
  users := ⟨[{ id := "user", email := "user@example.test", name := none, emailVerified := none
               role := .customer, suspendedAt := none, lifecycleState := .purgeEligible
               privacyRequestedAt := none, pseudonymizedAt := none, retentionExpiresAt := none
               legalHoldAt := none, legalHoldReason := none, emailHash := none }],
    List.pairwise_singleton _ _⟩

def purgeableCall (request : LifecycleRequest) : LifecycleCall × LifecycleRequest :=
  (⟨"user", "admin"⟩, request)

/-- A deletion step is decided; a hold is placed; the step is about to write. -/
def crossedBy (request : LifecycleRequest) :
    List (CrowdMove (LifecycleCall × LifecycleRequest) Time CustomerStore) :=
  [.start 0 (purgeableCall request), .advance 0 1,
    .start 1 (purgeableCall (.setLegalHold true (some "dispute"))), .advance 1 2, .advance 1 3]

/-- The process is about to commit a deletion step of a user under hold. -/
def defiesHold (policies : CustomerPolicies) (crowd : Crowd CustomerStore LifecyclePoint)
    (process : Nat) (now : Time) : Bool :=
  match crowd.processes process with
  | some (.writing call deed) =>
    deed.deletes && ((commitDeed policies call now deed).run crowd.store).isOk &&
      crowd.store.users.rows.any fun user => user.id = call.userId && user.legalHoldAt.isSome
  | _ => false

theorem not_respected_of_defied {crowd : Crowd CustomerStore LifecyclePoint} (process : Nat) (now : Time)
    (defied : defiesHold policies crowd process now = true) : ¬ HoldsRespected policies crowd := by
  intro respected
  unfold defiesHold at defied
  split at defied
  · rename_i call deed stands
    rw [Bool.and_eq_true, Bool.and_eq_true, List.any_eq_true] at defied
    rcases defied with ⟨⟨deletes, runs⟩, user, member, isUser⟩
    rw [Bool.and_eq_true, decide_eq_true_eq] at isUser
    cases ran : (commitDeed policies call now deed).run crowd.store with
    | error failure =>
      rw [ran] at runs
      cases runs
    | ok pair =>
      have free := respected process call deed now pair.2 stands deletes ran user member isUser.1
      rw [free] at isUser
      exact absurd isUser.2 Bool.false_ne_true
  · cases defied

/-- Every one of the deletion steps can be crossed by a hold, and still commits. -/
theorem hold_defied_by_crossedDeletion : plainPolicies.RefusesHeld ∧ plainPolicies.KeepsHolds ∧
    forall request, request ∈ [.requestPrivacyDeletion 9, .pseudonymizeCustomer, .markPurgeEligible,
        .executeFinalPurge "PURGE user"] ->
      ¬ HoldsRespected plainPolicies
        ((lifecycleProtocol plainPolicies).machine.run (Crowd.opening purgeableStore) (crossedBy request)) := by
  refine ⟨plainPolicies_refusesHeld, plainPolicies_keepsHolds, ?_⟩
  intro request member
  apply not_respected_of_defied 0 4
  simp only [List.mem_cons, List.not_mem_nil, or_false] at member
  rcases member with rfl | rfl | rfl | rfl
  · decide +kernel
  · decide +kernel
  · decide +kernel
  · decide +kernel

/-- A hold is placed; then the deletion of the user is attempted. -/
def placedFirst : List (CrowdMove (LifecycleCall × LifecycleRequest) Time CustomerStore) :=
  [.start 1 (purgeableCall (.setLegalHold true (some "dispute"))), .advance 1 1, .advance 1 2,
    .start 0 (purgeableCall .pseudonymizeCustomer), .advance 0 3]

theorem holds_respected_of_uncrossed_placedFirst :
    HoldsRespected plainPolicies
      ((lifecycleProtocol plainPolicies).machine.run (Crowd.opening purgeableStore) placedFirst) := by
  refine holds_respected_of_uncrossed plainPolicies_refusesHeld plainPolicies_keepsHolds _ _
    ⟨trivial, ?_, ?_, trivial, ?_, trivial⟩
  · intro call enabled hold accountIds here
    cases here
  · intro call enabled hold accountIds here placed other otherCall deed stands deletes
    by_cases same : other = 1
    · subst same
      cases stands
      cases deletes
    · change Function.update (Function.update (fun _ => none) 1 _) 1 _ other = _ at stands
      rw [Function.update_of_ne same, Function.update_of_ne same] at stands
      cases stands
  · intro call enabled hold accountIds here
    cases here

end Accounts
end DigitalSolutions

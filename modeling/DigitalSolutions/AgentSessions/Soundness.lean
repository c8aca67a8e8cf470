import DigitalSolutions.AgentSessions.Motions

namespace DigitalSolutions
namespace AgentSessions

open Foundation Persistence

/-!
# What holds in every state

The CHECK constraints of the authorizations, the window of a bundle and the
approval before expiry are facts about single rows; the ties between
authorizations and sessions are facts about the store.  All of it holds
whatever is interleaved, the revocations at read committed included.
-/

variable {now : Time} {approver created : Option Id}
variable {row : AgentDeviceAuthorization} {store : AgentSessionStore}

/-! ## Single rows -/

/-- A user has approved the authorization before it expired. -/
def Approved (row : AgentDeviceAuthorization) : Prop :=
  row.approvedAccountId.isSome = true ∧
    Exists fun userId => Exists fun approvedAt => row.approvedByUserId = some userId ∧
      row.approvedAt = some approvedAt ∧ approvedAt < row.expiresAt

/-- The CHECK constraints of an authorization, and what its columns record. -/
structure Grounded (row : AgentDeviceAuthorization) : Prop where
  pending : row.status = .pending -> row.approvedByUserId = none ∧ row.approvedAccountId = none ∧
    row.approvedAt = none ∧ row.deniedAt = none ∧ row.consumedAt = none ∧ row.sessionId = none
  approved : row.status = .approved ∨ row.status = .consumed -> Approved row
  denied : row.status = .denied -> row.deniedAt.isSome = true
  consumed : row.status = .consumed -> row.consumedAt.isSome = true ∧
    row.sessionId.isSome = true
  pollInterval : 2 ≤ row.pollIntervalSeconds ∧ row.pollIntervalSeconds ≤ 60
  bundle : row.tokenBundleCiphertext.isSome = true -> row.status = .consumed ∧
    Exists fun consumedAt => row.consumedAt = some consumedAt ∧
      row.handoffExpiresAt = some (consumedAt + handoffTtl)

theorem grounded_fresh (fresh : FreshAuthorization now approver row) : Grounded row := by
  cases fresh with
  | started draw device deviceCodeHash userCodeHash =>
    have bounds : 2 ≤ pollIntervalSeconds ∧ pollIntervalSeconds ≤ 60 := by decide
    refine ⟨fun _ => ⟨rfl, rfl, rfl, rfl, rfl, rfl⟩, ?_, ?_, ?_, bounds, ?_⟩
    · rintro (status | status) <;> cases status
    · intro status
      cases status
    · intro status
      cases status
    · intro sealed
      cases sealed
  | issued draw device principalId accountId deviceCodeHash userCodeHash approves =>
    have unlapsed : now < now + nativeHandoffTtl := Int.lt_add_of_pos_right now (by decide)
    have bounds : 2 ≤ 2 ∧ 2 ≤ 60 := by decide
    refine ⟨?_, fun _ => ⟨rfl, principalId, now, rfl, rfl, unlapsed⟩, ?_, ?_, bounds, ?_⟩
    · intro status
      cases status
    · intro status
      cases status
    · intro status
      cases status
    · intro sealed
      cases sealed

/-- An unconsumed row has no bundle. -/
theorem Grounded.unsealed (grounded : Grounded row) (unconsumed : row.status ≠ .consumed) :
    row.tokenBundleCiphertext = none := by
  by_contra sealed
  exact unconsumed (grounded.bundle (Option.isSome_iff_ne_none.mpr sealed)).1

theorem Grounded.move {old : AgentDeviceAuthorization} (grounded : Grounded old)
    (move : AuthorizationMove now approver created old row) : Grounded row := by
  cases move with
  | stayed => exact grounded
  | polled interval pending chosen =>
    refine ⟨grounded.pending, grounded.approved, grounded.denied, grounded.consumed, ?_,
      grounded.bundle⟩
    have bounds := grounded.pollInterval
    change 2 ≤ interval ∧ interval ≤ 60
    rcases chosen with rfl | rfl
    · exact bounds
    · omega
  | expired unsettled ciphertext less =>
    have unconsumed : old.status ≠ .consumed := by
      intro consumed
      simp [consumed] at unsettled
    have unsealed : ciphertext = none := by
      rcases less with rfl | rfl
      · exact grounded.unsealed unconsumed
      · rfl
    subst unsealed
    refine ⟨?_, ?_, ?_, ?_, grounded.pollInterval, ?_⟩
    · intro status
      cases status
    · rintro (status | status) <;> cases status
    · intro status
      cases status
    · intro status
      cases status
    · intro sealed
      cases sealed
  | approved principalId accountId approves pending unlapsed =>
    have unconsumed : old.status ≠ .consumed := by
      rw [pending]
      decide
    have unsealed := grounded.unsealed unconsumed
    refine ⟨?_, fun _ => ⟨rfl, principalId, now, rfl, rfl, unlapsed⟩, ?_, ?_, grounded.pollInterval,
      ?_⟩
    · intro status
      cases status
    · intro status
      cases status
    · intro status
      cases status
    · intro sealed
      rw [unsealed] at sealed
      cases sealed
  | denied unsettled deniedAt ciphertext less handoffExpiresAt =>
    have unconsumed : old.status ≠ .consumed := by
      intro consumed
      simp [consumed] at unsettled
    have unsealed : ciphertext = none := by
      rcases less with rfl | rfl
      · exact grounded.unsealed unconsumed
      · rfl
    subst unsealed
    refine ⟨?_, ?_, fun _ => rfl, ?_, grounded.pollInterval, ?_⟩
    · intro status
      cases status
    · rintro (status | status) <;> cases status
    · intro status
      cases status
    · intro sealed
      cases sealed
  | consumed sessionId ciphertext creates approved unlapsed =>
    refine ⟨?_, fun _ => grounded.approved (Or.inl approved), ?_, fun _ => ⟨rfl, rfl⟩,
      grounded.pollInterval, fun _ => ⟨rfl, now, rfl, rfl⟩⟩
    · intro status
      cases status
    · intro status
      cases status
  | closed handoffExpiresAt =>
    refine ⟨grounded.pending, grounded.approved, grounded.denied, grounded.consumed,
      grounded.pollInterval, ?_⟩
    intro sealed
    cases sealed

/-! ## The store -/

/-- A bundle is handed out anew only by the transaction that creates its
session. -/
theorem AuthorizationMove.bundle {old : AgentDeviceAuthorization}
    (move : AuthorizationMove now approver created old row) :
    row.tokenBundleCiphertext = old.tokenBundleCiphertext ∨ row.tokenBundleCiphertext = none ∨
      (row.sessionId.isSome = true ∧ row.sessionId = created) := by
  cases move with
  | stayed => exact Or.inl rfl
  | polled interval pending chosen => exact Or.inl rfl
  | expired unsettled ciphertext less =>
    rcases less with rfl | rfl
    · exact Or.inl rfl
    · exact Or.inr (Or.inl rfl)
  | approved principalId accountId approves pending unlapsed => exact Or.inl rfl
  | denied unsettled deniedAt ciphertext less handoffExpiresAt =>
    rcases less with rfl | rfl
    · exact Or.inl rfl
    · exact Or.inr (Or.inl rfl)
  | consumed sessionId ciphertext creates approved unlapsed =>
    exact Or.inr (Or.inr ⟨rfl, creates.symm⟩)
  | closed handoffExpiresAt => exact Or.inr (Or.inl rfl)

/-- A silent session stays silent, since it is not created again. -/
theorem Silent.kept {sessionId : Id} {before after : Table AgentDeviceAuthorization}
    (silent : Silent sessionId before) (moved : AuthorizationsMoved now approver created before after)
    (uncreated : created ≠ some sessionId) : Silent sessionId after := by
  intro row member named
  rcases moved.origin row member with ⟨old, oldMember, move⟩ | ⟨fresh, _⟩
  · have sameSession : old.sessionId = some sessionId := by
      rcases move.sessionId with same | ⟨_, isCreated, _⟩
      · exact same.symm.trans named
      · exact absurd (isCreated.symm.trans named) uncreated
    rcases move.bundle with same | unsealed | ⟨_, isCreated⟩
    · exact same.trans (silent old oldMember sameSession)
    · exact unsealed
    · exact absurd (isCreated.symm.trans named) uncreated
  · cases fresh with
    | started => rfl
    | issued => rfl

/-- What holds of the store in every state. -/
structure SoundStore (store : AgentSessionStore) : Prop where
  grounded : forall row, row ∈ store.authorizations -> Grounded row
  linked : Linked store
  owned : FamiliesOwned store.families
  quiet : forall session, session ∈ store.sessions -> Spent session ->
    Silent session.id store.authorizations

theorem soundStore_empty : SoundStore AgentSessionStore.empty where
  grounded row member := absurd member (Table.not_mem_empty row)
  linked := ⟨fun row member => absurd member (Table.not_mem_empty row),
    fun row member => absurd member (Table.not_mem_empty row)⟩
  owned := familiesOwned_empty
  quiet session member := absurd member (Table.not_mem_empty session)

theorem SoundStore.effect {before after : AgentSessionStore} (sound : SoundStore before)
    (effect : StoreEffect now approver created before after) : SoundStore after := by
  refine ⟨?_, effect.linked sound.linked, sound.owned.grow effect.grow, ?_⟩
  · intro row member
    rcases effect.authorizations.origin row member with ⟨old, oldMember, move⟩ | ⟨fresh, _⟩
    · exact (sound.grounded old oldMember).move move
    · exact grounded_fresh fresh
  · intro session member spent
    rcases effect.silences sound.linked session member spent with
      silent | ⟨old, oldMember, sameId, oldSpent⟩
    · exact silent
    · have uncreated : created ≠ some old.id := fun creates => effect.fresh old.id creates old oldMember rfl
      exact sameId ▸ (sound.quiet old oldMember oldSpent).kept effect.authorizations uncreated

/-! ## Revocations at read committed -/

theorem revokes_applyRevocation (revocation : UserRevocation) (sessions : List Id)
    (store : AgentSessionStore) :
    Revokes revocation.startedAt (fun session => session.id ∈ sessions)
      (fun token => token.id ∈ revocation.tokens) store.families
      (applyRevocation revocation sessions store).families :=
  ⟨rfl, rfl⟩

/-- A revocation at read committed reaches only sessions of its user. -/
theorem effect_applyRevocation {revocation : UserRevocation} {sessions : List Id}
    (ofUser : forall id, id ∈ sessions -> Exists fun session => session ∈ store.sessions ∧
      session.id = id ∧ session.userId = revocation.userId) :
    StoreEffect now approver none store (applyRevocation revocation sessions store) := by
  have moved : AuthorizationsMoved now approver none store.authorizations
      (applyRevocation revocation sessions store).authorizations :=
    moved_closeAuthorizations revocation.userId revocation.startedAt
  refine StoreEffect.of_revokes moved (revokes_applyRevocation revocation sessions store) ?_
  intro linked old oldMember chosen
  rcases ofUser old.id (of_decide_eq_true chosen) with ⟨session, member, sameId, user⟩
  have same := session_of_id member oldMember sameId
  subst same
  exact linked.silent_closeAuthorizations rfl oldMember user

/-- The sessions that the revocations under way have read are sessions of
their users. -/
def ReadOfUser (state : AgentState) : Prop :=
  forall process revocation sessions, state.revocations process = some revocation ->
    revocation.sessions = some sessions -> forall id, id ∈ sessions ->
    Exists fun session => session ∈ state.store.sessions ∧ session.id = id ∧
      session.userId = revocation.userId

theorem mem_sessionsOf {userId id : Id} (member : id ∈ sessionsOf userId store) : Exists fun session =>
      session ∈ store.sessions ∧ session.id = id ∧ session.userId = userId := by
  rcases List.mem_map.mp member with ⟨session, selected, sameId⟩
  rcases store.sessions.mem_select.mp selected with ⟨present, ofUser⟩
  exact ⟨session, present, sameId, of_decide_eq_true ofUser⟩

/-- What a revocation has read stays as sessions grow. -/
theorem ReadOfUser.grow {state : AgentState} (read : ReadOfUser state)
    (grow : FamiliesGrow state.store.families store.families) {process : Nat}
    {revocation : UserRevocation} {sessions : List Id}
    (stands : state.revocations process = some revocation) (chosen : revocation.sessions = some sessions)
    {id : Id} (member : id ∈ sessions) :
    Exists fun session => session ∈ store.sessions ∧ session.id = id ∧
      session.userId = revocation.userId := by
  rcases read process revocation sessions stands chosen id member with
    ⟨old, oldMember, sameId, user⟩
  rcases grow.sessions old oldMember with ⟨session, sessionMember, move⟩
  exact ⟨session, sessionMember, (congrArg SessionTerms.id move.terms).trans sameId,
    (congrArg SessionTerms.userId move.terms).trans user⟩

/-- What holds in every state. -/
structure Sound (state : AgentState) : Prop where
  store : SoundStore state.store
  read : ReadOfUser state

namespace Sound

variable {state next : AgentState} {action : AgentAction} {answer : AgentAnswer}

theorem of_opening (opening : state.Opening) : Sound state where
  store := opening.store ▸ soundStore_empty
  read process revocation sessions stands := by
    rw [opening.idle process] at stands
    cases stands

/-- Setting one revocation keeps what the others have read. -/
theorem read_set (sound : Sound state) {process : Nat} {revocation : Option UserRevocation}
    (reads : forall other sessions, revocation = some other -> other.sessions = some sessions ->
      forall id, id ∈ sessions -> Exists fun session => session ∈ state.store.sessions ∧
        session.id = id ∧ session.userId = other.userId) :
    ReadOfUser (state.setRevocation process revocation) := by
  intro other standing sessions stands chosen id member
  rcases eq_some_of_update rfl stands with ⟨_, same⟩ | ⟨_, before⟩
  · exact reads standing sessions same chosen id member
  · exact sound.read other standing sessions before chosen id member

theorem motion (sound : Sound state) (motion : AgentMotion state action answer next) : Sound next := by
  cases motion with
  | transaction answer created store directory effect answered =>
    refine ⟨sound.store.effect effect.toStoreEffect, ?_⟩
    intro process revocation sessions stands chosen id member
    exact sound.read.grow effect.grow stands chosen member
  | environment now directory forward => exact ⟨sound.store, sound.read⟩
  | began process userId =>
    refine ⟨sound.store, sound.read_set (fun other sessions same chosen => ?_)⟩
    cases same
    cases chosen
  | read process revocation stands =>
    refine ⟨sound.store, sound.read_set (fun other sessions same chosen id member => ?_)⟩
    cases same
    cases chosen
    exact mem_sessionsOf member
  | committed process revocation sessions commits stands chosen =>
    have effect : StoreEffect state.now action.approver none state.store
        (applyRevocation revocation sessions state.store) :=
      effect_applyRevocation (sound.read process revocation sessions stands chosen)
    refine ⟨sound.store.effect effect, ?_⟩
    intro other standing read otherStands otherChosen id member
    rcases eq_some_of_update rfl otherStands with ⟨_, none'⟩ | ⟨_, before⟩
    · cases none'
    · exact sound.read.grow effect.grow before otherChosen member
  | abandoned process =>
    refine ⟨sound.store, sound.read_set (fun other sessions same => ?_)⟩
    cases same

/-- What an action does to the store, the revocations at read committed
included. -/
theorem effect (sound : Sound state) (motion : AgentMotion state action answer next) :
    Exists fun created => StoreEffect state.now action.approver created state.store next.store := by
  cases motion with
  | transaction answer created store directory effect answered => exact ⟨created, effect.toStoreEffect⟩
  | committed process revocation sessions commits stands chosen =>
    exact ⟨none, effect_applyRevocation (sound.read process revocation sessions stands chosen)⟩
  | _ => exact ⟨none, (SessionEffect.refl state.store).toStoreEffect⟩

/-- No session and no token is removed. -/
theorem grow (sound : Sound state) (motion : AgentMotion state action answer next) :
    FamiliesGrow state.store.families next.store.families := by
  rcases sound.effect motion with ⟨created, effect⟩
  exact effect.grow

variable {platform : SessionPlatform}

/-- Every state of a run is sound. -/
theorem run (sound : Sound state) (actions : List AgentAction) :
    Sound ((agentMachine platform).run state actions) := by
  have keeps : forall state action next, Sound state ->
      (agentMachine platform).step state action = .ok next -> Sound next := by
    intro state action next sound accepted
    rcases motion_of_step accepted with ⟨answer, motion⟩
    exact sound.motion motion
  exact Machine.run_invariant keeps sound actions

/-- A run removes no session and no token. -/
theorem grow_run (sound : Sound state) (actions : List AgentAction) :
    FamiliesGrow state.store.families
      ((agentMachine platform).run state actions).store.families := by
  have keeps : forall current action next,
      Sound current ∧ FamiliesGrow state.store.families current.store.families ->
      (agentMachine platform).step current action = .ok next ->
      Sound next ∧ FamiliesGrow state.store.families next.store.families := by
    rintro current action next ⟨sound, grown⟩ accepted
    rcases motion_of_step accepted with ⟨answer, motion⟩
    exact ⟨sound.motion motion, grown.trans (sound.grow motion)⟩
  exact (Machine.run_invariant keeps ⟨sound, FamiliesGrow.refl _⟩ actions).2

end Sound

end AgentSessions
end DigitalSolutions

import DigitalSolutions.AgentSessions.System

namespace DigitalSolutions
namespace AgentSessions

open Foundation Persistence

/-!
# What one accepted action does

An accepted action runs one transaction on the store, moves the environment,
or is one step of a revocation at read committed.
-/

variable {store before : AgentSessionStore}

/-- For whom an action may approve an authorization. -/
def AgentAction.approver : AgentAction -> Option Id
  | .approve input => some input.principalId
  | .issueHandoff _ input => some input.principal.id
  | _ => none

/-- The session that an answer vouches for: a token of it has been accepted. -/
def AgentAnswer.vouchesFor : AgentAnswer -> Option Id
  | .refreshed (.refreshed bundle) => some bundle.sessionId
  | .authenticated (.authenticated agent) => some agent.sessionId
  | .acknowledged (.acknowledged sessionId) => some sessionId
  | .passwordChanged (.changed agent) => some agent.sessionId
  | _ => none

/-- The session whose hand-off is over with the answer. -/
def AgentAnswer.endsHandoffOf : AgentAnswer -> Option Id
  | .refreshed (.refreshed bundle) => some bundle.sessionId
  | .acknowledged (.acknowledged sessionId) => some sessionId
  | .revoked (.revoked sessionId) => some sessionId
  | _ => none

/-- What an answer says about the store before and after the transaction. -/
structure AnswerSound (answer : AgentAnswer) (before after : AgentSessionStore) : Prop where
  vouches : forall sessionId, answer.vouchesFor = some sessionId -> Exists fun session =>
    session ∈ before.sessions ∧ session.id = sessionId ∧ session.revokedAt = none
  silent : forall sessionId, answer.endsHandoffOf = some sessionId ->
    Silent sessionId after.authorizations
  known : FamiliesOwned before.families -> forall sessionId,
    answer.endsHandoffOf = some sessionId -> Exists fun session =>
    session ∈ before.sessions ∧ session.id = sessionId

inductive AgentMotion (state : AgentState) (action : AgentAction) : AgentAnswer -> AgentState -> Prop
  | transaction (answer : AgentAnswer) (created : Option Id) (store : AgentSessionStore)
    (directory : Directory)
    (effect : SessionEffect state.now action.approver created state.store store)
    (sound : AnswerSound answer state.store store) :
    AgentMotion state action answer { state with store, directory }
  | environment (now : Time) (directory : Directory) (forward : state.now ≤ now) :
    AgentMotion state action .done { state with now, directory }
  | began (process : Nat) (userId : Id) :
    AgentMotion state action .done
      (state.setRevocation process (some ⟨userId, state.now, tokensOf userId state.store, none⟩))
  | read (process : Nat) (revocation : UserRevocation)
    (stands : state.revocations process = some revocation) :
    AgentMotion state action .done (state.setRevocation process
      (some { revocation with sessions := some (sessionsOf revocation.userId state.store) }))
  | committed (process : Nat) (revocation : UserRevocation) (sessions : List Id)
    (commits : action = .commitRevocation process)
    (stands : state.revocations process = some revocation)
    (chosen : revocation.sessions = some sessions) :
    AgentMotion state action .done
      { state.setRevocation process none with
        store := applyRevocation revocation sessions state.store }
  | abandoned (process : Nat) : AgentMotion state action .done (state.setRevocation process none)

/-- An answer that neither vouches for a session nor ends a hand-off. -/
theorem AnswerSound.of_mute {answer : AgentAnswer} {after : AgentSessionStore}
    (vouches : answer.vouchesFor = none) (ends : answer.endsHandoffOf = none) :
    AnswerSound answer before after := by
  constructor
  · intro sessionId vouched
    rw [vouches] at vouched
    cases vouched
  · intro sessionId ended
    rw [ends] at ended
    cases ended
  · intro _ sessionId ended
    rw [ends] at ended
    cases ended

/-- Whom an authentication vouches for. -/
theorem Authenticated.vouches {platform : SessionPlatform} {now : Time} {input : AccessInput}
    {agent : AuthenticatedAgent} (found : Authenticated platform now input before agent) {sessionId : Id}
    (same : some agent.sessionId = some sessionId) : Exists fun session =>
      session ∈ before.sessions ∧ session.id = sessionId ∧ session.revokedAt = none := by
  rcases found.session with ⟨session, member, sameId, _, unrevoked, _⟩
  exact ⟨session, member, sameId.trans (Option.some.inj same), unrevoked⟩

section Transactions

variable {state next : AgentState} {Result : Type} {answer : Result -> AgentAnswer}
variable {given : AgentAnswer}

/-- An action that runs one transaction on the store. -/
theorem commits_onStore {run : AgentState -> SessionTx AgentSessionStore Result}
    (performs : (do
      let state <- get
      let result <- (run state).within AgentState.storePart
      return answer result : SessionTx AgentState AgentAnswer).Commits state given next) :
    Exists fun result => Exists fun store => (run state).Commits state.store result store ∧
      given = answer result ∧ next = { state with store } := by
  simp only [Transaction.commits_bind, Transaction.commits_get, Transaction.commits_within,
    Transaction.commits_pure] at performs
  rcases performs with ⟨_, _, ⟨rfl, rfl⟩, result, _, ⟨store, commits, rfl⟩, rfl, rfl⟩
  exact ⟨result, store, commits, rfl, rfl⟩

end Transactions

/-- An answer that vouches for a session and leaves its hand-off alone. -/
theorem AnswerSound.of_vouching {platform : SessionPlatform} {now : Time} {input : AccessInput}
    {after : AgentSessionStore} {agent : AuthenticatedAgent} {answer : AgentAnswer}
    (found : Authenticated platform now input before agent)
    (vouches : answer.vouchesFor = some agent.sessionId) (ends : answer.endsHandoffOf = none) :
    AnswerSound answer before after := by
  constructor
  · intro sessionId vouched
    exact found.vouches (vouches.symm.trans vouched)
  · intro sessionId ended
    rw [ends] at ended
    cases ended
  · intro _ sessionId ended
    rw [ends] at ended
    cases ended

variable {platform : SessionPlatform} {state next : AgentState} {action : AgentAction}
variable {answer : AgentAnswer}

theorem answerSound_refreshed {draw : SessionDraw -> String} {input : RefreshInput}
    {result : RefreshResult}
    (commits : (refreshAgentAccountSession platform state.directory ⟨state.now, draw⟩ input).Commits
      state.store result store) : AnswerSound (.refreshed result) state.store store := by
  cases result with
  | refreshed bundle =>
    have refreshed := (refreshAgentAccountSession_outcome commits).2 bundle rfl
    constructor
    · intro sessionId vouched
      rcases refreshed.session with ⟨session, member, sameId, unrevoked⟩
      exact ⟨session, member, sameId.trans (Option.some.inj vouched), unrevoked⟩
    · intro sessionId ended
      cases ended
      exact refreshed.silent
    · intro _ sessionId ended
      cases ended
      rcases refreshed.session with ⟨session, member, sameId, _⟩
      exact ⟨session, member, sameId⟩
  | invalidGrant => exact AnswerSound.of_mute rfl rfl
  | replayDetected => exact AnswerSound.of_mute rfl rfl

theorem answerSound_acknowledged {input : AccessInput} {result : AcknowledgeResult}
    (commits : (acknowledgeAgentSessionHandoff platform state.directory state.now input).Commits
      state.store result store) : AnswerSound (.acknowledged result) state.store store := by
  cases result with
  | acknowledged acknowledgedId =>
    rcases (acknowledgeAgentSessionHandoff_outcome commits).2 acknowledgedId rfl with
      ⟨silent, agent, sameId, found⟩
    constructor
    · intro sessionId vouched
      exact found.vouches ((congrArg some sameId).trans vouched)
    · intro sessionId ended
      cases ended
      exact silent
    · intro _ sessionId ended
      rcases found.vouches ((congrArg some sameId).trans ended) with ⟨session, member, same, _⟩
      exact ⟨session, member, same⟩
  | invalidToken => exact AnswerSound.of_mute rfl rfl

theorem answerSound_revoked {input : RefreshInput} {result : RevokeResult}
    (commits : (revokeAgentAccountSession platform state.now input).Commits state.store result store) :
    AnswerSound (.revoked result) state.store store := by
  cases result with
  | revoked revokedId =>
    rcases (revokeAgentAccountSession_outcome commits).2 revokedId rfl with
      ⟨silent, token, member, sameId⟩
    constructor
    · intro sessionId vouched
      cases vouched
    · intro sessionId ended
      cases ended
      exact silent
    · intro owned sessionId ended
      cases ended
      rcases owned token member with ⟨session, sessionMember, ownerId, _⟩
      exact ⟨session, sessionMember, ownerId.trans sameId⟩
  | notFound => exact AnswerSound.of_mute rfl rfl

theorem answerSound_passwordChanged {input : PasswordChangeInput} {result : PasswordChangeResult}
    (commits : (changeAgentPassword platform state.directory state.now input).Commits state.store
      result store) : AnswerSound (.passwordChanged result) state.store store := by
  cases result with
  | changed agent =>
    exact AnswerSound.of_vouching ((changeAgentPassword_outcome commits).2 agent rfl) rfl rfl
  | invalidToken => exact AnswerSound.of_mute rfl rfl
  | invalidCredentials => exact AnswerSound.of_mute rfl rfl
  | passwordProviderUnavailable => exact AnswerSound.of_mute rfl rfl

theorem motion_of_commits (performs : (perform platform action).Commits state answer next) :
    AgentMotion state action answer next := by
  cases action with
  | start draw input =>
    rcases commits_onStore performs with ⟨result, store, commits, rfl, rfl⟩
    exact .transaction _ none store state.directory (startAgentDeviceAuthorization_effect commits)
      (.of_mute rfl rfl)
  | approve input =>
    rcases commits_onStore performs with ⟨result, store, commits, rfl, rfl⟩
    exact .transaction _ none store state.directory (approveAgentDeviceAuthorization_effect commits)
      (.of_mute rfl rfl)
  | poll draw input =>
    rcases commits_onStore performs with ⟨result, store, commits, rfl, rfl⟩
    rcases pollAgentDeviceAuthorization_outcome commits with
      ⟨rfl, _⟩ | ⟨deviceCodeHash, authorization, _, _, outcome, _⟩
    · exact .transaction _ none state.store state.directory (SessionEffect.refl state.store)
        (.of_mute rfl rfl)
    · rcases outcome.effect with ⟨created, effect⟩
      exact .transaction _ created store state.directory effect (.of_mute rfl rfl)
  | refresh draw input =>
    rcases commits_onStore performs with ⟨result, store, commits, rfl, rfl⟩
    exact .transaction _ none store state.directory (refreshAgentAccountSession_outcome commits).1
      (answerSound_refreshed commits)
  | authenticate input =>
    rcases commits_onStore performs with ⟨result, store, commits, rfl, rfl⟩
    rcases authenticateAgentAccessToken_outcome commits with ⟨rfl, effect⟩ | ⟨agent, rfl, rfl, found⟩
    · exact .transaction _ none store state.directory effect (.of_mute rfl rfl)
    · exact .transaction _ none _ state.directory (effect_noteSeen agent.sessionId state.store)
        (.of_vouching found rfl rfl)
  | acknowledge input =>
    rcases commits_onStore performs with ⟨result, store, commits, rfl, rfl⟩
    exact .transaction _ none store state.directory
      (acknowledgeAgentSessionHandoff_outcome commits).1 (answerSound_acknowledged commits)
  | revoke input =>
    rcases commits_onStore performs with ⟨result, store, commits, rfl, rfl⟩
    exact .transaction _ none store state.directory (revokeAgentAccountSession_outcome commits).1
      (answerSound_revoked commits)
  | cancel input =>
    rcases commits_onStore performs with ⟨result, store, commits, rfl, rfl⟩
    exact .transaction _ none store state.directory
      (cancelAgentDeviceAuthorization_outcome commits).1 (.of_mute rfl rfl)
  | issueHandoff draw input =>
    rcases commits_onStore performs with ⟨result, store, commits, rfl, rfl⟩
    exact .transaction _ none store state.directory (issueNativeBkeAgentHandoff_effect commits)
      (.of_mute rfl rfl)
  | markRecent input =>
    rcases commits_onStore performs with ⟨result, store, commits, rfl, rfl⟩
    exact .transaction _ none store state.directory
      (markAgentSessionRecentlyAuthenticated_effect commits) (.of_mute rfl rfl)
  | changePassword input =>
    simp only [perform, Transaction.commits_bind, Transaction.commits_get,
      Transaction.commits_within] at performs
    rcases performs with ⟨_, _, ⟨rfl, rfl⟩, result, _, ⟨store, commits, rfl⟩, performs⟩
    have effect := (changeAgentPassword_outcome commits).1
    have sound := answerSound_passwordChanged commits
    split at performs
    · rename_i agent
      simp only [Transaction.commits_bind, Transaction.commits_modify, Transaction.commits_pure]
        at performs
      rcases performs with ⟨_, _, rfl, rfl, rfl⟩
      exact .transaction _ none store
        (state.directory.withChangedPassword agent.userId state.now) effect sound
    · rcases Transaction.commits_pure.mp performs with ⟨rfl, rfl⟩
      exact .transaction _ none store state.directory effect sound
  | changeDirectory directory =>
    simp only [perform, Transaction.commits_bind, Transaction.commits_modify,
      Transaction.commits_pure] at performs
    rcases performs with ⟨_, _, rfl, rfl, rfl⟩
    exact .environment state.now directory (Int.le_refl _)
  | pass elapsed =>
    simp only [perform, Transaction.commits_bind, Transaction.commits_modify,
      Transaction.commits_pure] at performs
    rcases performs with ⟨_, _, rfl, rfl, rfl⟩
    exact .environment (state.now + elapsed) state.directory (Int.le_add_of_nonneg_right (by simp))
  | beginRevocation process userId =>
    simp only [perform, Transaction.commits_bind, Transaction.commits_get] at performs
    rcases performs with ⟨_, _, ⟨rfl, rfl⟩, performs⟩
    rcases Transaction.commits_ite.mp performs with ⟨_, performs⟩ | ⟨_, performs⟩
    · simp only [Transaction.commits_bind, Transaction.not_commits_throw, false_and, exists_false]
        at performs
    · simp only [Transaction.commits_bind, Transaction.commits_set, Transaction.commits_pure] at performs
      rcases performs with ⟨_, _, rfl, rfl, rfl⟩
      exact .began process userId
  | readSessions process =>
    simp only [perform, Transaction.commits_bind, Transaction.commits_get,
      Transaction.commits_orFail] at performs
    rcases performs with ⟨_, _, ⟨rfl, rfl⟩, revocation, _, ⟨stands, rfl⟩, performs⟩
    rcases Transaction.commits_ite.mp performs with ⟨_, performs⟩ | ⟨_, performs⟩
    · simp only [Transaction.commits_bind, Transaction.not_commits_throw, false_and, exists_false]
        at performs
    · simp only [Transaction.commits_bind, Transaction.commits_set, Transaction.commits_pure] at performs
      rcases performs with ⟨_, _, rfl, rfl, rfl⟩
      exact .read process revocation stands
  | commitRevocation process =>
    simp only [perform, Transaction.commits_bind, Transaction.commits_get, Transaction.commits_orFail,
      Transaction.commits_set, Transaction.commits_pure] at performs
    rcases performs with ⟨_, _, ⟨rfl, rfl⟩, revocation, _, ⟨stands, rfl⟩, sessions, _, ⟨chosen, rfl⟩,
      _, _, rfl, rfl, rfl⟩
    exact .committed process revocation sessions rfl stands chosen
  | abandonRevocation process =>
    simp only [perform, Transaction.commits_bind, Transaction.commits_modify,
      Transaction.commits_pure] at performs
    rcases performs with ⟨_, _, rfl, rfl, rfl⟩
    exact .abandoned process

theorem motion_of_step (accepted : (agentMachine platform).step state action = .ok next) :
    Exists fun answer => AgentMotion state action answer next := by
  rcases agentMachine_step.mp accepted with ⟨answer, performs⟩
  exact ⟨answer, motion_of_commits performs⟩

end AgentSessions
end DigitalSolutions

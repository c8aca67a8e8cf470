import DigitalSolutions.AgentSessions.SessionEffects

namespace DigitalSolutions
namespace AgentSessions

open Foundation Persistence Platform

/-!
# The outcomes of the transactions

For each function of the session code, what a commit of it has done and what
its answer means.
-/

variable {platform : SessionPlatform} {directory : Directory} {moment : SessionMoment} {now : Time}
variable {before after : AgentSessionStore}
variable {account : AgentDeviceAuthorizedAccount}

/-! ## Start and approval -/

theorem startAgentDeviceAuthorization_effect {input : StartInput} {result : StartedAuthorization}
    (commits : (startAgentDeviceAuthorization platform moment input).Commits before result after) :
    SessionEffect moment.now none none before after := by
  unfold startAgentDeviceAuthorization at commits
  simp only [Transaction.commits_bind, Transaction.commits_get, Transaction.commits_liftM,
    Transaction.commits_modify, Transaction.commits_orFail, Transaction.commits_set,
    Transaction.commits_pure] at commits
  rcases commits with ⟨device, _, ⟨_, rfl⟩, _, _, rfl, deviceCodeHash, _, ⟨_, rfl⟩, userCodeHash, _,
    ⟨_, rfl⟩, _, _, ⟨rfl, rfl⟩, authorizations, _, ⟨inserted, rfl⟩, _, _, rfl, _, _, ⟨_, rfl⟩, _, rfl⟩
  have expired : AuthorizationsMoved moment.now none none before.authorizations
      (expirePending device.deviceId before).authorizations := moved_expirePending device.deviceId
  exact SessionEffect.of_authorizations (expired.of_insert inserted
    (.started moment.draw device deviceCodeHash userCodeHash)) rfl

theorem issueNativeBkeAgentHandoff_effect {input : NativeHandoffInput} {result : NativeHandoff}
    (commits : (issueNativeBkeAgentHandoff platform directory moment input).Commits before result
      after) :
    SessionEffect moment.now (some input.principal.id) none before after := by
  unfold issueNativeBkeAgentHandoff at commits
  simp only [Transaction.commits_bind, Transaction.commits_liftM] at commits
  rcases commits with ⟨device, _, ⟨_, rfl⟩, commits⟩
  rcases Transaction.commits_ite.mp commits with ⟨_, commits⟩ | ⟨_, commits⟩
  · simp only [Transaction.commits_bind, Transaction.not_commits_throw, false_and, exists_false]
      at commits
  simp only [Transaction.commits_bind, Transaction.commits_get, Transaction.commits_liftM,
    Transaction.commits_orFail, Transaction.commits_set, Transaction.commits_pure] at commits
  rcases commits with ⟨account, _, ⟨_, rfl⟩, deviceCodeHash, _, ⟨_, rfl⟩, userCodeHash, _, ⟨_, rfl⟩,
    _, _, ⟨rfl, rfl⟩, authorizations, _, ⟨inserted, rfl⟩, _, _, rfl, _, rfl⟩
  have fresh : FreshAuthorization moment.now (some input.principal.id)
      (handoffRow moment device input.principal.id account.id deviceCodeHash userCodeHash) :=
    .issued moment.draw device input.principal.id account.id deviceCodeHash userCodeHash rfl
  exact SessionEffect.of_authorizations
    ((AuthorizationsMoved.refl before.authorizations).of_insert inserted fresh) rfl

theorem approveAgentDeviceAuthorization_effect {input : ApproveInput} {result : ApproveResult}
    (commits : (approveAgentDeviceAuthorization platform directory now input).Commits before result
      after) :
    SessionEffect now (some input.principalId) none before after := by
  unfold approveAgentDeviceAuthorization at commits
  simp only [Transaction.commits_bind, Transaction.commits_get, Transaction.commits_liftM] at commits
  rcases commits with ⟨userCodeHash, _, ⟨_, rfl⟩, _, _, ⟨rfl, rfl⟩, commits⟩
  have answered : forall {value : ApproveResult},
      (pure value : SessionTx AgentSessionStore ApproveResult).Commits before result after ->
      SessionEffect now (some input.principalId) none before after := by
    intro value returned
    rw [← (Transaction.commits_pure.mp returned).2]
    exact SessionEffect.refl before
  split at commits
  case h_2 => exact answered commits
  case h_1 authorization found =>
    have member := before.authorizations.lookup_mem found
    rcases Transaction.commits_ite.mp commits with ⟨ended, commits⟩ | ⟨open', commits⟩
    · simp only [Transaction.commits_bind, Transaction.commits_modify, Transaction.commits_pure]
        at commits
      rcases commits with ⟨_, _, rfl, _, rfl⟩
      have unsettled : authorization.status = .pending ∨ authorization.status = .approved ∨
          authorization.status = .expired := by
        rcases ended with expired | ⟨pending, _⟩
        · exact Or.inr (Or.inr expired)
        · exact Or.inl pending
      exact SessionEffect.of_authorizations (moved_markExpired member unsettled) rfl
    · split at commits
      case h_1 => exact answered commits
      case h_2 => exact answered commits
      case h_3 => exact answered commits
      case h_4 notApproved notDenied notConsumed =>
        simp only [Transaction.commits_bind, Transaction.commits_liftM, Transaction.commits_modify,
          Transaction.commits_pure] at commits
        rcases commits with ⟨account, _, ⟨_, rfl⟩, _, _, rfl, _, rfl⟩
        have unlapsed : now < authorization.expiresAt := by
          by_contra lapsed
          have late : authorization.expiresAt ≤ now := Int.not_lt.mp lapsed
          cases shape : authorization.status with
          | pending => exact open' (Or.inr ⟨shape, late⟩)
          | expired => exact open' (Or.inl shape)
          | approved => exact notApproved shape
          | denied => exact notDenied shape
          | consumed => exact notConsumed shape
        exact SessionEffect.of_authorizations
          (moved_markApproved member unlapsed input.principalId account.id) rfl

/-! ## Polling -/

/-- How a poll comes to return a bundle: it makes the session, or it repeats
the bundle of a hand-off that is still open. -/
inductive Handout (platform : SessionPlatform) (moment : SessionMoment) (input : PollInput)
    (authorization : AgentDeviceAuthorization) (before : AgentSessionStore) :
    AgentAccountTokenBundle -> AgentSessionStore -> Prop
  | created (user : User) (account : AgentDeviceAuthorizedAccount)
    (session : AgentAccountSession) (token : AgentAccountRefreshToken) (ciphertext : String)
    (after : AgentSessionStore) (same : session.id = moment.draw .sessionId)
    (creates : Creates moment.now authorization session token ciphertext before after) :
    Handout platform moment input authorization before
      (bundleOf platform moment user account) after
  | repeated (bundle : AgentAccountTokenBundle) (ciphertext : String) (handoffExpiresAt : Time)
    (consumed : authorization.status = .consumed)
    (sealed : authorization.tokenBundleCiphertext = some ciphertext)
    (window : authorization.handoffExpiresAt = some handoffExpiresAt)
    (inWindow : moment.now < handoffExpiresAt)
    (opened : decryptAgentTokenBundle platform ciphertext input.encryptionKey = .ok bundle) :
    Handout platform moment input authorization before bundle before

/-- What a poll with a known device code does. -/
structure PollOutcome (platform : SessionPlatform) (moment : SessionMoment) (input : PollInput)
    (authorization : AgentDeviceAuthorization) (before : AgentSessionStore) (result : PollResult)
    (after : AgentSessionStore) : Prop where
  effect : Exists fun created => SessionEffect moment.now none created before after
  handout : forall bundle, result = .approved bundle ->
    Handout platform moment input authorization before bundle after

section Poll

variable {input : PollInput} {authorization : AgentDeviceAuthorization} {result : PollResult}

/-- A poll that answers without a bundle. -/
theorem PollOutcome.of_effect (effect : SessionEffect moment.now none none before after)
    (bundleless : forall bundle, result ≠ .approved bundle) :
    PollOutcome platform moment input authorization before result after :=
  ⟨⟨none, effect⟩, fun bundle same => absurd same (bundleless bundle)⟩

theorem PollOutcome.of_pure {answer : PollResult} (bundleless : forall bundle, answer ≠ .approved bundle)
    (commits : (pure answer : SessionTx AgentSessionStore PollResult).Commits before result after) :
    PollOutcome platform moment input authorization before result after := by
  rcases Transaction.commits_pure.mp commits with ⟨rfl, rfl⟩
  exact .of_effect (SessionEffect.refl before) bundleless

/-- A poll that moves its authorization and answers without a bundle. -/
theorem PollOutcome.of_modify {change : AgentSessionStore -> AgentSessionStore} {answer : PollResult}
    (bundleless : forall bundle, answer ≠ .approved bundle)
    (sameFamilies : (change before).families = before.families)
    (moved : AuthorizationsMoved moment.now none none before.authorizations
      (change before).authorizations)
    (commits : (do modify change; return answer : SessionTx AgentSessionStore PollResult).Commits
      before result after) :
    PollOutcome platform moment input authorization before result after := by
  simp only [Transaction.commits_bind, Transaction.commits_modify, Transaction.commits_pure] at commits
  rcases commits with ⟨_, _, rfl, rfl, rfl⟩
  exact .of_effect (SessionEffect.of_authorizations moved sameFamilies) bundleless

theorem pollPending_outcome (member : authorization ∈ before.authorizations)
    (pending : authorization.status = .pending)
    (commits : (pollPending moment.now authorization).Commits before result after) :
    PollOutcome platform moment input authorization before result after := by
  unfold pollPending at commits
  rcases Transaction.commits_ite.mp commits with ⟨_, commits⟩ | ⟨_, commits⟩
  · exact .of_modify (by simp) rfl (moved_markExpired member (Or.inl pending)) commits
  rcases Transaction.commits_ite.mp commits with ⟨_, commits⟩ | ⟨_, commits⟩
  · exact .of_modify (by simp) rfl (moved_slowPolling member pending) commits
  · exact .of_modify (by simp) rfl (moved_notePoll member pending) commits

theorem repeatHandoff_outcome (consumed : authorization.status = .consumed)
    (commits : (repeatHandoff platform moment.now input authorization).Commits before result after) :
    PollOutcome platform moment input authorization before result after := by
  unfold repeatHandoff at commits
  split at commits
  case h_1 => exact .of_pure (by simp) commits
  case h_2 ciphertext sealed =>
    rcases Transaction.commits_ite.mp commits with ⟨inWindow, commits⟩ | ⟨_, commits⟩
    · simp only [Transaction.commits_bind, Transaction.commits_liftM, Transaction.commits_pure] at commits
      rcases commits with ⟨bundle, _, ⟨opened, rfl⟩, rfl, rfl⟩
      rcases (Option.any_eq_true _ _).mp inWindow with ⟨handoffExpiresAt, window, early⟩
      refine ⟨⟨none, SessionEffect.refl before⟩, fun other same => ?_⟩
      cases same
      exact .repeated bundle ciphertext handoffExpiresAt consumed (Option.filter_eq_some_iff.mp sealed).1
        window (of_decide_eq_true early) opened
    · exact .of_modify (by simp) rfl (moved_dropBundle authorization.id) commits

theorem createSession_outcome {user : User} (member : authorization ∈ before.authorizations)
    (approved : authorization.status = .approved) (unlapsed : moment.now < authorization.expiresAt)
    (approvedBy : authorization.approvedByUserId = some user.id)
    (commits : (createSession platform moment input authorization user account).Commits before result
      after) :
    PollOutcome platform moment input authorization before result after := by
  unfold createSession at commits
  simp only [Transaction.commits_bind, Transaction.commits_get, Transaction.commits_liftM,
    Transaction.commits_orFail, Transaction.commits_set, Transaction.commits_pure] at commits
  rcases commits with ⟨ciphertext, _, ⟨_, rfl⟩, accessTokenHash, _, ⟨_, rfl⟩, _, _, ⟨rfl, rfl⟩,
    sessions, _, ⟨sessionInserted, rfl⟩, tokenHash, _, ⟨_, rfl⟩, refreshTokens, _,
    ⟨tokenInserted, rfl⟩, authorizations, _, ⟨amended, rfl⟩, _, _, rfl, rfl, rfl⟩
  have creates : Creates moment.now authorization
      (createdSession moment authorization user account accessTokenHash)
      (issuedToken moment (moment.draw .sessionId) tokenHash 0 (moment.now + refreshTokenTtl))
      ciphertext before { authorizations, sessions, refreshTokens } :=
    { member, approved, unlapsed, approvedBy, founds := ⟨rfl, rfl, rfl, rfl, rfl, rfl⟩
      authorizationId := rfl, sessions := sessionInserted, refreshTokens := tokenInserted
      authorizations := amended }
  refine ⟨⟨_, SessionEffect.of_creates creates⟩, fun bundle same => ?_⟩
  cases same
  exact .created user account _ _ ciphertext _ rfl creates

theorem exchangeApproved_outcome (member : authorization ∈ before.authorizations)
    (approved : authorization.status = .approved) (unlapsed : moment.now < authorization.expiresAt)
    (commits : (exchangeApproved platform directory moment input authorization).Commits before result
      after) :
    PollOutcome platform moment input authorization before result after := by
  unfold exchangeApproved at commits
  split at commits
  case h_2 => exact .of_pure (by simp) commits
  case h_1 approvedByUserId approvedAccountId byUser byAccount =>
    rcases Transaction.commits_ite.mp commits with ⟨_, commits⟩ | ⟨_, commits⟩
    · exact .of_pure (by simp) commits
    split at commits
    case h_2 => exact .of_modify (by simp) rfl (moved_markDenied member approved) commits
    case h_1 account user _ active =>
      have found := (Option.filter_eq_some_iff.mp active).1
      have sameUser : user.id = approvedByUserId := by
        have key : approvedByUserId ∈ [user.id] := directory.users.lookup_key found
        exact (List.mem_singleton.mp key).symm
      exact createSession_outcome member approved unlapsed (sameUser ▸ byUser) commits

/-- A poll either does not know the device code, or has the outcome of a poll
of the authorization it names. -/
theorem pollAgentDeviceAuthorization_outcome
    (commits : (pollAgentDeviceAuthorization platform directory moment input).Commits before result
      after) :
    (after = before ∧ result = .expiredToken) ∨
      Exists fun deviceCodeHash => Exists fun authorization =>
        hashAgentDeviceCode platform input.deviceCode input.pepper = .ok deviceCodeHash ∧
        before.authorizations.lookup (.deviceCodeHash deviceCodeHash) = some authorization ∧
        PollOutcome platform moment input authorization before result after ∧
        (forall bundle, result = .approved bundle ->
          authorization.authorizationKind = .nativeHandoff ->
          namesDevice input.deviceId authorization = true) := by
  unfold pollAgentDeviceAuthorization at commits
  simp only [Transaction.commits_bind, Transaction.commits_get, Transaction.commits_liftM] at commits
  rcases commits with ⟨deviceCodeHash, _, ⟨hashed, rfl⟩, _, _, ⟨rfl, rfl⟩, commits⟩
  split at commits
  case h_2 =>
    rcases Transaction.commits_pure.mp commits with ⟨rfl, rfl⟩
    exact Or.inl ⟨rfl, rfl⟩
  case h_1 authorization found =>
    refine Or.inr ⟨deviceCodeHash, authorization, hashed, found, ?_⟩
    have member := before.authorizations.lookup_mem found
    rcases Transaction.commits_ite.mp commits with ⟨_, commits⟩ | ⟨admitted, commits⟩
    · refine ⟨.of_pure (by simp) commits, fun bundle same => ?_⟩
      rw [← (Transaction.commits_pure.mp commits).1] at same
      cases same
    · refine ⟨?_, fun bundle _ native => ?_⟩
      · split at commits
        case h_1 pending => exact pollPending_outcome member pending commits
        case h_2 => exact .of_pure (by simp) commits
        case h_3 => exact .of_pure (by simp) commits
        case h_4 consumed => exact repeatHandoff_outcome consumed commits
        case h_5 approved =>
          rcases Transaction.commits_ite.mp commits with ⟨_, commits⟩ | ⟨unlapsed, commits⟩
          · exact .of_modify (by simp) rfl (moved_expireApproved authorization.id) commits
          · exact exchangeApproved_outcome member approved (Int.not_le.mp unlapsed) commits
      · by_contra unnamed
        exact admitted ⟨native, by simpa using unnamed⟩

end Poll

/-! ## Refresh -/

/-- What a refresh that succeeds has found and done. -/
structure Refreshed (platform : SessionPlatform) (moment : SessionMoment) (input : RefreshInput)
    (before : AgentSessionStore) (bundle : AgentAccountTokenBundle) (after : AgentSessionStore) :
    Prop where
  presented : Exists fun tokenHash => Exists fun token =>
    hashAgentRefreshToken platform input.refreshToken input.pepper = .ok tokenHash ∧
    before.refreshTokens.lookup (.tokenHash tokenHash) = some token ∧ token.status = .active ∧
    token.sessionId = bundle.sessionId
  session : Exists fun session => session ∈ before.sessions ∧ session.id = bundle.sessionId ∧
    session.revokedAt = none
  silent : Silent bundle.sessionId after.authorizations

theorem rotateSession_outcome {input : RefreshInput} {token : AgentAccountRefreshToken}
    {session : AgentAccountSession} {user : User} {result : RefreshResult}
    (tokenMember : token ∈ before.refreshTokens) (sessionMember : session ∈ before.sessions)
    (owned : token.sessionId = session.id) (active : token.status = .active)
    (unrevoked : session.revokedAt = none)
    (commits : (rotateSession platform moment input token session user account).Commits before result
      after) :
    result = .refreshed (refreshedBundle platform moment session user account) ∧
      after.authorizations = (endHandoff session.id moment.now before).authorizations ∧
      SessionEffect moment.now none none before after := by
  unfold rotateSession at commits
  simp only [Transaction.commits_bind, Transaction.commits_get, Transaction.commits_liftM,
    Transaction.commits_orFail] at commits
  rcases commits with ⟨_, _, ⟨rfl, rfl⟩, tokenHash, _, ⟨_, rfl⟩, refreshTokens, _, ⟨inserted, rfl⟩,
    accessTokenHash, _, ⟨_, rfl⟩, commits⟩
  rcases Transaction.commits_ite.mp commits with ⟨_, commits⟩ | ⟨checked, commits⟩
  · simp only [Transaction.commits_bind, Transaction.not_commits_throw, false_and, exists_false]
      at commits
  simp only [Transaction.commits_bind, Transaction.commits_orFail, Transaction.commits_set,
    Transaction.commits_pure] at commits
  rcases commits with ⟨sessions, _, ⟨amended, rfl⟩, _, _, rfl, rfl, rfl⟩
  have rotates : Rotates moment.now token
      (issuedToken moment session.id tokenHash (session.refreshGeneration + 1)
        session.refreshExpiresAt) session accessTokenHash before.families
      (endHandoff session.id moment.now { before with sessions, refreshTokens }).families :=
    { tokenMember, sessionMember, owned, active, unrevoked, nextOwned := rfl, nextGeneration := rfl
      nextExpiresAt := rfl, nextActive := rfl, check := not_not.mp checked
      refreshTokens := inserted, sessions := amended }
  exact ⟨rfl, rfl, SessionEffect.of_rotates rfl rotates⟩

theorem refreshAgentAccountSession_outcome {input : RefreshInput} {result : RefreshResult}
    (commits : (refreshAgentAccountSession platform directory moment input).Commits before result
      after) :
    SessionEffect moment.now none none before after ∧
      forall bundle, result = .refreshed bundle ->
        Refreshed platform moment input before bundle after := by
  unfold refreshAgentAccountSession at commits
  simp only [Transaction.commits_bind, Transaction.commits_get, Transaction.commits_liftM] at commits
  rcases commits with ⟨tokenHash, _, ⟨hashed, rfl⟩, _, _, ⟨rfl, rfl⟩, commits⟩
  have unknown : (pure .invalidGrant : SessionTx AgentSessionStore RefreshResult).Commits before result
      after -> SessionEffect moment.now none none before after ∧
        forall bundle, result = .refreshed bundle ->
          Refreshed platform moment input before bundle after := by
    intro returned
    rcases Transaction.commits_pure.mp returned with ⟨rfl, rfl⟩
    exact ⟨SessionEffect.refl before, by simp⟩
  split at commits
  case h_2 => exact unknown commits
  case h_1 token found =>
    split at commits
    case h_2 => exact unknown commits
    case h_1 session owner =>
      have revoked : forall {value : RefreshResult}, (forall bundle, value ≠ .refreshed bundle) ->
          (do modify (revokeAgentSessionFamily session.id moment.now); return value :
            SessionTx AgentSessionStore RefreshResult).Commits before result after ->
          SessionEffect moment.now none none before after ∧
            forall bundle, result = .refreshed bundle ->
              Refreshed platform moment input before bundle after := by
        intro value bundleless returned
        simp only [Transaction.commits_bind, Transaction.commits_modify, Transaction.commits_pure]
          at returned
        rcases returned with ⟨_, _, rfl, rfl, rfl⟩
        exact ⟨effect_revokeAgentSessionFamily session.id before,
          fun bundle same => absurd same (bundleless bundle)⟩
      rcases Transaction.commits_ite.mp commits with ⟨_, commits⟩ | ⟨presented, commits⟩
      · exact revoked (by simp) commits
      rcases Transaction.commits_ite.mp commits with ⟨_, commits⟩ | ⟨current, commits⟩
      · exact revoked (by simp) commits
      split at commits
      case h_1 => exact revoked (by simp) commits
      case h_2 account user authority =>
        have active : token.status = .active := not_not.mp presented
        have owned : token.sessionId = session.id := by
          have key := before.sessions.lookup_key owner
          simpa [Keyed.keys] using key
        have unrevoked : session.revokedAt = none := by
          by_contra revoked
          exact current (Or.inr (Or.inr (Option.isSome_iff_ne_none.mpr revoked)))
        rcases rotateSession_outcome (before.refreshTokens.lookup_mem found)
          (before.sessions.lookup_mem owner) owned active unrevoked commits with
          ⟨rfl, authorizations, effect⟩
        refine ⟨effect, fun bundle same => ?_⟩
        cases same
        exact ⟨⟨tokenHash, token, hashed, found, active, owned⟩,
          ⟨session, before.sessions.lookup_mem owner, rfl, unrevoked⟩,
          authorizations ▸ silent_endHandoff session.id before⟩

/-- A refresh token that is known and not active revokes its family, and says
so. -/
theorem refreshAgentAccountSession_of_replay {input : RefreshInput} {tokenHash : String}
    {token : AgentAccountRefreshToken} {session : AgentAccountSession}
    (hashed : hashAgentRefreshToken platform input.refreshToken input.pepper = .ok tokenHash)
    (found : before.refreshTokens.lookup (.tokenHash tokenHash) = some token)
    (owner : before.sessions.lookup (.id token.sessionId) = some session)
    (inactive : token.status ≠ .active) :
    (refreshAgentAccountSession platform directory moment input).Commits before .replayDetected
      (revokeAgentSessionFamily session.id moment.now before) := by
  unfold refreshAgentAccountSession
  simp only [Transaction.commits_bind, Transaction.commits_get, Transaction.commits_liftM]
  refine ⟨tokenHash, before, ⟨hashed, rfl⟩, before, before, ⟨rfl, rfl⟩, ?_⟩
  simp only [found, owner, Transaction.commits_ite]
  refine Or.inl ⟨inactive, ?_⟩
  simp only [Transaction.commits_bind, Transaction.commits_modify, Transaction.commits_pure]
  exact ⟨⟨⟩, _, rfl, trivial, rfl⟩

/-! ## Use of a session -/

/-- What an authentication that succeeds has found. -/
structure Authenticated (platform : SessionPlatform) (now : Time) (input : AccessInput)
    (before : AgentSessionStore) (agent : AuthenticatedAgent) : Prop where
  session : Exists fun session => session ∈ before.sessions ∧ session.id = agent.sessionId ∧
    session.userId = agent.userId ∧ session.revokedAt = none ∧ now < session.accessExpiresAt ∧
    hashAgentAccessToken platform input.accessToken input.pepper = .ok session.accessTokenHash

theorem sameColumn_noteSeen (sessionId : Id) (store : AgentSessionStore) :
    Table.SameColumn familyColumns store.sessions (noteSeen sessionId now store).sessions := by
  have wrote : (noteSeen sessionId now store).sessions.rows = store.sessions.rows.map
      (fun row => if decide (row.id = sessionId) then { row with lastSeenAt := some now } else row) :=
    rfl
  exact Table.sameColumn_update wrote (fun _ => rfl)

theorem effect_noteSeen (sessionId : Id) (store : AgentSessionStore) :
    SessionEffect now none none store (noteSeen sessionId now store) :=
  SessionEffect.of_touched rfl (sameColumn_noteSeen sessionId store) rfl

/-- A transaction that first records the use of a session. -/
theorem effect_after_noteSeen {created : Option Id} (sessionId : Id)
    (effect : SessionEffect now none created (noteSeen sessionId now before) after) :
    SessionEffect now none created before after := by
  have sessions : Table.SameColumn familyColumns before.sessions
      (noteSeen sessionId now before).sessions := sameColumn_noteSeen sessionId before
  have sameAuthorizations : (noteSeen sessionId now before).authorizations = before.authorizations :=
    rfl
  exact SessionEffect.after_touched sameAuthorizations sessions rfl effect

theorem authenticateAgentAccessToken_outcome {input : AccessInput} {result : AuthenticateResult}
    (commits : (authenticateAgentAccessToken platform directory now input).Commits before result
      after) :
    (result = .invalidToken ∧ SessionEffect now none none before after) ∨
      Exists fun agent => result = .authenticated agent ∧
        after = noteSeen agent.sessionId now before ∧ Authenticated platform now input before agent := by
  unfold authenticateAgentAccessToken at commits
  simp only [Transaction.commits_bind, Transaction.commits_get, Transaction.commits_liftM] at commits
  rcases commits with ⟨hash, _, ⟨hashed, rfl⟩, _, _, ⟨rfl, rfl⟩, commits⟩
  have refused : (pure .invalidToken : SessionTx AgentSessionStore AuthenticateResult).Commits before
      result after -> result = .invalidToken ∧ SessionEffect now none none before after := by
    intro returned
    rcases Transaction.commits_pure.mp returned with ⟨rfl, rfl⟩
    exact ⟨rfl, SessionEffect.refl before⟩
  split at commits
  case h_2 => exact Or.inl (refused commits)
  case h_1 session found =>
    rcases Transaction.commits_ite.mp commits with ⟨_, commits⟩ | ⟨current, commits⟩
    · exact Or.inl (refused commits)
    split at commits
    case h_1 =>
      simp only [Transaction.commits_bind, Transaction.commits_modify, Transaction.commits_pure]
        at commits
      rcases commits with ⟨_, _, rfl, rfl, rfl⟩
      exact Or.inl ⟨rfl, effect_revokeAgentSessionFamily session.id before⟩
    case h_2 =>
      simp only [Transaction.commits_bind, Transaction.commits_modify, Transaction.commits_pure]
        at commits
      rcases commits with ⟨_, _, rfl, rfl, rfl⟩
      have sameHash : session.accessTokenHash = hash := by
        have key := before.sessions.lookup_key found
        simp only [Keyed.keys, List.mem_cons, reduceCtorEq, AgentAccountSession.Key.accessTokenHash.injEq,
          List.not_mem_nil, or_false, false_or] at key
        exact key.symm
      have unrevoked : session.revokedAt = none := by
        by_contra revoked
        exact current (Or.inl (Option.isSome_iff_ne_none.mpr revoked))
      have inTerm : now < session.accessExpiresAt := by
        by_contra ended
        exact current (Or.inr (Int.not_lt.mp ended))
      exact Or.inr ⟨_, rfl, rfl, ⟨session, before.sessions.lookup_mem found, rfl, rfl, unrevoked,
        inTerm, sameHash ▸ hashed⟩⟩

theorem acknowledgeAgentSessionHandoff_outcome {input : AccessInput} {result : AcknowledgeResult}
    (commits : (acknowledgeAgentSessionHandoff platform directory now input).Commits before result
      after) :
    SessionEffect now none none before after ∧
      forall sessionId, result = .acknowledged sessionId -> Silent sessionId after.authorizations ∧
        Exists fun agent => agent.sessionId = sessionId ∧
          Authenticated platform now input before agent := by
  unfold acknowledgeAgentSessionHandoff at commits
  rw [Transaction.commits_bind] at commits
  rcases commits with ⟨authentication, middle, authenticates, commits⟩
  rcases authenticateAgentAccessToken_outcome authenticates with
    ⟨rfl, effect⟩ | ⟨agent, rfl, rfl, found⟩
  · rcases Transaction.commits_pure.mp commits with ⟨rfl, rfl⟩
    exact ⟨effect, by simp⟩
  · simp only [Transaction.commits_bind, Transaction.commits_modify, Transaction.commits_pure] at commits
    rcases commits with ⟨_, _, rfl, rfl, rfl⟩
    constructor
    · exact effect_after_noteSeen agent.sessionId
        (SessionEffect.of_authorizations (moved_endHandoff agent.sessionId) rfl)
    · intro sessionId same
      cases same
      exact ⟨silent_endHandoff agent.sessionId _, agent, rfl, found⟩

/-! ## Revocation, cancellation and the rest -/

theorem revokeAgentAccountSession_outcome {input : RefreshInput} {result : RevokeResult}
    (commits : (revokeAgentAccountSession platform now input).Commits before result after) :
    SessionEffect now none none before after ∧
      forall sessionId, result = .revoked sessionId -> Silent sessionId after.authorizations ∧
        Exists fun token => token ∈ before.refreshTokens ∧ token.sessionId = sessionId := by
  unfold revokeAgentAccountSession at commits
  simp only [Transaction.commits_bind, Transaction.commits_get, Transaction.commits_liftM] at commits
  rcases commits with ⟨tokenHash, _, ⟨_, rfl⟩, _, _, ⟨rfl, rfl⟩, commits⟩
  split at commits
  case h_2 =>
    rcases Transaction.commits_pure.mp commits with ⟨rfl, rfl⟩
    exact ⟨SessionEffect.refl before, by simp⟩
  case h_1 token found =>
    simp only [Transaction.commits_bind, Transaction.commits_modify, Transaction.commits_pure] at commits
    rcases commits with ⟨_, _, rfl, rfl, rfl⟩
    refine ⟨effect_revokeAgentSessionFamily token.sessionId before, fun sessionId same => ?_⟩
    cases same
    exact ⟨silent_endHandoff token.sessionId _, token, before.refreshTokens.lookup_mem found, rfl⟩

/-- An accepted cancellation denies every authorization under the device code
that was still open. -/
theorem cancelAgentDeviceAuthorization_outcome {input : CancelInput} {result : CancelResult}
    (commits : (cancelAgentDeviceAuthorization platform now input).Commits before result after) :
    SessionEffect now none none before after ∧
      (result = .cancelled -> Exists fun deviceCodeHash => Exists fun row =>
        hashAgentDeviceCode platform input.deviceCode input.pepper = .ok deviceCodeHash ∧
        row ∈ after.authorizations ∧ row.deviceCodeHash = deviceCodeHash ∧ row.status = .denied) := by
  unfold cancelAgentDeviceAuthorization at commits
  simp only [Transaction.commits_bind, Transaction.commits_get, Transaction.commits_liftM,
    Transaction.commits_set, Transaction.commits_pure] at commits
  rcases commits with ⟨deviceCodeHash, _, ⟨hashed, rfl⟩, _, _, ⟨rfl, rfl⟩, _, _, rfl, rfl, rfl⟩
  refine ⟨SessionEffect.of_authorizations (moved_cancelOpen deviceCodeHash) rfl, fun cancelled => ?_⟩
  have chosen : before.authorizations.select (fun row => row.deviceCodeHash = deviceCodeHash &&
      (row.status = .pending || row.status = .approved)) ≠ [] := by
    intro none'
    rw [none'] at cancelled
    cases cancelled
  rcases List.exists_mem_of_ne_nil _ chosen with ⟨row, selected⟩
  rcases (before.authorizations.mem_select).mp selected with ⟨member, open'⟩
  have wrote : (cancelOpen deviceCodeHash now before).authorizations.rows =
      before.authorizations.rows.map (fun row =>
        if row.deviceCodeHash = deviceCodeHash && (row.status = .pending || row.status = .approved) then
          { row with status := .denied, deniedAt := some now, tokenBundleCiphertext := none }
        else row) := rfl
  refine ⟨deviceCodeHash, _, hashed, (Table.mem_of_rows wrote).mpr ⟨row, member, rfl⟩, ?_, ?_⟩
  · rw [if_pos open']
    simp only [Bool.and_eq_true, decide_eq_true_eq] at open'
    exact open'.1
  · rw [if_pos open']

theorem markAgentSessionRecentlyAuthenticated_effect {input : RecentAuthInput} {result : Bool}
    (commits : (markAgentSessionRecentlyAuthenticated now input).Commits before result after) :
    SessionEffect now none none before after := by
  unfold markAgentSessionRecentlyAuthenticated at commits
  simp only [Transaction.commits_bind, Transaction.commits_get, Transaction.commits_set,
    Transaction.commits_pure] at commits
  rcases commits with ⟨_, _, ⟨rfl, rfl⟩, _, _, rfl, _, rfl⟩
  refine SessionEffect.of_touched rfl ?_ rfl
  exact Table.sameColumn_update rfl (fun _ => rfl)

theorem changeAgentPassword_outcome {input : PasswordChangeInput} {result : PasswordChangeResult}
    (commits : (changeAgentPassword platform directory now input).Commits before result after) :
    SessionEffect now none none before after ∧
      forall agent, result = .changed agent ->
        Authenticated platform now input.access before agent := by
  unfold changeAgentPassword at commits
  rw [Transaction.commits_bind] at commits
  rcases commits with ⟨authentication, middle, authenticates, commits⟩
  have answered : forall {value : PasswordChangeResult}, (forall agent, value ≠ .changed agent) ->
      (pure value : SessionTx AgentSessionStore PasswordChangeResult).Commits middle result after ->
      SessionEffect now none none before middle ->
      SessionEffect now none none before after ∧ forall agent, result = .changed agent ->
        Authenticated platform now input.access before agent := by
    intro value unchanged returned effect
    rcases Transaction.commits_pure.mp returned with ⟨rfl, rfl⟩
    exact ⟨effect, fun agent same => absurd same (unchanged agent)⟩
  rcases authenticateAgentAccessToken_outcome authenticates with
    ⟨rfl, effect⟩ | ⟨agent, rfl, rfl, found⟩
  · exact answered (by simp) commits effect
  · have seen : SessionEffect now none none before (noteSeen agent.sessionId now before) :=
      effect_noteSeen agent.sessionId before
    rcases Transaction.commits_ite.mp commits with ⟨_, commits⟩ | ⟨_, commits⟩
    · exact answered (by simp) commits seen
    split at commits
    case h_1 => exact answered (by simp) commits seen
    case h_2 => exact answered (by simp) commits seen
    case h_3 =>
      rcases Transaction.commits_ite.mp commits with ⟨_, commits⟩ | ⟨_, commits⟩
      · exact answered (by simp) commits seen
      simp only [Transaction.commits_bind, Transaction.commits_modify, Transaction.commits_pure] at commits
      rcases commits with ⟨_, _, rfl, rfl, rfl⟩
      refine ⟨effect_after_noteSeen agent.sessionId
        (effect_revokeAgentAccountSessionsForUser agent.userId _), fun other same => ?_⟩
      cases same
      exact found

end AgentSessions
end DigitalSolutions
